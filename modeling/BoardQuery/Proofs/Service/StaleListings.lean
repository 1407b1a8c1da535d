import BoardQuery.Proofs.Filter.Faults
import BoardQuery.Proofs.Query.StaleFilters
import BoardQuery.Proofs.Service.FilterSources

/-!
# Listings by saved filters on a board that has changed

A listing by a saved filter builds the filter again on the board as it is now. That ends in the
filter or in a report of what is wrong with it, and never in a fault (`build_altered_answers`): the
conditions that a written filter poses are its own (`poses_toDocument`), and none of their operands
strays. So after columns were removed, renamed or retyped to other families, the listing is refused
as one by an invalid filter exactly if the operand of a stale condition does not suit the defaults
of its type (`listTasks_stale_refused_iff`).
-/

namespace BoardQuery

open FilterBuilder

/-! ## What a written filter poses -/

theorem mem_membersJson {v : Json} {members : List BuiltFilter}
    (h : v ∈ RawFilter.membersJson (Filter.mapMembers Json.str Operand.toJson members)) :
    ∃ m ∈ members, v = RawFilter.toJson m.toRaw := by
  induction members with
  | nil => exact absurd h List.not_mem_nil
  | cons m ms ih =>
    rw [Filter.mapMembers, RawFilter.membersJson] at h
    rcases List.mem_cons.1 h with h | h
    · exact ⟨m, List.mem_cons_self, h⟩
    · obtain ⟨m', hm', h⟩ := ih h
      exact ⟨m', .tail m hm', h⟩

theorem Filter.mem_membersLeaves {Name Value : Type} {l : Leaf Name Value}
    {m : Filter Name Value} {members : List (Filter Name Value)} (hm : m ∈ members)
    (hl : l ∈ m.leaves) : l ∈ membersLeaves members := by
  induction hm with
  | head => exact List.mem_append_left _ hl
  | tail _ _ ih => exact List.mem_append_right _ ih

/-- The conditions that a written filter holds are its own. -/
theorem Json.HoldsAt.written {raw : Json} {path path' : String} {fields : Fields}
    (h : raw.HoldsAt path path' fields) : ∀ t : BuiltFilter, raw = RawFilter.toJson t.toRaw →
      ∃ l ∈ t.leaves, fields = l.written := by
  induction h with
  | @here path fields htype hleaf =>
    intro t ht
    cases t with
    | leaf l =>
      rw [toJson_leaf, Json.obj.injEq] at ht
      exact ⟨l, List.mem_singleton_self l, ht⟩
    | group logic members =>
      rw [toJson_group, Json.obj.injEq] at ht
      subst ht
      exact absurd (.inr rfl) hleaf
  | @inside outer fields path path' items i v htype hgroup hitems hv h ih =>
    intro t ht
    cases t with
    | leaf l =>
      rw [toJson_leaf, Json.obj.injEq] at ht
      subst ht
      exact absurd hgroup l.written_type.2
    | group logic members =>
      rw [toJson_group, Json.obj.injEq] at ht
      subst ht
      obtain ⟨-, -, hwritten⟩ := get_groupFields "" logic
        (RawFilter.membersJson (Filter.mapMembers Json.str Operand.toJson members))
      obtain rfl := Json.arr.inj (Option.some.inj (hwritten.symm.trans hitems))
      obtain ⟨m, hm, hvm⟩ := mem_membersJson (List.mem_of_getElem? hv)
      obtain ⟨l, hl, hfields⟩ := ih m hvm
      exact ⟨l, Filter.mem_membersLeaves hm hl, hfields⟩

theorem poses_toDocument {logic : Logic} {members : List BuiltFilter} {path : String}
    {fields : Fields}
    (h : (RawFilter.toDocument (BuiltFilter.toRaw (.group logic members))).Poses path fields) :
    ∃ l ∈ Filter.membersLeaves members, fields = l.written := by
  rw [toDocument_group] at h
  cases h with
  | wrapped houter hitems hv h =>
    obtain rfl := Json.arr.inj hitems
    obtain ⟨m, hm, hvm⟩ := mem_membersJson (List.mem_of_getElem? hv)
    obtain ⟨l, hl, hfields⟩ := h.written m hvm
    exact ⟨l, Filter.mem_membersLeaves hm hl, hfields⟩
  | single houter => exact absurd houter (by simp [Fields.has])

/-! ## Operands of stale conditions -/

section Again

variable {env : Surroundings} {s s' : BoardSchema} {t : ColumnType} {op : Operator} {v : Operand}
  {l : Leaf String Operand}

theorem defaultBounds_not_huge (t : ColumnType) :
    ¬ (Fields.get t.defaultOptions "min").Huge ∧ ¬ (Fields.get t.defaultOptions "max").Huge := by
  by_cases ht : t = .percentage
  · subst ht
    constructor <;> rintro ⟨n, hn, hhuge⟩ <;> obtain rfl := Json.int.inj hn <;>
      exact absurd hhuge (by decide +kernel)
  · rw [(defaultBounds_of_ne ht).1, (defaultBounds_of_ne ht).2]
    exact ⟨Json.not_huge_null, Json.not_huge_null⟩

/-- Under the defaults of its type, a written operand is read without a fault. -/
theorem Operand.Formed.not_strays (h : v.Formed t op) (hop : op.testsEmptiness = false)
    (now : Moment) : ¬ v.toJson.StraysAsOperand now t t.defaultOptions := by
  have hmoment {text : String} {m : Moment}
      (hread : (Json.str text).toMoment? now = .ok (some m)) :
      ¬ (Json.str text).OutsideCalendar now := by
    rw [← Json.toMoment?_fails_iff, hread]
    exact not_endsIn_ok
  cases h with
  | absent hop' => exact absurd (hop.symm.trans hop') Bool.false_ne_true
  | number ht =>
    rw [Json.StraysAsOperand, ht]
    rintro (⟨n, hn, -⟩ | ⟨x, -, hmin | ⟨hmax, -⟩⟩)
    · exact Json.noConfusion hn
    · exact (defaultBounds_not_huge t).1 hmin
    · exact (defaultBounds_not_huge t).2 hmax
  | @day d ht =>
    subst ht
    exact hmoment (Json.toMoment?_dateText now d)
  | @second m ht =>
    subst ht
    exact hmoment (Json.toMoment?_secondText now m)
  | whole ht | part ht | choice ht | choices ht | user ht | users ht | labels ht | checked ht =>
    rw [Json.StraysAsOperand, ht]
    exact id

/-- After a change a written condition that stood before is built, or reported. -/
theorem Leaf.Stands.altered_answers (h : l.Stands ⟨env, resolve (some s), false⟩)
    (hl : l.WellFormed) (halter : s.AlteredAt s' l.column) (now : Moment) (path : String) :
    ¬ EndsIn FilterError.fault
      (buildLeaf ⟨{ env with now }, resolve (some s'), true⟩ path l.written) := by
  obtain ⟨hkeeps, hstands⟩ := h.altered halter now
  cases hstale : l.isStale s' with
  | false =>
    have hagain := hstands.2 fun h => absurd (hstale.symm.trans h) Bool.false_ne_true
    rw [(buildLeaf_written hl hkeeps).2 ⟨rfl, hagain⟩]
    exact not_endsIn_ok
  | true =>
    simp only [buildLeaf_written_eq hl, endsIn_bind, adopt_not_fault, not_endsIn_pure, false_or,
      or_false, and_false, exists_false, Prod.exists, adopt_eq_ok]
    rintro ⟨t, o, hadopted, hfault⟩
    obtain rfl : o = l.columnType.defaultOptions := by
      cases hadopted with
      | unknown | stale => rfl
      | known hresolve hfamily =>
        have hresolve : resolve (some s') l.column = some _ := hresolve
        simp [Leaf.isStale, hresolve, hfamily] at hstale
    obtain rfl := hkeeps t _ hadopted
    obtain ⟨hop, hstrays⟩ :=
      (readOperandAt_fault_iff hl.operator (Options.InOrder.defaults l.columnType)).1 hfault
    exact hl.operand.not_strays hop now hstrays

/-- A filter that was built on a board is built again after the change, or reported. -/
theorem build_altered_answers {raw : Json} {t : BuiltFilter}
    (hbuilt : build ⟨env, resolve (some s), false⟩ raw = .ok t)
    (halter : ∀ l ∈ t.leaves, s.AlteredAt s' l.column) (now : Moment) :
    ¬ EndsIn FilterError.fault
      (build ⟨{ env with now }, resolve (some s'), true⟩ t.toRaw.toDocument) := by
  intro hfault
  obtain ⟨hsound, hstands⟩ := build_sound hbuilt
  obtain ⟨logic, members, rfl⟩ := build_eq_group hbuilt
  obtain ⟨path, fields, hposes, hleaf⟩ := poses_of_fault hfault
  obtain ⟨l, hl, rfl⟩ := poses_toDocument hposes
  exact (hstands l hl).altered_answers (hsound.leaves l hl) (halter l hl) now path hleaf

end Again

/-! ## Listings -/

section Listings

variable {c : Settings} {now m : Moment} {s s' : Store} {b : Board} {userId id : String}
  {q : TaskQuery} {raw : Json} {t : BuiltFilter} {f : SavedFilter}

/-- A listing without a filter to be saved is refused for its filter only if that cannot be
built. -/
theorem listTasks_refused_iff {applied : Option SavedFilter} (hsave : q.saveFilter = false)
    (hraw : queryFilter s b.id userId q = .ok (raw, applied)) {issues : List Issue} :
    listTasks c now s b userId q = .error (.filter issues)
      ↔ builtQueryFilter s now (s.schema b) raw applied.isSome = .error (.filter issues) := by
  have hsaved (s' : Store) (tree : Option BuiltFilter) :
      saveQueryFilter now s' (s.schema b) userId q raw tree = .ok (s', none) := by
    rw [saveQueryFilter, hsave]
    rfl
  simp only [listTasks, hraw, ok_bind, hsaved]
  rcases builtQueryFilter s now (s.schema b) raw applied.isSome with e | tree
  · rw [error_bind, Except.error.injEq, Except.error.injEq]
  · refine iff_of_false (fun h => ?_) (by simp)
    -- What comes after the filter ends in faults only.
    simp only [ok_bind, bind_eq_error, orFault_eq_error] at h
    obtain ⟨f, -, h⟩ | ⟨_, -, ⟨f, -, h⟩ | ⟨_, -, ⟨f, -, h⟩ | ⟨_, -, h⟩⟩⟩ := h <;> cases h

/-- A filter was built on a board and saved, and columns have been removed, renamed or retyped to
other families since. A listing by it is refused as one by an invalid filter exactly if the operand
of a stale condition does not suit the defaults of its type. -/
theorem listTasks_stale_refused_iff (hbuilt : buildFilter s m (s.schema b) false raw = .ok t)
    (husers : s'.users = s.users)
    (halter : ∀ l ∈ t.leaves, (s.schema b).AlteredAt (s'.schema b) l.column)
    (hid : q.savedFilterId = some id) (hsave : q.saveFilter = false)
    (husable : usableFilter s' id b.id userId = .ok f)
    (hdefinition : f.definition = t.toRaw.toDocument) :
    (∃ issues, listTasks c now s' b userId q = .error (.filter issues))
      ↔ ∃ l ∈ t.leaves, l.isStale (s'.schema b) = true
        ∧ ¬ l.operand.SuitsDefaults l.columnType := by
  have hraw : queryFilter s' b.id userId q = .ok (t.toRaw.toDocument, some f) := by
    rw [queryFilter, hid, ← hdefinition]
    dsimp only
    rw [husable]
    rfl
  have hstated : statesFilter t.toRaw.toDocument = true :=
    statesFilter_of_build (mapError_eq_ok.1 (buildFilter_again hbuilt m true))
  have hcontext : s'.buildContext now (s'.schema b) true
      = ⟨{ s.surroundings m with now }, resolve (some (s'.schema b)), true⟩ := by
    have hexists : s'.userExists = s.userExists := by
      funext id
      rw [Store.userExists, Store.userExists, Store.user?, Store.user?, husers]
    rw [Store.buildContext, Store.surroundings, hexists]
    rfl
  rw [buildFilter, mapError_eq_ok] at hbuilt
  have hagain := build_altered hbuilt halter now
  have hanswers := build_altered_answers hbuilt halter now
  simp only [listTasks_refused_iff hsave hraw, builtQueryFilter, hstated, if_true,
    Option.isSome_some, buildFilter, hcontext]
  rcases hbuild : build ⟨{ s.surroundings m with now }, resolve (some (s'.schema b)), true⟩
    t.toRaw.toDocument with (issues | fault) | t'
  · have hunsuited : ¬ ∀ l ∈ t.leaves, l.isStale (s'.schema b) = true →
        l.operand.SuitsDefaults l.columnType := fun hsuits =>
      absurd (hbuild.symm.trans ((hagain t).2 ⟨rfl, hsuits⟩)) (by simp)
    push Not at hunsuited
    exact iff_of_true ⟨issues, rfl⟩ hunsuited
  · exact absurd ⟨fault, hbuild⟩ hanswers
  · obtain ⟨-, hsuits⟩ := (hagain t').1 hbuild
    constructor
    · rintro ⟨issues, h⟩
      exact absurd h (by simp [Except.mapError, Except.map])
    · rintro ⟨l, hl, hstale, hnot⟩
      exact absurd (hsuits l hl hstale) hnot

end Listings

section Example

open Sample

/-- A board with a stage. -/
def Sample.staged : Store :=
  store (column "stage" .status [("options", .ofStrings ["done", "review"])]) [] []

/-- The board after the stage has become a text, with a filter that was saved before. -/
def Sample.stagedAsText : Store :=
  { store (column "stage" .text []) [] [] with
    filters := [{
      id := "f"
      userId := "u"
      boardId := board.id
      name := "Mine"
      description := none
      definition := (stageEqualsBuilt "review").toRaw.toDocument
      isPublic := false
      isDefault := false
      usageCount := 0
      lastUsedAt := none
      createdAt := Moment.first }] }

/-- A choice that only the column had: a listing by the filter is refused. -/
example : ∃ issues, listTasks .usual Moment.first stagedAsText board "u"
    { query "stage" with savedFilterId := some "f" } = .error (.filter issues) := by
  have hschema : staged.schema board = stageSchema ["done", "review"] := schema_store rfl [] []
  have hschema' : stagedAsText.schema board = stageAsText := schema_store rfl [] []
  have hbuilt : buildFilter staged Moment.first (staged.schema board) false (stageEquals "review")
      = .ok (stageEqualsBuilt "review") := by
    rw [hschema]
    simp only [buildFilter, stageEquals, FilterBuilder.build, FilterBuilder.buildMembers,
      FilterBuilder.buildItems, FilterBuilder.buildNode]
    rfl
  have husers : stagedAsText.users = staged.users := rfl
  refine (listTasks_stale_refused_iff hbuilt husers ?_ rfl rfl rfl rfl).2 ?_
  · rw [hschema, hschema']
    exact alteredAt_stageEquals _ _
  · rw [hschema']
    refine ⟨_, List.mem_singleton_self _, by decide, fun hsuits => ?_⟩
    exact absurd (hsuits "review" (List.mem_singleton_self _)) (by decide)

end Example
end BoardQuery
