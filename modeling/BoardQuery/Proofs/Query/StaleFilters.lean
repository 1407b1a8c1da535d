import BoardQuery.Proofs.Filter.Rebuild
import BoardQuery.Proofs.Sample
import BoardQuery.Query.Selection

/-!
# Saved filters on a board that has changed

A filter is saved as it was built, and built again when it is used. Columns may have been removed,
renamed or retyped in between. A condition whose column is gone or has another family now is stale:
it takes no part in the condition on tasks, and is told of in one warning
(`Selection.warnings_ofFilter`, `Selection.condition_ofFilter`). The operand of a stale condition is
still read, under the defaults of its type and not under the options it was saved with, so a saved
filter is accepted again exactly if the operands of its stale conditions suit those defaults
(`build_stale_iff`).
-/

namespace BoardQuery

open FilterBuilder

/-! ## Columns that change -/

/-- A column after a change: it has another name at most, or it has another family too, or no type
that is known. -/
inductive BoardColumn.Altered (c c' : BoardColumn) : Prop
  | renamed (hid : c'.id = c.id) (htype : c'.typeName = c.typeName)
    (hoptions : c'.options = c.options) (hrequired : c'.required = c.required)
  | retyped (hid : c'.id = c.id) (hfamily : ∀ t', c'.columnType? = some t' →
      ∃ t, c.columnType? = some t ∧ t'.family ≠ t.family)

/-- Whether a name addresses nothing in the later schema, or the column it addressed before. -/
def BoardSchema.AlteredAt (s s' : BoardSchema) (name : String) : Prop :=
  ∀ c', s'.find? name = some c' → ∃ c, s.find? name = some c ∧ c.Altered c'

/-- What a name stands for after a change, it stood for before, in the same type and with the same
options, or in another family. -/
theorem resolve_of_altered {s s' : BoardSchema} {name : String} (h : s.AlteredAt s' name)
    {r' : Resolved} (hr' : resolve (some s') name = some r') : ∃ r, resolve (some s) name = some r
      ∧ (r'.columnType = r.columnType ∧ r'.options = r.options
        ∨ r'.columnType.family ≠ r.columnType.family) := by
  unfold resolve at hr' ⊢
  split at hr'
  · exact ⟨r', hr', .inl ⟨rfl, rfl⟩⟩
  · simp only [Option.bind_eq_bind, Option.bind_some, Option.bind_eq_some_iff, Option.pure_def,
      Option.some.injEq] at hr' ⊢
    obtain ⟨c', hc', t', ht', rfl⟩ := hr'
    obtain ⟨c, hc, halter⟩ := h c' hc'
    cases halter with
    | renamed _ htype hoptions hrequired =>
      have ht : c.columnType? = some t' := by
        rwa [BoardColumn.columnType?, ← htype]
      refine ⟨.column c t', ⟨c, hc, t', ht, rfl⟩, .inl ⟨rfl, ?_⟩⟩
      simp only [Resolved.options, BoardColumn.effectiveOptions, hoptions, hrequired]
    | retyped _ hfamily =>
      obtain ⟨t, ht, hne⟩ := hfamily t' ht'
      exact ⟨.column c t, ⟨c, hc, t, ht, rfl⟩, .inr hne⟩

/-! ## Stale conditions -/

/-- Whether the column of a condition is not on the board, or holds values of another family. -/
def Leaf.isStale (s : BoardSchema) (l : Leaf String Operand) : Bool :=
  (resolve (some s) l.column).all fun r => r.columnType.family != l.columnType.family

/-- What a stale condition is told of by. -/
def Leaf.staleWarning (s : BoardSchema) (l : Leaf String Operand) : QueryWarning :=
  if (resolve (some s) l.column).isNone then .unknownColumn l.column
  else .retypedColumn l.column l.columnType

namespace Filter

variable {Name Value : Type}

mutual

/-- The filter without the conditions that are not kept, and without groups of which nothing is
left. -/
def prune (keep : Leaf Name Value → Bool) : Filter Name Value → Option (Filter Name Value)
  | .leaf l => if keep l then some (.leaf l) else none
  | .group logic members =>
    match pruneMembers keep members with
    | [] => none
    | ms => some (.group logic ms)

def pruneMembers (keep : Leaf Name Value → Bool) :
    List (Filter Name Value) → List (Filter Name Value)
  | [] => []
  | m :: rest => (prune keep m).toList ++ pruneMembers keep rest

end

end Filter

namespace Selection

variable {s : BoardSchema}

theorem ofLeaf_stale {l : Leaf String Operand} (h : l.isStale s = true) :
    ofLeaf s l = ⟨none, [l.staleWarning s]⟩ := by
  unfold ofLeaf
  split
  · rename_i hnone
    simp [Leaf.staleWarning, hnone]
  · rename_i r hr
    simp only [Leaf.isStale, hr, Option.all_some, bne_iff_ne] at h
    simp [Leaf.staleWarning, hr, h]

theorem ofLeaf_fresh {l : Leaf String Operand} (h : l.isStale s = false) :
    ∃ c, ofLeaf s l = ⟨some c, []⟩ := by
  unfold ofLeaf
  split
  · rename_i hnone
    simp [Leaf.isStale, hnone] at h
  · rename_i r hr
    simp only [Leaf.isStale, hr, Option.all_some, bne_eq_false_iff_eq] at h
    simp [h]

mutual

/-- The warnings are those of the stale conditions, one for each, in the order written. -/
theorem warnings_ofFilter : (t : BuiltFilter) → (ofFilter s t).warnings
    = (t.leaves.filter (·.isStale s)).map (·.staleWarning s)
  | .leaf l => by
    rw [ofFilter, Filter.leaves]
    cases h : l.isStale s with
    | true => simp [ofLeaf_stale h, h]
    | false =>
      obtain ⟨c, hc⟩ := ofLeaf_fresh h
      simp [hc, h]
  | .group logic members => by
    rw [ofFilter, Filter.leaves]
    exact warnings_ofMembers members

theorem warnings_ofMembers : (ms : List BuiltFilter) → (ofMembers s ms).flatMap (·.warnings)
    = ((Filter.membersLeaves ms).filter (·.isStale s)).map (·.staleWarning s)
  | [] => rfl
  | m :: ms => by
    rw [ofMembers, Filter.membersLeaves, List.flatMap_cons, List.filter_append, List.map_append,
      warnings_ofFilter m, warnings_ofMembers ms]

end

theorem ofMembers_append (s : BoardSchema) (ms ms' : List BuiltFilter) :
    ofMembers s (ms ++ ms') = ofMembers s ms ++ ofMembers s ms' := by
  induction ms with
  | nil => rfl
  | cons m ms ih => rw [List.cons_append, ofMembers, ih, ofMembers, List.cons_append]

mutual

/-- The condition is that of the filter without its stale conditions. -/
theorem condition_ofFilter : (t : BuiltFilter) → (ofFilter s t).condition
    = (t.prune (!·.isStale s)).bind fun t' => (ofFilter s t').condition
  | .leaf l => by
    cases h : l.isStale s with
    | true => simp [ofFilter, Filter.prune, ofLeaf_stale h, h]
    | false => simp [Filter.prune, h]
  | .group logic members => by
    rw [ofFilter, conditions_ofMembers members, Filter.prune]
    split
    · rename_i hnil
      rw [hnil]
      rfl
    · rfl

theorem conditions_ofMembers : (ms : List BuiltFilter) →
    (ofMembers s ms).filterMap (·.condition)
      = (ofMembers s (Filter.pruneMembers (!·.isStale s) ms)).filterMap (·.condition)
  | [] => rfl
  | m :: ms => by
    have hm := condition_ofFilter m
    rw [ofMembers, Filter.pruneMembers, ofMembers_append, List.filterMap_append,
      ← conditions_ofMembers ms, List.filterMap_cons]
    cases hkept : m.prune (!·.isStale s) with
    | none => simp [hm, hkept, ofMembers]
    | some m' =>
      rw [hkept, Option.bind_some] at hm
      cases hcondition : (ofFilter s m').condition <;> simp [hm, hcondition, ofMembers]

end

end Selection

/-! ## Operands under the defaults of a type -/

/-- Whether the defaults of a type admit an operand: statuses and priorities must be among the
choices it comes with, and a percentage lies between 0 and 100. -/
def Operand.SuitsDefaults (v : Operand) : ColumnType → Prop
  | .status => ∀ s ∈ v.texts, s ∈ ["todo", "in_progress", "done"]
  | .priority => ∀ s ∈ v.texts, s ∈ ["low", "medium", "high", "urgent"]
  | .percentage => ∀ x, v = .number x →
    x.lt (.ofRatio false 0 1) = false ∧ (Binary64.ofRatio false 100 1).lt x = false
  | _ => True

section Defaults

variable {env : Surroundings} {t : ColumnType} {op : Operator} {v : Operand}

theorem choices_status : Options.choices ColumnType.status.defaultOptions
    = .ok ["todo", "in_progress", "done"] := rfl

theorem choices_priority : Options.choices ColumnType.priority.defaultOptions
    = .ok ["low", "medium", "high", "urgent"] := rfl

/-- No type but a percentage comes with bounds. -/
theorem defaultBounds_of_ne (ht : t ≠ .percentage) : Fields.get t.defaultOptions "min" = .null
    ∧ Fields.get t.defaultOptions "max" = .null := by
  cases t <;> first | exact ⟨rfl, rfl⟩ | contradiction

theorem boundBroken_int {n : Nat} (h : (Binary64.ofRatio false n 1).isFinite = true)
    (outside : Binary64 → Bool) :
    boundBroken (.int n) outside = .ok (outside (.ofRatio false n 1)) := by
  have hread : Binary64.ofInt? n = some (.ofRatio false n 1) := by
    have hsign : decide ((n : Int) < 0) = false := by simp
    rw [Binary64.ofInt?, hsign, Int.natAbs_natCast, if_pos h]
  simp [boundBroken, Json.isNull, Json.toBound, hread, Except.map]

theorem Operand.allowed_bounds (ht : t ≠ .percentage) (x : Binary64) (_ : v = .number x) :
    boundBroken (Fields.get t.defaultOptions "min") x.lt = .ok false
      ∧ boundBroken (Fields.get t.defaultOptions "max") (·.lt x) = .ok false := by
  rw [(defaultBounds_of_ne ht).1, (defaultBounds_of_ne ht).2]
  exact ⟨rfl, rfl⟩

/-- Only the users that an operand names remain to be looked up. -/
theorem Operand.allowed_defaults
    (husers : t.family = .assignee → ∀ s ∈ v.texts, env.userExists.all (· s) = true) :
    v.Allowed env t t.defaultOptions ↔ v.SuitsDefaults t := by
  have hfree (hchoices : t.family ≠ .enumerated) (ht : t ≠ .percentage) :
      v.Allowed env t t.defaultOptions :=
    ⟨fun h => absurd h hchoices, husers, allowed_bounds ht⟩
  cases t with
  | status =>
    refine ⟨fun h s hs => ?_, fun h => ⟨fun _ s hs => ⟨_, choices_status, h s hs⟩, husers,
      allowed_bounds (by decide)⟩⟩
    obtain ⟨cs, hcs, hmem⟩ := h.choices rfl s hs
    obtain rfl := Except.ok.inj (choices_status.symm.trans hcs)
    exact hmem
  | priority =>
    refine ⟨fun h s hs => ?_, fun h => ⟨fun _ s hs => ⟨_, choices_priority, h s hs⟩, husers,
      allowed_bounds (by decide)⟩⟩
    obtain ⟨cs, hcs, hmem⟩ := h.choices rfl s hs
    obtain rfl := Except.ok.inj (choices_priority.symm.trans hcs)
    exact hmem
  | percentage =>
    have hlow : Fields.get ColumnType.percentage.defaultOptions "min" = .int (0 : Nat) := rfl
    have hhigh : Fields.get ColumnType.percentage.defaultOptions "max" = .int (100 : Nat) := rfl
    have hbounds (x : Binary64) : (boundBroken (.int (0 : Nat)) x.lt = .ok false
        ∧ boundBroken (.int (100 : Nat)) (·.lt x) = .ok false)
        ↔ x.lt (.ofRatio false 0 1) = false ∧ (Binary64.ofRatio false 100 1).lt x = false := by
      rw [boundBroken_int (by decide +kernel), boundBroken_int (by decide +kernel), Except.ok.injEq,
        Except.ok.injEq]
    refine ⟨fun h x hx => ?_, fun h => ⟨fun hf => absurd hf (by decide), husers, fun x hx => ?_⟩⟩
    · have hx' := h.bounds x hx
      rw [hlow, hhigh] at hx'
      exact (hbounds x).1 hx'
    · rw [hlow, hhigh]
      exact (hbounds x).2 (h x hx)
  | _ => exact iff_of_true (hfree (by decide) (by decide)) trivial

end Defaults

/-! ## Building again -/

section Again

variable {env : Surroundings} {s s' : BoardSchema} {l : Leaf String Operand}

/-- A condition that stood before a change keeps its type after it, and stands unless it is stale
and its operand does not suit the defaults. -/
theorem Leaf.Stands.altered (h : l.Stands ⟨env, resolve (some s), false⟩)
    (halter : s.AlteredAt s' l.column) (now : Moment) :
    l.Keeps ⟨{ env with now }, resolve (some s'), true⟩
      ∧ (l.Stands ⟨{ env with now }, resolve (some s'), true⟩
        ↔ (l.isStale s' = true → l.operand.SuitsDefaults l.columnType)) := by
  obtain ⟨o, hadopted, hallowed⟩ := h
  have hdefaults : l.operand.Allowed { env with now } l.columnType l.columnType.defaultOptions
      ↔ l.operand.SuitsDefaults l.columnType := Operand.allowed_defaults hallowed.users
  cases hresolve : resolve (some s') l.column with
  | none =>
    have hadopts (t : ColumnType) (o : Options) :
        Adopted ⟨{ env with now }, resolve (some s'), true⟩ l.column l.columnType t o
          ↔ t = l.columnType ∧ o = l.columnType.defaultOptions := adopted_of_none hresolve
    refine ⟨fun t o h => ((hadopts t o).1 h).1, ?_⟩
    simp only [Leaf.Stands, hadopts, Leaf.isStale, hresolve, Option.all_none, true_implies,
      ← hdefaults, true_and, exists_eq_left]
  | some r' =>
    obtain ⟨r, hr, hsame⟩ := resolve_of_altered halter hresolve
    have hheld : l.columnType = r.columnType ∧ o = r.options := by
      rw [adopted_of_some hr] at hadopted
      split_ifs at hadopted
      · exact hadopted
      · exact absurd hadopted.1 (by decide)
    have hadopts (t : ColumnType) (o : Options) :
        Adopted ⟨{ env with now }, resolve (some s'), true⟩ l.column l.columnType t o
          ↔ if r'.columnType.family = l.columnType.family then t = r'.columnType ∧ o = r'.options
            else True ∧ t = l.columnType ∧ o = l.columnType.defaultOptions :=
      (adopted_of_some hresolve).trans (by simp)
    rcases hsame with ⟨htype, hoptions⟩ | hfamily
    · have hfamily : r'.columnType.family = l.columnType.family := by rw [htype, hheld.1]
      simp only [hfamily, if_true] at hadopts
      refine ⟨fun t o h => ((hadopts t o).1 h).1.trans (htype.trans hheld.1.symm), ?_⟩
      have hfresh : l.isStale s' = false := by simp [Leaf.isStale, hresolve, hfamily]
      simp only [hfresh, Bool.false_eq_true, false_implies, iff_true]
      refine ⟨o, (hadopts _ _).2 ⟨hheld.1.trans htype.symm, hheld.2.trans hoptions.symm⟩, ?_⟩
      exact ⟨hallowed.choices, hallowed.users, hallowed.bounds⟩
    · rw [← hheld.1] at hfamily
      simp only [hfamily, if_false, true_and] at hadopts
      refine ⟨fun t o h => ((hadopts t o).1 h).1, ?_⟩
      have hstale : l.isStale s' = true := by simp [Leaf.isStale, hresolve, hfamily]
      simp only [Leaf.Stands, hadopts, hstale, true_implies, ← hdefaults, true_and, exists_eq_left]

/-- After a change the document of a filter is built into the filter again, exactly if the operands
of its stale conditions suit the defaults. -/
theorem build_altered {raw : Json} {t : BuiltFilter}
    (hbuilt : build ⟨env, resolve (some s), false⟩ raw = .ok t)
    (halter : ∀ l ∈ t.leaves, s.AlteredAt s' l.column) (now : Moment) (t' : BuiltFilter) :
    build ⟨{ env with now }, resolve (some s'), true⟩ t.toRaw.toDocument = .ok t'
      ↔ t' = t ∧ ∀ l ∈ t.leaves, l.isStale s' = true → l.operand.SuitsDefaults l.columnType := by
  obtain ⟨hsound, hstands⟩ := build_sound hbuilt
  obtain ⟨logic, members, rfl⟩ := build_eq_group hbuilt
  have hleaf (l : Leaf String Operand) (hl : l ∈ (Filter.group logic members).leaves) :=
    (hstands l hl).altered (halter l hl) now
  rw [build_toDocument hsound fun l hl => (hleaf l hl).1]
  exact and_congr_right fun _ => forall₂_congr fun l hl => (hleaf l hl).2

/-- A filter that was built on a board is built again after columns were removed, renamed or
retyped to other families exactly if the operands of its stale conditions suit the defaults of
their types. What is built is then the same filter. The stale conditions, and no others, take no
part in the condition on tasks, with one warning each. -/
theorem build_stale_iff {raw : Json} {t : BuiltFilter}
    (hbuilt : build ⟨env, resolve (some s), false⟩ raw = .ok t)
    (halter : ∀ l ∈ t.leaves, s.AlteredAt s' l.column) (now : Moment) :
    (∀ t', build ⟨{ env with now }, resolve (some s'), true⟩ t.toRaw.toDocument = .ok t'
        ↔ t' = t ∧ ∀ l ∈ t.leaves, l.isStale s' = true → l.operand.SuitsDefaults l.columnType)
      ∧ (Selection.ofFilter s' t).warnings
        = (t.leaves.filter (·.isStale s')).map (·.staleWarning s')
      ∧ (Selection.ofFilter s' t).condition
        = (t.prune (!·.isStale s')).bind fun kept => (Selection.ofFilter s' kept).condition :=
  ⟨build_altered hbuilt halter now, Selection.warnings_ofFilter t, Selection.condition_ofFilter t⟩

end Again

section Example

/-- The board with a stage that has these choices. -/
def stageSchema (choices : List String) : BoardSchema :=
  ⟨Sample.board.id, Sample.board.workspaceId,
    [Sample.column "stage" .status [("options", .ofStrings choices)]]⟩

/-- The board after the stage has become a text. -/
def stageAsText : BoardSchema :=
  ⟨Sample.board.id, Sample.board.workspaceId, [Sample.column "stage" .text []]⟩

theorem stageSchema_alteredAt (choices : List String) :
    (stageSchema choices).AlteredAt stageAsText "stage" := by
  intro c' hc'
  obtain rfl := Option.some.inj hc'
  refine ⟨Sample.column "stage" .status [("options", .ofStrings choices)], rfl,
    .retyped rfl fun t' ht' => ⟨.status, rfl, ?_⟩⟩
  obtain rfl := Option.some.inj ht'
  decide

def stageEquals (choice : String) : Json :=
  .arr [.obj [("column", .str "stage"), ("column_type", .str "status"),
    ("operator", .str "equals"), ("value", .str choice)]]

def stageEqualsBuilt (choice : String) : BuiltFilter :=
  .group .all [.leaf ⟨"stage", .status, .equals, .text choice, .all⟩]

theorem alteredAt_stageEquals (choices : List String) (choice : String) :
    ∀ l ∈ (stageEqualsBuilt choice).leaves,
      (stageSchema choices).AlteredAt stageAsText l.column := by
  simp [stageEqualsBuilt, Filter.leaves, Filter.membersLeaves, stageSchema_alteredAt]

theorem build_stageEquals_done :
    build ⟨⟨Moment.first, none⟩, resolve (some (stageSchema ["done", "review"])), false⟩
      (stageEquals "done") = .ok (stageEqualsBuilt "done") := by
  simp only [stageEquals, build, buildMembers, buildItems, buildNode]
  rfl

/-- A choice that statuses come with: the saved filter is accepted, and ignored with a warning. -/
theorem build_stale_iff_done :
    build ⟨⟨Moment.first, none⟩, resolve (some stageAsText), true⟩
        (stageEqualsBuilt "done").toRaw.toDocument = .ok (stageEqualsBuilt "done")
      ∧ (Selection.ofFilter stageAsText (stageEqualsBuilt "done")).warnings
        = [.retypedColumn "stage" .status]
      ∧ (Selection.ofFilter stageAsText (stageEqualsBuilt "done")).condition = none := by
  obtain ⟨hbuild, hwarnings, hcondition⟩ := build_stale_iff build_stageEquals_done
    (alteredAt_stageEquals _ _) Moment.first
  refine ⟨(hbuild _).2 ⟨rfl, ?_⟩, hwarnings.trans rfl, hcondition.trans rfl⟩
  simp [stageEqualsBuilt, Filter.leaves, Filter.membersLeaves, Operand.SuitsDefaults,
    Operand.texts]

/-- A choice that only the column had: its stale condition makes the saved filter invalid. -/
theorem build_stale_review :
    build ⟨⟨Moment.first, none⟩, resolve (some (stageSchema ["done", "review"])), false⟩
        (stageEquals "review") = .ok (stageEqualsBuilt "review")
      ∧ (∀ l ∈ (stageEqualsBuilt "review").leaves,
        (stageSchema ["done", "review"]).AlteredAt stageAsText l.column)
      ∧ build ⟨⟨Moment.first, none⟩, resolve (some stageAsText), true⟩
          (stageEqualsBuilt "review").toRaw.toDocument
        = .error (.issues [⟨"filters.0.value",
          .operand (.notChoice (.str "review") ["todo", "in_progress", "done"])⟩]) := by
  refine ⟨?_, alteredAt_stageEquals _ _, ?_⟩
  · simp only [stageEquals, build, buildMembers, buildItems, buildNode]
    rfl
  · have hdoc : (stageEqualsBuilt "review").toRaw.toDocument = .obj [("logic", .str "AND"),
        ("filters", .arr [.obj [("type", .str "filter"), ("column", .str "stage"),
          ("column_type", .str "status"), ("operator", .str "equals"), ("value", .str "review"),
          ("logic", .str "AND")]])] := rfl
    rw [hdoc, build_document]
    simp only [buildMembers, buildItems, buildNode]
    rfl

end Example

end BoardQuery
