import BoardQuery.Proofs.Api.RequiredValues
import BoardQuery.Proofs.Service.OneByOne
import BoardQuery.Proofs.Service.WorkspaceChanges
import BoardQuery.Proofs.Value.Conforming

/-!
# Labels as ordered sets

The labels of a task are a list without repetitions. Adding labels puts those at the end that are
not there yet, if the column takes so many, and removing labels leaves the others in their order
(`step_addLabels`, `step_removeLabels`). From this the laws of the two operations follow
(`label_operations`): each of them twice is the same as once, removing undoes adding, and adding
loses nothing.
-/

namespace BoardQuery

open Text

/-! ## Lists of labels -/

/-- Labels, followed by those of others that are not among them. -/
def joinLabels (current added : List String) : List String :=
  current ++ added.filter (!current.contains ·)

/-- Labels without certain others. -/
def dropLabels (current removed : List String) : List String :=
  current.filter (!removed.contains ·)

section Lists

variable {L P : List String}

theorem mem_joinLabels {l : String} : l ∈ joinLabels L P ↔ l ∈ L ∨ l ∈ P := by
  by_cases hl : l ∈ L <;> simp [joinLabels, hl]

theorem joinLabels_ne_nil (hP : P ≠ []) : joinLabels L P ≠ [] := by
  obtain ⟨l, hl⟩ := List.exists_mem_of_ne_nil P hP
  exact List.ne_nil_of_mem (mem_joinLabels.2 (.inr hl))

theorem joinLabels_of_subset (h : P ⊆ L) : joinLabels L P = L := by
  have hnone : P.filter (!L.contains ·) = [] :=
    List.filter_eq_nil_iff.2 fun l hl => by simp [h hl]
  rw [joinLabels, hnone, List.append_nil]

theorem dropLabels_of_disjoint (h : L.Disjoint P) : dropLabels L P = L :=
  List.filter_eq_self.2 fun l hl => by simpa using fun hP => h hl hP

theorem joinLabels_again : joinLabels (joinLabels L P) P = joinLabels L P :=
  joinLabels_of_subset fun _ hl => mem_joinLabels.2 (.inr hl)

theorem dropLabels_again : dropLabels (dropLabels L P) P = dropLabels L P := by
  rw [dropLabels, dropLabels, List.filter_filter]
  simp

theorem dropLabels_joinLabels (h : L.Disjoint P) : dropLabels (joinLabels L P) P = L := by
  have hnone : (P.filter (!L.contains ·)).filter (!P.contains ·) = [] :=
    List.filter_eq_nil_iff.2 fun l hl => by simp [List.mem_of_mem_filter hl]
  have hself : L.filter (!P.contains ·) = L := dropLabels_of_disjoint h
  rw [dropLabels, joinLabels, List.filter_append, hself, hnone, List.append_nil]

theorem trimmedDistinct_append (hL : trimmedDistinct L = L) (hP : trimmedDistinct P = P) :
    trimmedDistinct (L ++ P) = joinLabels L P := by
  obtain ⟨hL, hLs⟩ := trimmedDistinct_eq_self_iff.1 hL
  obtain ⟨hP, hPs⟩ := trimmedDistinct_eq_self_iff.1 hP
  have hs : ∀ s ∈ L ++ P, trim s = s ∧ s ≠ "" := fun s hs =>
    (List.mem_append.1 hs).elim (hLs s) (hPs s)
  have hmap : (L ++ P).map trim = L ++ P :=
    (List.map_congr_left fun s h => (hs s h).1).trans (List.map_id _)
  have hfilter : (L ++ P).filter (· != "") = L ++ P :=
    List.filter_eq_self.2 fun s h => bne_iff_ne.2 (hs s h).2
  rw [trimmedDistinct, hmap, hfilter, distinct_append hL hP, joinLabels]

theorem trimmedDistinct_dropLabels (hL : trimmedDistinct L = L) :
    trimmedDistinct (dropLabels L P) = dropLabels L P := by
  obtain ⟨hL, hs⟩ := trimmedDistinct_eq_self_iff.1 hL
  exact trimmedDistinct_eq_self_iff.2
    ⟨hL.filter _, fun s h => hs s (List.mem_of_mem_filter h)⟩

end Lists

/-! ## The limit of a column -/

/-- The most labels that a column says it takes. -/
def BoardColumn.maxLabels (c : BoardColumn) : Json :=
  (Fields.get (c.effectiveOptions .labels) "max_labels").orElse (.int 10)

/-- Whether a column takes a number of labels. -/
def BoardColumn.TakesLabels (c : BoardColumn) (n : Nat) : Prop :=
  countExceeds n c.maxLabels = .ok false

section Limits

variable {c : BoardColumn} {m n : Nat} {limit : Json}

theorem unitsOfInt_le_iff {m n : Int} : Binary64.unitsOfInt m ≤ Binary64.unitsOfInt n ↔ m ≤ n := by
  have hpos : (0 : Int) < unitsPerOne := Int.natCast_pos.2 Decimal.unitsPerOne_pos
  exact mul_le_mul_iff_left₀ hpos

/-- Where the limit is an integer, it is the most labels that the column takes. -/
theorem BoardColumn.takesLabels_iff {k : Int} (h : c.maxLabels = .int k) :
    c.TakesLabels n ↔ (n : Int) ≤ k := by
  have hcount : countExceeds n (.int k)
      = .ok (decide (Binary64.unitsOfInt k < Binary64.unitsOfInt n)) := rfl
  rw [TakesLabels, h, hcount, Except.ok.injEq, decide_eq_false_iff_not, not_lt, unitsOfInt_le_iff]

/-- A limit is compared as a number, or cannot be compared at all. -/
theorem countExceeds_eq (limit : Json) : ∃ bound : Except Fault (Option Int), ∀ n,
    countExceeds n limit
      = bound.map fun u => u.any fun u => decide (u < Binary64.unitsOfInt n) := by
  cases limit with
  | num x => exact ⟨.ok x.units?, fun _ => rfl⟩
  | int k => exact ⟨.ok (some (Binary64.unitsOfInt k)), fun _ => rfl⟩
  | bool b => exact ⟨.ok (some (Binary64.unitsOfInt (if b then 1 else 0))), fun _ => rfl⟩
  | _ => exact ⟨.error .wrongShape, fun _ => rfl⟩

theorem countExceeds_of_not (h : countExceeds m limit = .ok false)
    (hn : countExceeds n limit ≠ .ok false) : countExceeds n limit = .ok true := by
  obtain ⟨bound, hbound⟩ := countExceeds_eq limit
  rw [hbound] at h hn ⊢
  rcases bound with e | u
  · exact absurd h (by simp [Except.map])
  · simpa [Except.map] using hn

theorem countExceeds_total (h : countExceeds m limit = .ok false) (n : Nat) :
    ∃ exceeds, countExceeds n limit = .ok exceeds := by
  by_cases hn : countExceeds n limit = .ok false
  · exact ⟨false, hn⟩
  · exact ⟨true, countExceeds_of_not h hn⟩

theorem countExceeds_mono (h : countExceeds m limit = .ok false) (hle : n ≤ m) :
    countExceeds n limit = .ok false := by
  have hunits : Binary64.unitsOfInt n ≤ Binary64.unitsOfInt m :=
    unitsOfInt_le_iff.2 (by exact_mod_cast hle)
  obtain ⟨bound, hbound⟩ := countExceeds_eq limit
  rw [hbound] at h ⊢
  rcases bound with e | _ | u
  · exact absurd h (by simp [Except.map])
  · rfl
  · simp only [Except.map, Option.any_some, Except.ok.injEq, decide_eq_false_iff_not, not_lt] at h ⊢
    exact hunits.trans h

end Limits

/-! ## Validation of labels -/

/-- What is stored for labels: nothing if there are none. -/
def labelsJson : List String → Json
  | [] => .null
  | l :: ls => .ofStrings (l :: ls)

/-- Whether a column requires a value when it is taken as one of labels. -/
def BoardColumn.requiresLabels (c : BoardColumn) : Bool :=
  Options.flag (c.effectiveOptions .labels) "required"

theorem labelsJson_of_ne {L : List String} (h : L ≠ []) : labelsJson L = .ofStrings L := by
  obtain ⟨l, ls, rfl⟩ := List.exists_cons_of_ne_nil h
  rfl

section Validation

variable {env : Surroundings} {c : BoardColumn} {path : String} {L : List String} {raw v : Json}

theorem problems_labels {exceeds : Bool}
    (h : countExceeds (trimmedDistinct L).length c.maxLabels = .ok exceeds) :
    problems env .labels (ColumnType.labels.effectiveOptions (c.effectiveOptions .labels))
      (.ofStrings L) = .ok (unless' (!exceeds) (.tooManyLabels c.maxLabels)) := by
  rw [BoardColumn.maxLabels] at h ⊢
  simp only [problems, listed?_ofStrings, get_effectiveOptions_twice, h, ok_bind]
  rfl

theorem validateFor_eq (hc : c.columnType = .ok .labels) : validateFor env c path raw
    = (validate env .labels (c.effectiveOptions .labels) raw).mapError
      (Refusal.ofRejection path) := by
  rw [validateFor, hc]
  rfl

variable (env path)

/-- Labels are taken in their canonical form, if there are not too many then. -/
theorem validateFor_labels (hc : c.columnType = .ok .labels) (hL : trimmedDistinct L ≠ [])
    {exceeds : Bool} (h : countExceeds (trimmedDistinct L).length c.maxLabels = .ok exceeds) :
    validateFor env c path (.ofStrings L) = if exceeds
      then .error (.value path [.tooManyLabels c.maxLabels])
      else .ok (.ofStrings (trimmedDistinct L)) := by
  have hblank : (Json.ofStrings L).isBlank = false :=
    isBlank_ofStrings.2 fun h => hL (by rw [h]; rfl)
  have hkept : (Json.ofStrings (trimmedDistinct L)).isBlank = false := isBlank_ofStrings.2 hL
  simp only [validateFor_eq hc, validate, hblank, problems_labels h, canonicalForm,
    listed?_ofStrings]
  cases exceeds <;> simp [Except.mapError, unless', hkept, Refusal.ofRejection]

theorem validateFor_noLabels (hc : c.columnType = .ok .labels) :
    validateFor env c path (.ofStrings [])
      = if c.requiresLabels then .error (.value path [.required]) else .ok .null := by
  have hblank : (Json.ofStrings []).isBlank = true := rfl
  have hflag : Options.flag (ColumnType.labels.effectiveOptions (c.effectiveOptions .labels))
      "required" = c.requiresLabels := by
    simp only [BoardColumn.requiresLabels, Options.flag, get_effectiveOptions_twice]
  simp only [validateFor_eq hc, validate, hblank, hflag, absent, if_true]
  rcases c.requiresLabels with _ | _ <;> rfl

variable {env path}

/-- What is taken for a column of labels is a list in canonical form, and not too long. -/
theorem canonical_of_validateFor (hc : c.columnType = .ok .labels)
    (h : validateFor env c path raw = .ok v) (hv : v ≠ .null) :
    ∃ L, v = .ofStrings L ∧ L ≠ [] ∧ trimmedDistinct L = L ∧ c.TakesLabels L.length := by
  rw [validateFor_eq hc, mapError_eq_ok] at h
  have hconforms := (validate_conforming h env rfl).2.1
  cases hconforms with
  | nothing => exact absurd rfl hv
  | @labels items _ hne hnodup hs hcount =>
    rw [get_effectiveOptions_twice] at hcount
    exact ⟨items, rfl, hne, trimmedDistinct_eq_self_iff.2 ⟨hnodup, hs⟩, hcount⟩
  | _ => simp_all [ColumnType.family]

end Validation

/-! ## Steps -/

/-- A run after a value of a task has been written. -/
def BulkRun.storing (run : BulkRun) (t : Task) (c : BoardColumn) (v : Json) : BulkRun :=
  { run with store := run.store.putValue t.id c.id v, succeeded := run.succeeded ++ [t.id] }

/-- A run after a task has failed. -/
def BulkRun.failing (run : BulkRun) (t : Task) (text : String) : BulkRun :=
  { run with failed := run.failed ++ [(t.id, text)] }

/-- Whether a column of labels accepts labels as the parameter of an operation, just as they are. -/
structure BoardColumn.AcceptsLabels (c : BoardColumn) (P : List String) : Prop where
  type : c.columnType = .ok .labels
  some : P ≠ []
  canonical : trimmedDistinct P = P
  taken : c.TakesLabels P.length

/-- Whether a task holds labels in a column: a list that the column takes as it is, or none. -/
structure Store.HoldsLabels (s : Store) (t : Task) (c : BoardColumn) (L : List String) : Prop where
  stored : (s.value? t.id c.id).getD .null = labelsJson L
  canonical : trimmedDistinct L = L
  taken : L ≠ [] → c.TakesLabels L.length

/-- The lists that a column takes as they are, by its validation. -/
theorem Store.holdsLabels_iff {env : Surroundings} {s : Store} {t : Task} {c : BoardColumn}
    {L : List String} {path : String} (hc : c.columnType = .ok .labels) : s.HoldsLabels t c L
      ↔ (s.value? t.id c.id).getD .null = labelsJson L
        ∧ (L = [] ∨ validateFor env c path (.ofStrings L) = .ok (.ofStrings L)) := by
  constructor
  · rintro ⟨hstored, hcanonical, htaken⟩
    refine ⟨hstored, or_iff_not_imp_left.2 fun hL => ?_⟩
    have hvalid := validateFor_labels env path hc (hcanonical.symm ▸ hL)
      (hcanonical.symm ▸ htaken hL)
    rwa [hcanonical] at hvalid
  · rintro ⟨hstored, rfl | hvalid⟩
    · exact ⟨hstored, rfl, fun h => absurd rfl h⟩
    · obtain ⟨items, heq, -, hcanonical, htaken⟩ :=
        canonical_of_validateFor hc hvalid (by simp [Json.ofStrings])
      obtain rfl := ofStrings_injective heq
      exact ⟨hstored, hcanonical, fun _ => htaken⟩

section Steps

variable {env : Surroundings} {run : BulkRun} {t : Task} {c : BoardColumn} {L P : List String}
  {change : TaskChange} {raw v : Json}

theorem Store.value_of_mem_putValue {s : Store} {taskId columnId : String} {row : FieldValue}
    (h : row ∈ (s.putValue taskId columnId v).values)
    (hkey : (row.taskId == taskId && row.columnId == columnId) = true) : row.value = v := by
  unfold putValue at h
  split_ifs at h with hrow
  · obtain ⟨old, -, rfl⟩ := List.mem_map.1 h
    split_ifs with hold
    · rfl
    · rw [if_neg hold] at hkey
      exact absurd hkey hold
  · rcases List.mem_append.1 h with hold | hnew
    · have hnone : ∀ u ∈ s.values, u.taskId = taskId → u.columnId ≠ columnId := by
        simpa [value?] using hrow
      obtain ⟨htask, hcolumn⟩ : row.taskId = taskId ∧ row.columnId = columnId := by simpa using hkey
      exact absurd hcolumn (hnone row hold htask)
    · obtain rfl := List.mem_singleton.1 hnew
      rfl

theorem Store.putValue_putValue (s : Store) (taskId columnId : String) (v : Json) :
    (s.putValue taskId columnId v).putValue taskId columnId v = s.putValue taskId columnId v := by
  have hsame : (s.putValue taskId columnId v).values.map (fun row =>
      if row.taskId == taskId && row.columnId == columnId then { row with value := v } else row)
      = (s.putValue taskId columnId v).values := by
    refine (List.map_congr_left fun row hrow => ?_).trans (List.map_id _)
    split_ifs with hkey
    · rw [← value_of_mem_putValue hrow hkey]
      rfl
    · rfl
  generalize hput : s.putValue taskId columnId v = s' at hsame
  have hsome : (s'.value? taskId columnId).isSome = true := by
    rw [← hput, value?_putValue]
    rfl
  rw [putValue, if_pos hsome, hsame]

theorem currentLabels_of_holds {s : Store} (h : s.HoldsLabels t c L) :
    currentLabels s t c = .ok (L.map .str) := by
  rw [currentLabels, h.stored]
  rcases L with _ | ⟨l, ls⟩ <;> rfl

theorem withoutLabels_strings : withoutLabels P (L.map .str) = .ok ((dropLabels L P).map .str) := by
  have hall : (L.map Json.str).all Json.isScalar = true := by simp [Json.isScalar]
  rw [withoutLabels, if_pos hall, dropLabels, List.filter_map]
  rfl

theorem applyChange_addLabels {s : Store} (h : s.HoldsLabels t c L) :
    applyChange env s t (.addLabels c P) = setValue env s t c (.ofStrings (L ++ P)) := by
  simp only [applyChange, currentLabels_of_holds h, Json.ofStrings, List.map_append]
  rfl

variable (env P) in
theorem applyChange_removeLabels {s : Store} (h : s.HoldsLabels t c L) :
    applyChange env s t (.removeLabels c P) = setValue env s t c (.ofStrings (dropLabels L P)) := by
  simp only [applyChange, currentLabels_of_holds h, Json.ofStrings]
  change orFault (withoutLabels P (L.map .str)) >>= _ = _
  rw [withoutLabels_strings]
  rfl

theorem setValue_eq {s : Store} (hplaced : c.boardId = t.boardId) : setValue env s t c raw
    = (validateFor env c c.name raw).map fun v => s.putValue t.id c.id v := by
  rw [setValue, if_neg (by simp [hplaced])]
  rcases validateFor env c c.name raw with e | v <;> rfl

theorem step_storing (happly : applyChange env run.store t change = setValue env run.store t c raw)
    (hplaced : c.boardId = t.boardId) (hvalid : validateFor env c c.name raw = .ok v) :
    BulkRun.step env change run t = .ok (run.storing t c v) := by
  rw [BulkRun.step, happly, setValue_eq hplaced, hvalid]
  rfl

theorem step_failing {ps : List ValueProblem}
    (happly : applyChange env run.store t change = setValue env run.store t c raw)
    (hplaced : c.boardId = t.boardId)
    (hvalid : validateFor env c c.name raw = .error (.value c.name ps)) :
    BulkRun.step env change run t = .ok (run.failing t (problemsText c.name ps)) := by
  rw [BulkRun.step, happly, setValue_eq hplaced, hvalid]
  rfl

variable (env)

/-- Adding labels stores those of the task and the new ones after them, if the column takes so
many, and fails otherwise. -/
theorem step_addLabels (hP : c.AcceptsLabels P) (hplaced : c.boardId = t.boardId)
    (hL : run.store.HoldsLabels t c L) :
    (c.TakesLabels (joinLabels L P).length → BulkRun.step env (.addLabels c P) run t
      = .ok (run.storing t c (.ofStrings (joinLabels L P))))
    ∧ (¬ c.TakesLabels (joinLabels L P).length → BulkRun.step env (.addLabels c P) run t
      = .ok (run.failing t (problemsText c.name [.tooManyLabels c.maxLabels]))) := by
  have hjoin := trimmedDistinct_append hL.canonical hP.canonical
  have hne : trimmedDistinct (L ++ P) ≠ [] := hjoin.symm ▸ joinLabels_ne_nil hP.some
  rw [← hjoin]
  refine ⟨fun htaken => ?_, fun hmany => ?_⟩
  · exact step_storing (applyChange_addLabels hL) hplaced
      (validateFor_labels env c.name hP.type hne htaken)
  · exact step_failing (applyChange_addLabels hL) hplaced
      (validateFor_labels env c.name hP.type hne (countExceeds_of_not hP.taken hmany))

variable (P) in
/-- Removing labels stores the others, unless none are left and the column requires some. -/
theorem step_removeLabels (hc : c.columnType = .ok .labels) (hplaced : c.boardId = t.boardId)
    (hL : run.store.HoldsLabels t c L) :
    (¬ (dropLabels L P = [] ∧ c.requiresLabels = true) → BulkRun.step env (.removeLabels c P) run t
      = .ok (run.storing t c (labelsJson (dropLabels L P))))
    ∧ (dropLabels L P = [] ∧ c.requiresLabels = true → BulkRun.step env (.removeLabels c P) run t
      = .ok (run.failing t (problemsText c.name [.required]))) := by
  have happly := applyChange_removeLabels env P hL
  by_cases hnone : dropLabels L P = []
  · have hvalid := validateFor_noLabels env c.name hc
    rw [← hnone] at hvalid
    refine ⟨fun hleft => ?_, fun hrequired => ?_⟩
    · rw [if_neg fun h => hleft ⟨hnone, h⟩] at hvalid
      rw [hnone] at hvalid happly ⊢
      exact step_storing happly hplaced hvalid
    · rw [if_pos hrequired.2] at hvalid
      exact step_failing happly hplaced hvalid
  · refine ⟨fun _ => ?_, fun h => absurd h.1 hnone⟩
    have hsub : L ≠ [] := fun h => hnone (by rw [h]; rfl)
    have htaken : c.TakesLabels (dropLabels L P).length :=
      countExceeds_mono (hL.taken hsub) (List.length_filter_le ..)
    have hdrop := trimmedDistinct_dropLabels (P := P) hL.canonical
    have hvalid := validateFor_labels env c.name hc (hdrop.symm ▸ hnone)
      (hdrop.symm ▸ htaken)
    rw [labelsJson_of_ne hnone]
    rw [hdrop] at hvalid
    exact step_storing happly hplaced hvalid

end Steps

/-! ## Preparation -/

section Preparation

variable {now : Moment} {s : Store} {b : Board} {params : Json} {c : BoardColumn} {P : List String}

/-- Whether the parameters of an operation name a column of labels and state labels that it takes,
which come to a list of them. -/
def StatesLabels (now : Moment) (s : Store) (b : Board) (params : Json) (c : BoardColumn)
    (P : List String) : Prop :=
  ∃ name labels v l ls, bulkParameter params "column" = .ok name
    ∧ bulkParameter params "labels" = .ok labels ∧ namedColumn (s.schema b) name = .ok (some c)
    ∧ c.columnType = .ok .labels ∧ validateFor (s.surroundings now) c "labels" labels = .ok v
    ∧ (v.strings?).getD [] = l :: ls ∧ P = l :: ls

/-- The two operations on labels are prepared alike. -/
theorem prepareBulk_labels_iff {name : String} {op : BulkOperation}
    {make : BoardColumn → List String → TaskChange}
    (hop : BulkOperation.ofJson (.str name) = .ok op)
    (hprepare : prepareChange (s.surroundings now) s (s.schema b) op params = do
      prepareLabels (s.surroundings now) (s.schema b) (← orFault (bulkParameter params "column"))
        (← orFault (bulkParameter params "labels")) make)
    (hmake : ∀ c' P', make c' P' = make c P → c' = c ∧ P' = P) :
    prepareBulk now s b (.str name) params = .ok (op, make c P)
      ↔ StatesLabels now s b params c P := by
  rw [prepareBulk, hop, ok_bind, hprepare]
  simp only [bind_eq_ok, pure_eq_ok, orFault_eq_ok, prepareLabels_eq_ok, Prod.mk.injEq, true_and,
    StatesLabels]
  constructor
  · rintro ⟨_, ⟨name, hname, labels, hlabels, c', v, l, ls, hc, ht, hv, hlist, rfl⟩, heq⟩
    obtain ⟨rfl, rfl⟩ := hmake _ _ heq
    exact ⟨name, labels, v, l, ls, hname, hlabels, hc, ht, hv, hlist, rfl⟩
  · rintro ⟨name, labels, v, l, ls, hname, hlabels, hc, ht, hv, hlist, rfl⟩
    exact ⟨_, ⟨name, hname, labels, hlabels, c, v, l, ls, hc, ht, hv, hlist, rfl⟩, rfl⟩

theorem prepareBulk_addLabels_iff :
    prepareBulk now s b (.str "add_labels") params = .ok (.addLabels, .addLabels c P)
      ↔ StatesLabels now s b params c P :=
  prepareBulk_labels_iff rfl rfl fun _ _ h => by injection h; exact ⟨‹_›, ‹_›⟩

theorem prepareBulk_removeLabels_iff :
    prepareBulk now s b (.str "remove_labels") params = .ok (.removeLabels, .removeLabels c P)
      ↔ StatesLabels now s b params c P :=
  prepareBulk_labels_iff rfl rfl fun _ _ h => by injection h; exact ⟨‹_›, ‹_›⟩

theorem StatesLabels.accepts (h : StatesLabels now s b params c P) :
    c.AcceptsLabels P ∧ c.boardId = b.id := by
  obtain ⟨name, labels, v, l, ls, -, -, hc, ht, hv, hlist, rfl⟩ := h
  have hboard := (mem_columns_schema.1 (mem_of_namedColumn hc)).2
  have hnull : v ≠ .null := by
    rintro rfl
    exact absurd hlist (by simp [Json.strings?])
  obtain ⟨L, rfl, hne, hcanonical, htaken⟩ := canonical_of_validateFor ht hv hnull
  obtain rfl : L = l :: ls := by rwa [strings?_ofStrings] at hlist
  exact ⟨⟨ht, hne, hcanonical, htaken⟩, hboard⟩

end Preparation

/-! ## Laws -/

/-- What adding labels to a task and removing them come to, if the task holds some labels already,
and what follows from it. -/
structure LabelLaws (env : Surroundings) (c : BoardColumn) (P : List String) (run : BulkRun)
    (t : Task) (L : List String) : Prop where
  adds : c.TakesLabels (joinLabels L P).length → BulkRun.step env (.addLabels c P) run t
    = .ok (run.storing t c (.ofStrings (joinLabels L P)))
  tooMany : ¬ c.TakesLabels (joinLabels L P).length → BulkRun.step env (.addLabels c P) run t
    = .ok (run.failing t (problemsText c.name [.tooManyLabels c.maxLabels]))
  removes : ¬ (dropLabels L P = [] ∧ c.requiresLabels = true) →
    BulkRun.step env (.removeLabels c P) run t
      = .ok (run.storing t c (labelsJson (dropLabels L P)))
  required : dropLabels L P = [] ∧ c.requiresLabels = true →
    BulkRun.step env (.removeLabels c P) run t
      = .ok (run.failing t (problemsText c.name [.required]))
  addsOnce : ∃ run₁ run₂, BulkRun.step env (.addLabels c P) run t = .ok run₁
    ∧ BulkRun.step env (.addLabels c P) run₁ t = .ok run₂ ∧ run₂.store = run₁.store
  removesOnce : ∃ run₁ run₂, BulkRun.step env (.removeLabels c P) run t = .ok run₁
    ∧ BulkRun.step env (.removeLabels c P) run₁ t = .ok run₂ ∧ run₂.store = run₁.store
  restores : L ≠ [] → L.Disjoint P → c.TakesLabels (joinLabels L P).length →
    ∃ run₁ run₂, BulkRun.step env (.addLabels c P) run t = .ok run₁
      ∧ BulkRun.step env (.removeLabels c P) run₁ t = .ok run₂
      ∧ run₂.store.value? t.id c.id = some (.ofStrings L)
  keeps : ∀ run₁, BulkRun.step env (.addLabels c P) run t = .ok run₁ →
    ∃ L₁, run₁.store.HoldsLabels t c L₁ ∧ L ⊆ L₁

section Laws

variable {env : Surroundings} {run : BulkRun} {t : Task} {c : BoardColumn} {L P : List String}

theorem holdsLabels_storing (hcanonical : trimmedDistinct L = L)
    (htaken : L ≠ [] → c.TakesLabels L.length) :
    (run.storing t c (labelsJson L)).store.HoldsLabels t c L := by
  refine ⟨?_, hcanonical, htaken⟩
  rw [BulkRun.storing, Store.value?_putValue, Option.getD_some]

/-- What has failed leaves the labels as they are. -/
theorem holdsLabels_failing (hL : run.store.HoldsLabels t c L) (text : String) :
    (run.failing t text).store.HoldsLabels t c L := hL

theorem store_storing_storing (v : Json) :
    ((run.storing t c v).storing t c v).store = (run.storing t c v).store :=
  Store.putValue_putValue ..

theorem holdsLabels_added (hP : c.AcceptsLabels P) (hL : run.store.HoldsLabels t c L)
    (htaken : c.TakesLabels (joinLabels L P).length) :
    (run.storing t c (.ofStrings (joinLabels L P))).store.HoldsLabels t c (joinLabels L P) := by
  rw [← labelsJson_of_ne (joinLabels_ne_nil hP.some)]
  refine holdsLabels_storing ?_ fun _ => htaken
  rw [← trimmedDistinct_append hL.canonical hP.canonical, trimmedDistinct_trimmedDistinct]

theorem holdsLabels_removed (hL : run.store.HoldsLabels t c L) :
    (run.storing t c (labelsJson (dropLabels L P))).store.HoldsLabels t c (dropLabels L P) := by
  refine holdsLabels_storing (trimmedDistinct_dropLabels hL.canonical) fun hleft => ?_
  have hsome : L ≠ [] := fun h => hleft (by rw [h]; rfl)
  exact countExceeds_mono (hL.taken hsome) (List.length_filter_le ..)

theorem labelLaws (hP : c.AcceptsLabels P) (hplaced : c.boardId = t.boardId)
    (hL : run.store.HoldsLabels t c L) : LabelLaws env c P run t L where
  adds := (step_addLabels env hP hplaced hL).1
  tooMany := (step_addLabels env hP hplaced hL).2
  removes := (step_removeLabels env P hP.type hplaced hL).1
  required := (step_removeLabels env P hP.type hplaced hL).2
  addsOnce := by
    by_cases htaken : c.TakesLabels (joinLabels L P).length
    · have hagain := (step_addLabels env hP hplaced (holdsLabels_added hP hL htaken)).1
      rw [joinLabels_again] at hagain
      exact ⟨_, _, (step_addLabels env hP hplaced hL).1 htaken, hagain htaken,
        store_storing_storing _⟩
    · exact ⟨_, _, (step_addLabels env hP hplaced hL).2 htaken,
        (step_addLabels env hP hplaced (holdsLabels_failing hL _)).2 htaken, rfl⟩
  removesOnce := by
    by_cases hnone : dropLabels L P = [] ∧ c.requiresLabels = true
    · exact ⟨_, _, (step_removeLabels env P hP.type hplaced hL).2 hnone,
        (step_removeLabels env P hP.type hplaced (holdsLabels_failing hL _)).2 hnone, rfl⟩
    · have hagain := (step_removeLabels env P hP.type hplaced
        (holdsLabels_removed (P := P) hL)).1
      rw [dropLabels_again] at hagain
      exact ⟨_, _, (step_removeLabels env P hP.type hplaced hL).1 hnone, hagain hnone,
        store_storing_storing _⟩
  restores hsome hdisjoint htaken := by
    have hback := (step_removeLabels env P hP.type hplaced
      (holdsLabels_added hP hL htaken)).1
    rw [dropLabels_joinLabels hdisjoint, labelsJson_of_ne hsome] at hback
    exact ⟨_, _, (step_addLabels env hP hplaced hL).1 htaken, hback fun h => hsome h.1,
      Store.value?_putValue⟩
  keeps run₁ hstep := by
    by_cases htaken : c.TakesLabels (joinLabels L P).length
    · obtain rfl := Except.ok.inj (((step_addLabels env hP hplaced hL).1 htaken).symm.trans hstep)
      exact ⟨_, holdsLabels_added hP hL htaken, fun l hl => mem_joinLabels.2 (.inl hl)⟩
    · obtain rfl := Except.ok.inj (((step_addLabels env hP hplaced hL).2 htaken).symm.trans hstep)
      exact ⟨L, hL, List.Subset.refl L⟩

end Laws

/-- Adding and removing labels is the algebra of ordered sets, for any labels that an operation
accepts as its parameter, and in whatever run a task is reached that holds labels or none. Both
operations accept the same. -/
theorem label_operations {now : Moment} {s : Store} {b : Board} {params : Json} {c : BoardColumn}
    {P L : List String} {run : BulkRun} {t : Task}
    (haccepted : prepareBulk now s b (.str "add_labels") params = .ok (.addLabels, .addLabels c P)
      ∨ prepareBulk now s b (.str "remove_labels") params
        = .ok (.removeLabels, .removeLabels c P))
    (hplaced : t.boardId = b.id) (hL : run.store.HoldsLabels t c L) :
    prepareBulk now s b (.str "add_labels") params = .ok (.addLabels, .addLabels c P)
    ∧ prepareBulk now s b (.str "remove_labels") params = .ok (.removeLabels, .removeLabels c P)
    ∧ LabelLaws (s.surroundings now) c P run t L := by
  have hstates : StatesLabels now s b params c P :=
    haccepted.elim prepareBulk_addLabels_iff.1 prepareBulk_removeLabels_iff.1
  obtain ⟨hP, hboard⟩ := hstates.accepts
  exact ⟨prepareBulk_addLabels_iff.2 hstates, prepareBulk_removeLabels_iff.2 hstates,
    labelLaws hP (hboard.trans hplaced.symm) hL⟩

section Example

open Sample

/-- A task with two labels. -/
def Sample.twoLabels : Store :=
  store (column "tags" .labels []) [task "t"] [("t", .ofStrings ["a", "b"])]

/-- Of two labels that are added, one is there already. -/
theorem label_operations_overlapping :
    prepareBulk Moment.first twoLabels board (.str "add_labels")
        (.obj [("column", .str "tags"), ("labels", .ofStrings ["b", " c "])])
      = .ok (.addLabels, .addLabels (column "tags" .labels []) ["b", "c"])
    ∧ twoLabels.HoldsLabels (task "t") (column "tags" .labels []) ["a", "b"]
    ∧ BulkRun.step (twoLabels.surroundings Moment.first)
        (.addLabels (column "tags" .labels []) ["b", "c"]) ⟨twoLabels, [], []⟩ (task "t")
      = .ok (BulkRun.storing ⟨twoLabels, [], []⟩ (task "t") (column "tags" .labels [])
        (.ofStrings ["a", "b", "c"])) := by
  have hlimit : (column "tags" .labels []).maxLabels = .int 10 := rfl
  have hschema : twoLabels.schema board = _ := schema_store rfl _ _
  have haccepted : prepareBulk Moment.first twoLabels board (.str "add_labels")
      (.obj [("column", .str "tags"), ("labels", .ofStrings ["b", " c "])])
      = .ok (.addLabels, .addLabels (column "tags" .labels []) ["b", "c"]) := by
    rw [prepareBulk, hschema]
    rfl
  have hL : (BulkRun.mk twoLabels [] []).store.HoldsLabels (task "t") (column "tags" .labels [])
      ["a", "b"] :=
    ⟨rfl, by decide +kernel, fun _ => (BoardColumn.takesLabels_iff hlimit).2 (by decide)⟩
  obtain ⟨-, -, hlaws⟩ := label_operations (.inl haccepted) rfl hL
  exact ⟨haccepted, hL, hlaws.adds ((BoardColumn.takesLabels_iff hlimit).2 (by decide))⟩

end Example

end BoardQuery
