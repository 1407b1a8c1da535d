import BoardQuery.Proofs.Query.StaleFilters
import Mathlib.Data.List.Forall2

/-!
# What a filter selects

Conditions have a third outcome, and stale conditions are left out at any depth. Filters select as
if neither were so: a task is selected if it is in scope and satisfies what is left of the filter,
read in two values, where each condition stands for the tasks that it selects by itself
(`selectTasks_ofFilter`). What a group says is what its members say in one
(`verdict_ofFilter_group`), so rearranging a filter does not change what it selects
(`Filter.Rearranged.verdict_eq`).
-/

namespace BoardQuery

/-! ## Filters in two values -/

/-- Whether a filter is satisfied, given the conditions that are: a group of all by all of its
members, a group of any by one of them. -/
inductive Filter.Satisfied {Name Value : Type} (sat : Leaf Name Value → Prop) :
    Filter Name Value → Prop
  | leaf {l : Leaf Name Value} (h : sat l) : Satisfied sat (.leaf l)
  | all {members : List (Filter Name Value)} (h : ∀ m ∈ members, Satisfied sat m) :
    Satisfied sat (.group .all members)
  | any {members : List (Filter Name Value)} {m : Filter Name Value} (hm : m ∈ members)
    (h : Satisfied sat m) : Satisfied sat (.group .any members)

/-- Filters that differ in the logics of their conditions, in the order of members, and in groups
inside groups of the same logic. -/
inductive Filter.Rearranged {Name Value : Type} : Filter Name Value → Filter Name Value → Prop
  | refl (f : Filter Name Value) : Rearranged f f
  | symm {f g : Filter Name Value} (h : Rearranged f g) : Rearranged g f
  | trans {f g h : Filter Name Value} (hfg : Rearranged f g) (hgh : Rearranged g h) :
    Rearranged f h
  | ownLogic (l : Leaf Name Value) (logic : Logic) : Rearranged (.leaf l) (.leaf { l with logic })
  | order {logic : Logic} {ms ms' : List (Filter Name Value)} (h : ms.Perm ms') :
    Rearranged (.group logic ms) (.group logic ms')
  | unwrap (logic : Logic) (before ms after : List (Filter Name Value)) :
    Rearranged (.group logic (before ++ .group logic ms :: after))
      (.group logic (before ++ ms ++ after))
  | member (logic : Logic) (before after : List (Filter Name Value)) {m m' : Filter Name Value}
    (h : Rearranged m m') :
    Rearranged (.group logic (before ++ m :: after)) (.group logic (before ++ m' :: after))

/-- What a logic makes of several answers. -/
def Logic.combine : Logic → List Bool → Bool
  | .all, bs => bs.all id
  | .any, bs => bs.any id

/-- What the members of a group say in one; where they say nothing, nothing is said. -/
def Logic.join (logic : Logic) (bs : List Bool) : Option Bool :=
  if bs.isEmpty then none else some (logic.combine bs)

/-- What a selection says of a task, unless nothing is left of the filter. -/
def Selection.verdict (s : Store) (t : Task) (sel : Selection) : Option Bool :=
  sel.condition.map (·.selects s t)

namespace Filter

variable {Name Value : Type} {sat : Leaf Name Value → Prop} {members : List (Filter Name Value)}

theorem satisfied_leaf {l : Leaf Name Value} : Satisfied sat (.leaf l) ↔ sat l := by
  refine ⟨fun h => ?_, .leaf⟩
  cases h with
  | leaf h => exact h

theorem satisfied_all : Satisfied sat (.group .all members) ↔ ∀ m ∈ members, m.Satisfied sat := by
  refine ⟨fun h => ?_, .all⟩
  cases h with
  | all h => exact h

theorem satisfied_any : Satisfied sat (.group .any members) ↔ ∃ m ∈ members, m.Satisfied sat := by
  refine ⟨fun h => ?_, fun ⟨_, hm, h⟩ => .any hm h⟩
  cases h with
  | any hm h => exact ⟨_, hm, h⟩

end Filter

namespace Logic

variable {logic : Logic} {bs bs' before after : List Bool}

theorem join_perm (h : bs.Perm bs') : logic.join bs = logic.join bs' := by
  have hempty : bs.isEmpty = bs'.isEmpty := by
    rw [Bool.eq_iff_iff, List.isEmpty_iff, List.isEmpty_iff]
    exact ⟨fun hnil => (hnil ▸ h).nil_eq.symm, fun hnil => (hnil ▸ h).eq_nil⟩
  have hcombine : logic.combine bs = logic.combine bs' := by
    cases logic with
    | all => exact h.all_eq
    | any => exact h.any_eq
  rw [join, join, hempty, hcombine]

/-- A group inside a group of the same logic says what its members would say in its place. -/
theorem join_nested : logic.join (before ++ (logic.join bs).toList ++ after)
    = logic.join (before ++ bs ++ after) := by
  cases bs with
  | nil => rfl
  | cons b bs =>
    have hcombine : logic.combine (before ++ [logic.combine (b :: bs)] ++ after)
        = logic.combine (before ++ (b :: bs) ++ after) := by
      cases logic <;> simp [combine, Bool.and_assoc, Bool.or_assoc]
    have hjoin : (logic.join (b :: bs)).toList = [logic.combine (b :: bs)] := rfl
    rw [hjoin, join, join, hcombine, if_neg (by simp), if_neg (by simp)]

end Logic

/-! ## Verdicts -/

section Verdicts

variable {schema : BoardSchema} {s : Store} {t : Task}

theorem selects_allOf (cs : List Condition) :
    (Condition.allOf cs).selects s t = cs.all (·.selects s t) := by
  induction cs with
  | nil => rfl
  | cons c cs ih =>
    rw [List.all_cons, ← ih]
    exact Truth.isYes_and _ _

theorem selects_anyOf (cs : List Condition) :
    (Condition.anyOf cs).selects s t = cs.any (·.selects s t) := by
  induction cs with
  | nil => rfl
  | cons c cs ih =>
    rw [List.any_cons, ← ih]
    exact Truth.isYes_or _ _

theorem ofMembers_eq_map (ms : List BuiltFilter) :
    Selection.ofMembers schema ms = ms.map (Selection.ofFilter schema) := by
  induction ms with
  | nil => rfl
  | cons m ms ih => rw [Selection.ofMembers, ih, List.map_cons]

/-- A group says what its members say in two values; it is the same to it whether a member fails a
task or has no outcome. -/
theorem verdict_ofFilter_group (logic : Logic) (ms : List BuiltFilter) :
    (Selection.ofFilter schema (.group logic ms)).verdict s t
      = logic.join (ms.filterMap fun m => (Selection.ofFilter schema m).verdict s t) := by
  have hmap : (ms.filterMap fun m => (Selection.ofFilter schema m).verdict s t)
      = (((Selection.ofMembers schema ms).filterMap (·.condition)).map (·.selects s t)) := by
    rw [ofMembers_eq_map, List.map_filterMap, List.filterMap_map]
    rfl
  rw [hmap, Selection.ofFilter, Selection.verdict]
  generalize (Selection.ofMembers schema ms).filterMap (·.condition) = cs
  unfold joinConditions Logic.join
  rw [List.isEmpty_map]
  split_ifs with hempty
  · rfl
  · cases logic with
    | all => simp [selects_allOf, Logic.combine]
    | any => simp [selects_anyOf, Logic.combine]

theorem Filter.Rearranged.verdict_eq {f g : BuiltFilter} (h : f.Rearranged g) :
    (Selection.ofFilter schema f).verdict s t = (Selection.ofFilter schema g).verdict s t := by
  induction h with
  | refl => rfl
  | symm _ ih => exact ih.symm
  | trans _ _ ih ih' => exact ih.trans ih'
  | ownLogic => rfl
  | order h =>
    rw [verdict_ofFilter_group, verdict_ofFilter_group]
    exact Logic.join_perm (h.filterMap _)
  | unwrap logic before ms after =>
    have hcons (ms : List BuiltFilter) (m : BuiltFilter) :
        (m :: ms).filterMap (fun m => (Selection.ofFilter schema m).verdict s t)
          = ((Selection.ofFilter schema m).verdict s t).toList
            ++ ms.filterMap fun m => (Selection.ofFilter schema m).verdict s t := by
      rw [List.filterMap_cons]
      cases (Selection.ofFilter schema m).verdict s t <;> rfl
    rw [verdict_ofFilter_group, verdict_ofFilter_group, List.filterMap_append, hcons,
      verdict_ofFilter_group, ← List.append_assoc, Logic.join_nested, List.filterMap_append,
      List.filterMap_append]
  | member logic before after _ ih =>
    rw [verdict_ofFilter_group, verdict_ofFilter_group, List.filterMap_append,
      List.filterMap_append, List.filterMap_cons, List.filterMap_cons, ih]

/-- Whether a verdict, if there is one, is that of what is left of a filter. -/
def SaysOf (sat : Leaf String Operand → Prop) (b : Bool) (kept : BuiltFilter) : Prop :=
  b = true ↔ kept.Satisfied sat

variable {sat : Leaf String Operand → Prop}

theorem forall_saysOf {bs : List Bool} {kept : List BuiltFilter}
    (h : List.Forall₂ (SaysOf sat) bs kept) :
    (∀ b ∈ bs, b = true) ↔ ∀ m ∈ kept, m.Satisfied sat := by
  induction h with
  | nil => simp
  | cons hb _ ih => simp only [List.forall_mem_cons, ih, hb.eq]

theorem exists_saysOf {bs : List Bool} {kept : List BuiltFilter}
    (h : List.Forall₂ (SaysOf sat) bs kept) :
    (∃ b ∈ bs, b = true) ↔ ∃ m ∈ kept, m.Satisfied sat := by
  induction h with
  | nil => simp
  | cons hb _ ih => simp only [List.exists_mem_cons_iff, ih, hb.eq]

theorem combine_saysOf (logic : Logic) {bs : List Bool} {kept : List BuiltFilter}
    (h : List.Forall₂ (SaysOf sat) bs kept) :
    SaysOf sat (logic.combine bs) (.group logic kept) := by
  cases logic with
  | all =>
    rw [SaysOf, Filter.satisfied_all, ← forall_saysOf h]
    exact List.all_eq_true
  | any =>
    rw [SaysOf, Filter.satisfied_any, ← exists_saysOf h]
    exact List.any_eq_true

mutual

/-- The verdict of a filter is that of what is left of it, if its conditions say what their own
verdicts are. -/
theorem verdict_ofFilter_saysOf
    (hsat : ∀ l b, (Selection.ofLeaf schema l).verdict s t = some b → (b = true ↔ sat l)) :
    (f : BuiltFilter) → Option.Rel (SaysOf sat) ((Selection.ofFilter schema f).verdict s t)
      (f.prune (!·.isStale schema))
  | .leaf l => by
    rw [Selection.ofFilter, Filter.prune]
    cases h : l.isStale schema with
    | true =>
      rw [Selection.ofLeaf_stale h]
      exact .none
    | false =>
      obtain ⟨c, hc⟩ := Selection.ofLeaf_fresh h
      have hverdict : (Selection.ofLeaf schema l).verdict s t = some (c.selects s t) := by
        rw [hc]
        rfl
      rw [hverdict]
      exact .some ((hsat l _ hverdict).trans Filter.satisfied_leaf.symm)
  | .group logic ms => by
    have hms := verdicts_saysOf hsat ms
    rw [verdict_ofFilter_group, Filter.prune]
    generalize ms.filterMap _ = bs, Filter.pruneMembers _ ms = kept at hms ⊢
    cases hms with
    | nil => exact .none
    | cons hb hbs => exact .some (combine_saysOf logic (.cons hb hbs))

theorem verdicts_saysOf
    (hsat : ∀ l b, (Selection.ofLeaf schema l).verdict s t = some b → (b = true ↔ sat l)) :
    (ms : List BuiltFilter) → List.Forall₂ (SaysOf sat)
      (ms.filterMap fun m => (Selection.ofFilter schema m).verdict s t)
      (Filter.pruneMembers (!·.isStale schema) ms)
  | [] => .nil
  | m :: ms => by
    have hm := verdict_ofFilter_saysOf hsat m
    have hms := verdicts_saysOf hsat ms
    rw [List.filterMap_cons, Filter.pruneMembers]
    generalize (Selection.ofFilter schema m).verdict s t = b, m.prune _ = kept at hm ⊢
    cases hm with
    | none => exact hms
    | some h => exact .cons h hms

end

end Verdicts

/-! ## Selected tasks -/

section Selected

variable {schema : BoardSchema} {s : Store} {archived : Bool} {t : Task} {sel sel' : Selection}

theorem inScope_iff : inScope schema archived t = true ↔ t.boardId = schema.boardId
    ∧ t.workspaceId = schema.workspaceId ∧ (archived = true ∨ t.archivedAt = none) := by
  simp [inScope, and_assoc]

theorem mem_selectTasks_iff : t ∈ selectTasks s schema archived sel.condition ↔ t ∈ s.tasks
    ∧ inScope schema archived t = true ∧ ∀ b, sel.verdict s t = some b → b = true := by
  rw [selectTasks, List.mem_filter, Bool.and_eq_true, Option.all_eq_true, Selection.verdict]
  simp

theorem Selection.all_selects (sel : Selection) (s : Store) (t : Task) :
    sel.condition.all (·.selects s t) = (sel.verdict s t).all id := by
  rw [verdict, Option.all_map]
  rfl

theorem selectTasks_congr_verdict (h : ∀ t, sel.verdict s t = sel'.verdict s t) :
    selectTasks s schema archived sel.condition = selectTasks s schema archived sel'.condition := by
  simp only [selectTasks, Selection.all_selects, h]

/-- A condition that is not stale says by itself what it says as the only one of a filter. -/
theorem verdict_ofFilter_alone {l : Leaf String Operand} {b : Bool}
    (h : (Selection.ofLeaf schema l).verdict s t = some b) :
    (Selection.ofFilter schema (.group .all [.leaf l])).verdict s t = some b := by
  rw [verdict_ofFilter_group, List.filterMap_cons, Selection.ofFilter, h, List.filterMap_nil]
  simp [Logic.join, Logic.combine]

/-- A filter selects the tasks in scope that satisfy what is left of it, where each condition stands
for the tasks that it selects by itself. Rearranging a filter does not change what it selects, and
the warnings tell of the conditions that are left out, in the order written. -/
theorem selectTasks_ofFilter (schema : BoardSchema) (f : BuiltFilter) :
    (∀ s archived t, t ∈ selectTasks s schema archived (Selection.ofFilter schema f).condition
        ↔ t ∈ s.tasks
          ∧ (t.boardId = schema.boardId ∧ t.workspaceId = schema.workspaceId
            ∧ (archived = true ∨ t.archivedAt = none))
          ∧ ∀ kept, f.prune (!·.isStale schema) = some kept → kept.Satisfied fun l =>
            t ∈ selectTasks s schema archived
              (Selection.ofFilter schema (.group .all [.leaf l])).condition)
      ∧ (∀ g, f.Rearranged g → ∀ s archived,
        selectTasks s schema archived (Selection.ofFilter schema f).condition
          = selectTasks s schema archived (Selection.ofFilter schema g).condition)
      ∧ (Selection.ofFilter schema f).warnings
        = (f.leaves.filter (·.isStale schema)).map (·.staleWarning schema) := by
  refine ⟨fun s archived t => ?_, fun g h s archived => ?_, Selection.warnings_ofFilter f⟩
  · rw [mem_selectTasks_iff, inScope_iff]
    refine and_congr_right fun ht => and_congr_right fun hscope => ?_
    have hsat (l : Leaf String Operand) (b : Bool)
        (h : (Selection.ofLeaf schema l).verdict s t = some b) :
        b = true ↔ t ∈ selectTasks s schema archived
          (Selection.ofFilter schema (.group .all [.leaf l])).condition := by
      rw [mem_selectTasks_iff, inScope_iff, verdict_ofFilter_alone h]
      simp [ht, hscope]
    have hsays := verdict_ofFilter_saysOf hsat f
    generalize (Selection.ofFilter schema f).verdict s t = b, f.prune _ = kept at hsays ⊢
    cases hsays with
    | none => simp
    | some h =>
      rw [SaysOf] at h
      simpa using h
  · exact selectTasks_congr_verdict fun t => h.verdict_eq

end Selected

section Example

def titleIsA : BuiltFilter := .leaf ⟨"title", .text, .equals, .text "a", .all⟩

/-- A condition on a column that is on no board. -/
def ghostIsA : BuiltFilter := .leaf ⟨"ghost", .text, .equals, .text "a", .all⟩

def titleOrGhost : BuiltFilter := .group .any [.group .any [titleIsA], ghostIsA]

def ghostOrTitle : BuiltFilter := .group .any [ghostIsA, titleIsA]

def columnless : BoardSchema := ⟨Sample.board.id, Sample.board.workspaceId, []⟩

def twoTitles : Store := { Store.empty with tasks := [Sample.task "a", Sample.task "b"] }

/-- The group inside the group and the order do not matter, and the unknown column neither lets the
other task through nor keeps the task with the title out. -/
theorem selectTasks_ofFilter_titleOrGhost :
    titleOrGhost.Rearranged ghostOrTitle
      ∧ selectTasks twoTitles columnless false
          (Selection.ofFilter columnless titleOrGhost).condition
        = selectTasks twoTitles columnless false
          (Selection.ofFilter columnless ghostOrTitle).condition
      ∧ Sample.task "a" ∈ selectTasks twoTitles columnless false
        (Selection.ofFilter columnless titleOrGhost).condition
      ∧ Sample.task "b" ∉ selectTasks twoTitles columnless false
        (Selection.ofFilter columnless titleOrGhost).condition
      ∧ (Selection.ofFilter columnless titleOrGhost).warnings = [.unknownColumn "ghost"] := by
  obtain ⟨hselected, hrearranged, hwarnings⟩ := selectTasks_ofFilter columnless titleOrGhost
  have hunwrap : titleOrGhost.Rearranged (.group .any [titleIsA, ghostIsA]) :=
    .unwrap .any [] [titleIsA] [ghostIsA]
  have h : titleOrGhost.Rearranged ghostOrTitle := .trans hunwrap (.order (.swap _ _ _))
  refine ⟨h, hrearranged _ h _ _, ?_, ?_, hwarnings.trans rfl⟩
  · refine (hselected _ _ _).2 ⟨List.mem_cons_self, ⟨rfl, rfl, .inr rfl⟩, fun kept hkept => ?_⟩
    obtain rfl : Filter.group .any [.group .any [titleIsA]] = kept := Option.some.inj hkept
    refine .any List.mem_cons_self (.any List.mem_cons_self (.leaf ?_))
    exact List.mem_filter.2 ⟨List.mem_cons_self, by decide⟩
  · exact fun hmem => absurd (List.mem_filter.1 hmem).2 (by decide)

end Example

end BoardQuery
