import BoardQuery.Proofs.Calendar.Written
import BoardQuery.Proofs.Json.Occurrences
import BoardQuery.Proofs.Query.LeafTests
import BoardQuery.Proofs.Sample
import BoardQuery.Proofs.Service.Writes
import BoardQuery.Proofs.Value.Forms

/-!
# Emptiness of what was written

A task without a row for a column, or with a null in it, is empty there. Of the values that writing
accepts, only a text can be taken for an empty one: the text `[]`, as an empty list is written too,
and a text that is this or nothing up to its first null character (`emptiness_of_setValue`).
-/

namespace BoardQuery

open Json

/-! ## Writing a row -/

namespace Store

variable {s : Store} {taskId columnId : String} {v : Json}

theorem value?_putValue : (s.putValue taskId columnId v).value? taskId columnId = some v := by
  unfold putValue
  split_ifs with h
  · obtain ⟨w, hw⟩ := Option.isSome_iff_exists.1 h
    obtain ⟨row, hrow, -⟩ := Option.map_eq_some_iff.1 hw
    have hkey := List.find?_some hrow
    rw [value?, List.find?_map]
    have hsame : (s.values.find? ((fun u => u.taskId == taskId && u.columnId == columnId) ∘ fun u =>
        if u.taskId == taskId && u.columnId == columnId then { u with value := v } else u))
        = some row := by
      rw [← hrow]
      congr 1
      funext u
      simp only [Function.comp_apply]
      split_ifs <;> rfl
    rw [hsame, Option.map_some, Option.map_some, if_pos hkey]
  · have hnone : s.values.find? (fun u => u.taskId == taskId && u.columnId == columnId) = none := by
      simpa [value?] using h
    simp [value?, List.find?_append, hnone]

theorem uniqueRows_putValue (h : s.UniqueRows) : (s.putValue taskId columnId v).UniqueRows := by
  unfold putValue
  split_ifs with hrow
  · have hkeys : (s.values.map fun u =>
        if u.taskId == taskId && u.columnId == columnId then { u with value := v } else u).map
          (fun u => (u.taskId, u.columnId)) = s.values.map fun u => (u.taskId, u.columnId) := by
      rw [List.map_map]
      refine List.map_congr_left fun u _ => ?_
      simp only [Function.comp_apply]
      split_ifs <;> rfl
    rw [UniqueRows, hkeys]
    exact h
  · rw [UniqueRows, List.map_append, List.nodup_append]
    refine ⟨h, List.nodup_singleton _, ?_⟩
    rintro key hkey _ hnew rfl
    obtain rfl := List.mem_singleton.1 hnew
    obtain ⟨u, hu, hpair⟩ := List.mem_map.1 hkey
    obtain ⟨rfl, rfl⟩ := Prod.mk.inj hpair
    exact hrow (by simpa [value?] using ⟨u, hu, rfl, rfl⟩)

theorem rowsAt_putValue_of_ne {otherTask otherColumn : String}
    (h : ¬ (taskId = otherTask ∧ columnId = otherColumn)) :
    (s.putValue otherTask otherColumn v).rowsAt taskId columnId = s.rowsAt taskId columnId :=
  filter_putValue fun _ => by
    rw [Bool.and_eq_false_iff, beq_eq_false_iff_ne, beq_eq_false_iff_ne, ← not_and_or]
    exact fun hkey => h ⟨hkey.1.symm, hkey.2.symm⟩

/-- A task has one row for a column in which a value has been written, and it holds the value. -/
theorem rowsAt_putValue (h : s.UniqueRows) :
    (s.putValue taskId columnId v).rowsAt taskId columnId = [⟨taskId, columnId, v⟩] := by
  rw [rowsAt_of_unique (uniqueRows_putValue h), value?_putValue]
  rfl

end Store

/-! ## Values that look empty -/

/-- Whether a text, up to its first null character, is empty or written like an empty list. -/
def Json.looksEmpty : Json → Bool
  | .str s => let cs := s.toList.takeWhile (· != '\x00')
    cs == [] || cs == ['[', ']']
  | _ => false

theorem looksEmpty_of_digit {c : Char} (cs : List Char) (hc : c.isDigit = true) :
    (Json.str (String.ofList (c :: cs))).looksEmpty = false := by
  have hne (d : Char) (hd : d.isDigit = false) : c ≠ d := by
    rintro rfl
    exact absurd (hc.symm.trans hd) (by decide)
  simp [Json.looksEmpty, hne '\x00' (by decide), hne '[' (by decide)]

theorem looksEmpty_chars (d : Date) (cs : List Char) :
    (Json.str (String.ofList (d.chars ++ cs))).looksEmpty = false := by
  obtain ⟨c, digits, hdigits⟩ := List.exists_cons_of_ne_nil (Date.padded_ne_nil 4 d.year)
  have hc := Date.isDigit_of_mem_padded 4 d.year (hdigits ▸ List.mem_cons_self)
  rw [Date.chars, hdigits]
  exact looksEmpty_of_digit _ hc

section Stored

variable {t : ColumnType} {o : Options} {w : Json}

/-- Only values that are any text at all can look empty. -/
theorem Json.CanonicalOf.looksEmpty (hw : w.CanonicalOf t o) (h : w.looksEmpty = true) :
    t.family = .text ∨ t.family = .enumerated ∨ t.family = .assignee := by
  cases hw with
  | text ht => exact .inl ht
  | choice ht => exact .inr (.inl ht)
  | user ht | users ht => exact .inr (.inr (ht ▸ rfl))
  | @day d =>
    have hchars := looksEmpty_chars d []
    rw [List.append_nil] at hchars
    exact absurd (h.symm.trans hchars) (by decide)
  | @second m => exact absurd (h.symm.trans (looksEmpty_chars m.date _)) (by decide)
  | number | labels | checked => exact absurd h Bool.false_ne_true

theorem isEmpty_text (o' : Options) (cs : List Char) :
    (Storage.ofColumn t o').isEmpty.eval (.text (String.ofList cs))
      = .ofBool (cs == [] || cs == ['[', ']']) := by
  have htext (ds : List Char) :
      (Cell.text (String.ofList cs) == .text (String.ofList ds)) = (cs == ds) := by
    rw [Bool.eq_iff_iff, beq_iff_eq, beq_iff_eq, Cell.text.injEq, String.ofList_inj]
  rw [isEmpty_ofColumn, beq_eq_false_iff_ne.2 Cell.noConfusion, Bool.false_or, ← htext [],
    ← htext ['[', ']']]

/-- The test for emptiness on a value that a column keeps. -/
theorem isEmpty_stored (h : w = .null ∨ w.CanonicalOf t o) (o' : Options) :
    (Storage.ofColumn t o').isEmpty.eval (.ofStored w) = .ofBool (w.isNull || w.looksEmpty) := by
  have hstr (s : String) : (Storage.ofColumn t o').isEmpty.eval (.ofStored (.str s))
      = .ofBool ((Json.str s).isNull || (Json.str s).looksEmpty) := isEmpty_text _ _
  have hlist {items : List String} (hne : items ≠ []) :
      (Storage.ofColumn t o').isEmpty.eval (.ofStored (.ofStrings items)) = .no := by
    obtain ⟨e, es, rfl⟩ := List.exists_cons_of_ne_nil hne
    have hstored : Cell.ofStored (.ofStrings (e :: es))
        = .text (String.ofList (listChars ((e :: es).map String.toList))) := by
      rw [← writeChars_ofStrings]
      rfl
    rw [hstored, isEmpty_text, List.map_cons, listChars]
    simp [Truth.ofBool]
  rcases h with rfl | hw
  · rfl
  · cases hw with
    | text => exact hstr _
    | choice => exact hstr _
    | user => exact hstr _
    | day => exact hstr _
    | second => exact hstr _
    | number =>
      rw [isEmpty_ofColumn]
      rfl
    | checked =>
      rw [isEmpty_ofColumn]
      rfl
    | users _ _ hne => exact hlist hne
    | labels _ hne => exact hlist hne

end Stored

/-! ## Tasks that are empty in a column -/

/-- The condition that a column is empty, or that it is not. -/
def emptinessLeaf (name : String) (t : ColumnType) (op : Operator) : Leaf String Operand :=
  ⟨name, t, op, .absent, .all⟩

section Tasks

variable {s : Store} {schema : BoardSchema} {t : Task} {c : BoardColumn} {type : ColumnType}
  {name : String} {archived : Bool} {o : Options}

theorem emptiness_selects (hs : s.UniqueRows)
    (hresolve : resolve (some schema) name = some (.column c type)) (ht : t ∈ s.tasks)
    (hscope : inScope schema archived t = true)
    (hvalue : (s.value? t.id c.id).getD .null = .null
      ∨ ((s.value? t.id c.id).getD .null).CanonicalOf type o) :
    (t ∈ selectTasks s schema archived
        (Selection.ofLeaf schema (emptinessLeaf name type .isEmpty)).condition
      ↔ (s.value? t.id c.id).getD .null = .null
        ∨ ((s.value? t.id c.id).getD .null).looksEmpty = true)
    ∧ (t ∈ selectTasks s schema archived
        (Selection.ofLeaf schema (emptinessLeaf name type .isNotEmpty)).condition
      ↔ (s.value? t.id c.id).getD .null ≠ .null
        ∧ ((s.value? t.id c.id).getD .null).looksEmpty = false) := by
  have hstored := isEmpty_stored hvalue (c.effectiveOptions type)
  have hisNull (v : Json) : v.isNull = true ↔ v = .null := by
    cases v <;> simp [isNull]
  constructor
  · rw [mem_selectTasks_ofLeaf hs hresolve rfl (.absent rfl), and_iff_right ht,
      and_iff_right hscope]
    simp only [emptinessLeaf, operatorTest, Resolved.storage, Resolved.cell, hstored,
      Truth.isYes_ofBool, Bool.or_eq_true, hisNull]
  · rw [mem_selectTasks_ofLeaf hs hresolve rfl (.absent rfl), and_iff_right ht,
      and_iff_right hscope]
    simp only [emptinessLeaf, operatorTest, Resolved.storage, Resolved.cell, CellTest.eval, hstored,
      isYes_not_ofBool, Bool.not_eq_true', Bool.or_eq_false_iff, ← hisNull, ne_eq,
      Bool.not_eq_true]

/-- Emptiness before and after a write. A task without a row is empty. After a value that the column
accepts is written, the task is empty if the value is null, or else a text that looks empty. -/
theorem emptiness_of_setValue (hs : s.UniqueRows)
    (hresolve : resolve (some schema) name = some (.column c type)) (ht : t ∈ s.tasks)
    (hscope : inScope schema archived t = true) :
    (s.value? t.id c.id = none →
      t ∈ selectTasks s schema archived
          (Selection.ofLeaf schema (emptinessLeaf name type .isEmpty)).condition
        ∧ t ∉ selectTasks s schema archived
          (Selection.ofLeaf schema (emptinessLeaf name type .isNotEmpty)).condition)
    ∧ ∀ env raw w, c.boardId = t.boardId → validateFor env c c.name raw = .ok w →
      ∃ s', setValue env s t c raw = .ok s' ∧ s'.tasks = s.tasks ∧ s'.value? t.id c.id = some w
        ∧ (t ∈ selectTasks s' schema archived
            (Selection.ofLeaf schema (emptinessLeaf name type .isEmpty)).condition
          ↔ w = .null ∨ w.looksEmpty = true)
        ∧ (t ∈ selectTasks s' schema archived
            (Selection.ofLeaf schema (emptinessLeaf name type .isNotEmpty)).condition
          ↔ w ≠ .null ∧ w.looksEmpty = false)
        ∧ (w.looksEmpty = true →
          type.family = .text ∨ type.family = .enumerated ∨ type.family = .assignee) := by
  constructor
  · intro hnone
    have hselects := emptiness_selects (o := []) hs hresolve ht hscope (.inl (by rw [hnone]; rfl))
    rw [hnone] at hselects
    exact ⟨hselects.1.2 (.inl rfl), fun hmem => (hselects.2.1 hmem).1 rfl⟩
  · intro env raw w hboard hvalid
    have hform : w = .null ∨ w.CanonicalOf type (type.effectiveOptions (c.effectiveOptions type)) :=
      canonicalOf_of_validateFor (columnType?_of_resolve hresolve) hvalid
    have hset : setValue env s t c raw = .ok (s.putValue t.id c.id w) := by
      simp only [setValue, bne_eq_false_iff_eq.2 hboard, hvalid]
      rfl
    have hrow : (s.putValue t.id c.id w).value? t.id c.id = some w := Store.value?_putValue
    have hselects := emptiness_selects (s := s.putValue t.id c.id w)
      (Store.uniqueRows_putValue hs) hresolve (by rwa [s.tasks_putValue]) hscope (by rwa [hrow])
    rw [hrow] at hselects
    refine ⟨_, hset, s.tasks_putValue .., hrow, hselects.1, hselects.2, fun hlooks => ?_⟩
    rcases hform with rfl | hform
    · exact absurd hlooks Bool.false_ne_true
    · exact hform.looksEmpty hlooks

end Tasks

section Example

/-- A task without a note. -/
def unnoted : Store :=
  Sample.store (Sample.column "note" .text []) [Sample.task "t"] []

def notedSchema : BoardSchema :=
  ⟨Sample.board.id, Sample.board.workspaceId, [Sample.column "note" .text []]⟩

def anyone : Surroundings := ⟨Moment.first, none⟩

/-- Without a note the task is empty, and with one it is not. -/
theorem emptiness_of_setValue_note :
    Sample.task "t" ∈ selectTasks unnoted notedSchema false
        (Selection.ofLeaf notedSchema (emptinessLeaf "note" .text .isEmpty)).condition
      ∧ ∃ s', setValue anyone unnoted (Sample.task "t") (Sample.column "note" .text []) (.str " x ")
          = .ok s'
        ∧ Sample.task "t" ∉ selectTasks s' notedSchema false
          (Selection.ofLeaf notedSchema (emptinessLeaf "note" .text .isEmpty)).condition := by
  obtain ⟨hnone, hwritten⟩ := @emptiness_of_setValue unnoted notedSchema (Sample.task "t")
    (Sample.column "note" .text []) .text "note" false (by decide) rfl (by decide) (by decide)
  have hvalid : validateFor anyone (Sample.column "note" .text []) "note" (.str " x ")
      = .ok (.str "x") := rfl
  obtain ⟨s', hset, -, -, hempty, -⟩ := hwritten anyone _ _ rfl hvalid
  refine ⟨(hnone rfl).1, s', hset, fun hmem => ?_⟩
  rcases hempty.1 hmem with h | h
  · exact absurd h Json.noConfusion
  · exact absurd h (by decide)

/-- A note of two brackets is a value, but counts as empty. -/
theorem isEmpty_brackets :
    validateFor anyone (Sample.column "note" .text []) "note" (.str "[]") = .ok (.str "[]")
      ∧ ∃ s', setValue anyone unnoted (Sample.task "t") (Sample.column "note" .text []) (.str "[]")
          = .ok s'
        ∧ s'.value? "t" "note" = some (.str "[]")
        ∧ Sample.task "t" ∈ selectTasks s' notedSchema false
          (Selection.ofLeaf notedSchema (emptinessLeaf "note" .text .isEmpty)).condition
        ∧ Sample.task "t" ∉ selectTasks s' notedSchema false
          (Selection.ofLeaf notedSchema (emptinessLeaf "note" .text .isNotEmpty)).condition :=
  ⟨rfl, _, rfl, rfl, by decide, by decide⟩

end Example

end BoardQuery
