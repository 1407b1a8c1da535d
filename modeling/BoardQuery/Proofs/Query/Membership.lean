import BoardQuery.Proofs.Filter.Rebuild
import BoardQuery.Proofs.Json.Occurrences
import BoardQuery.Proofs.Query.LeafTests
import BoardQuery.Proofs.Sample

/-!
# Membership in stored lists

Labels, and the users of a column that takes several, are kept as the text of a list, and an item is
sought as its quoted text in that text, in either letter case. It is found in an element that it is
alike, but also in one that goes on with it after a quote, and a comma is found between any two
elements (`memberTest_isYes_iff`). Conditions on such columns select tasks accordingly
(`listed_selects`).
-/

namespace BoardQuery

open Json

/-- Whether two texts are the same up to the case of unaccented letters. -/
def Text.Alike (s t : String) : Prop :=
  s.toList.map Char.toLower = t.toList.map Char.toLower

instance (s t : String) : Decidable (Text.Alike s t) :=
  inferInstanceAs (Decidable (_ = _))

/-- Whether the quoted text of an item is found in the text of a list: as an element, as the rest of
an element after a quote, or as the comma between two elements. -/
def FoundIn (item : String) (items : List String) : Prop :=
  (∃ e ∈ items, Text.Alike item e)
    ∨ (∃ e ∈ items, ∃ before after : List Char, e.toList = before ++ '"' :: after
      ∧ item.toList.map Char.toLower = after.map Char.toLower)
    ∨ (item = "," ∧ 2 ≤ items.length)

/-! ## The search -/

theorem toLower_eq_iff {c d : Char} (hd : d.toNat < 65) : c.toLower = d ↔ c = d := by
  by_cases hcapital : 65 ≤ c.toNat ∧ c.toNat ≤ 90
  · have hlower := toNat_toLower hcapital
    constructor
    · rintro rfl
      omega
    · rintro rfl
      omega
  · rw [toLower_eq_self hcapital]

theorem takeWhile_of_null_not_mem {cs : List Char} (h : '\x00' ∉ cs) :
    cs.takeWhile (· != '\x00') = cs :=
  List.takeWhile_eq_self_iff.2 fun _ hc => bne_iff_ne.2 fun hnull => h (hnull ▸ hc)

/-- A text without null characters is sought as it is. -/
theorem accepts_anywhere {cs text : List Char} (h : '\x00' ∉ cs) :
    (TextPattern.anywhere (String.ofList cs)).accepts text
      = occursIn (cs.map Char.toLower) (text.map Char.toLower) := by
  simp [TextPattern.anywhere, TextPattern.of, TextPattern.accepts, takeWhile_of_null_not_mem h]

theorem likeChars?_ofStrings (items : List String) :
    (Cell.ofStored (.ofStrings items)).likeChars? = some (listChars (items.map String.toList)) := by
  have hstored : Cell.ofStored (.ofStrings items)
      = .text (String.ofList (listChars (items.map String.toList))) := by
    rw [← writeChars_ofStrings]
    rfl
  rw [hstored, Cell.likeChars?, String.toList_ofList,
    takeWhile_of_null_not_mem (null_not_mem_listChars _)]

theorem exists_rest_iff {e x : List Char} : (∃ p, e.map Char.toLower = p ++ '"' :: x)
    ↔ ∃ before after, e = before ++ '"' :: after ∧ x = after.map Char.toLower := by
  constructor
  · rintro ⟨p, hp⟩
    obtain ⟨before, more, rfl, -, hmore⟩ := List.map_eq_append_iff.1 hp
    obtain ⟨c, after, rfl, hc, rfl⟩ := List.map_eq_cons_iff.1 hmore
    exact ⟨before, after, by rw [(toLower_eq_iff (by decide)).1 hc], rfl⟩
  · rintro ⟨before, after, rfl, rfl⟩
    exact ⟨before.map Char.toLower, by simp⟩

theorem map_toLower_eq_comma {s : String} : s.toList.map Char.toLower = [','] ↔ s = "," := by
  rw [List.map_eq_singleton_iff, ← String.toList_inj]
  constructor
  · rintro ⟨c, hs, hc⟩
    rw [hs, (toLower_eq_iff (by decide)).1 hc]
    rfl
  · exact fun h => ⟨',', h, by decide⟩

/-- What the search for an item finds in a stored list. -/
theorem memberTest_isYes_iff {item : String} {items : List String} :
    ((memberTest item).eval (.ofStored (.ofStrings items))).isYes = true ↔ FoundIn item items := by
  rw [memberTest, CellTest.eval, likeChars?_ofStrings]
  simp only [Truth.isYes_ofBool]
  rw [writeString_eq, accepts_anywhere (null_not_mem_inQuotes _), map_toLower_inQuotes,
    map_toLower_listChars, occursIn_listChars, map_toLower_eq_comma, List.length_map,
    List.length_map, List.map_map]
  simp only [FoundIn, List.mem_map, exists_exists_and_eq_and, Function.comp_apply, exists_rest_iff,
    and_or_left, exists_or, or_assoc, Text.Alike]

theorem not_memberTest_isYes_iff {item : String} {items : List String} :
    ((CellTest.not (memberTest item)).eval (.ofStored (.ofStrings items))).isYes = true
      ↔ ¬ FoundIn item items := by
  have hdecided : (memberTest item).eval (.ofStored (.ofStrings items)) ≠ .unknown :=
    like_decided _ Cell.noConfusion
  rw [CellTest.eval, Truth.isYes_not_of_decided hdecided, Bool.not_eq_true', ← Bool.not_eq_true,
    memberTest_isYes_iff]

/-- An item that is no comma is found among elements without quotes as an element only. -/
theorem foundIn_iff_of_plain {item : String} {items : List String} (hcomma : item ≠ ",")
    (hquote : ∀ e ∈ items, '"' ∉ e.toList) :
    FoundIn item items ↔ ∃ e ∈ items, Text.Alike item e := by
  constructor
  · rintro (h | ⟨e, he, before, after, hsplit, -⟩ | ⟨h, -⟩)
    · exact h
    · exact absurd (hsplit ▸ List.mem_append_right before List.mem_cons_self) (hquote e he)
    · exact absurd h hcomma
  · exact .inl

/-! ## Conditions on lists -/

/-- Whether an operator asks for lists without certain items, and not for lists with one of them. -/
def Operator.asksForNone : Operator → Bool
  | .notEquals | .notContains | .notIn => true
  | _ => false

section Listed

variable {t : ColumnType} {op : Operator} {v : Operand} {st : Storage} {c : Cell}

/-- Every operator that takes an operand asks a list for the items that it names. -/
theorem operatorTest_listed (hlisted : st.listed = true)
    (hfamily : t.family = .assignee ∨ t.family = .labels) (hmem : op ∈ t.operators)
    (hop : op.testsEmptiness = false) (hv : v.Formed t op) : (operatorTest st op v).eval c
      = if op.asksForNone then (CellTest.allOf (v.texts.map fun x => .not (memberTest x))).eval c
        else (CellTest.anyOf (v.texts.map memberTest)).eval c := by
  have hone (a : Truth) : a = a.or .no ∧ a.not = a.not.and .yes := by
    cases a <;> exact ⟨rfl, rfl⟩
  rw [ColumnType.operators] at hmem
  cases hv with
  | absent h => exact absurd (h.symm.trans hop) (by decide)
  | whole ht | part ht | number ht | choice ht | choices ht | checked ht => simp [ht] at hfamily
  | day ht | second ht =>
    subst ht
    exact absurd hfamily (by decide)
  | @user s ht _ hlist =>
    rw [ht] at hmem
    have hequals : (operatorTest st .equals (.text s)).eval c = (memberTest s).eval c := by
      rw [operatorTest_equals_text, Storage.equalTest, if_pos hlisted]
    have hnot : (operatorTest st .notEquals (.text s)).eval c = ((memberTest s).eval c).not := by
      rw [operatorTest_complement (.whole (.inl rfl)) rfl, hequals]
    cases op <;> simp [Family.operators, Operator.testsEmptiness,
        Operator.takesList] at hmem hop hlist
    · rw [hequals]
      exact (hone _).1
    · rw [hnot]
      exact (hone _).2
  | @users items ht _ hlist =>
    cases op <;> simp [Operator.takesList] at hlist
    · rw [operatorTest, if_pos hlisted]
      rfl
    · rw [operatorTest, if_pos hlisted]
      rfl
  | @labels items ht =>
    rw [ht] at hmem
    cases op <;> simp [Family.operators, Operator.testsEmptiness] at hmem hop
    · rfl
    · rfl

end Listed

section Selected

variable {s : Store} {schema : BoardSchema} {ctx : BuildContext} {path : String} {fields : Fields}
  {l : Leaf String Operand} {c : BoardColumn}

/-- Conditions on a column that holds lists, where no row holds anything else but null: they select
the tasks whose list has one of the items that the operand names, or none of them. -/
theorem listed_selects (hs : s.UniqueRows)
    (hbuilt : FilterBuilder.buildLeaf ctx path fields = .ok l)
    (hresolve : resolve (some schema) l.column = some (.column c l.columnType))
    (hlisted : l.columnType = .labels
      ∨ l.columnType = .assignee ∧ Options.flag (c.effectiveOptions .assignee) "multiple" = true)
    (hop : l.operator.testsEmptiness = false)
    (hstored : ∀ row ∈ s.values, row.columnId = c.id →
      row.value = .null ∨ ∃ items, row.value = .ofStrings items)
    (archived : Bool) (t : Task) :
    t ∈ selectTasks s schema archived (Selection.ofLeaf schema l).condition
      ↔ t ∈ s.tasks ∧ inScope schema archived t = true
        ∧ ∃ items, s.value? t.id c.id = some (.ofStrings items)
          ∧ if l.operator.asksForNone then ∀ x ∈ l.operand.texts, ¬ FoundIn x items
            else ∃ x ∈ l.operand.texts, FoundIn x items := by
  obtain ⟨hwell, -⟩ := buildLeaf_sound hbuilt
  have hkeeps : (Storage.ofColumn l.columnType (c.effectiveOptions l.columnType)).listed
      = true := by
    rcases hlisted with h | ⟨h, hmultiple⟩
    · simp [Storage.ofColumn, h]
    · simp [Storage.ofColumn, h, hmultiple]
  have hfamily : l.columnType.family = .assignee ∨ l.columnType.family = .labels := by
    rcases hlisted with h | ⟨h, -⟩
    · exact .inr (h ▸ rfl)
    · exact .inl (h ▸ rfl)
  rw [mem_selectTasks_ofLeaf hs hresolve rfl (hwell.operand.goesWith hwell.operator)]
  refine and_congr_right fun _ => and_congr_right fun _ => ?_
  have hnull : ((operatorTest (Storage.ofColumn l.columnType (c.effectiveOptions l.columnType))
      l.operator l.operand).eval .null).isYes = false := by
    rw [operatorTest_null (hwell.operand.goesWith hwell.operator) hop]
    rfl
  rw [Resolved.storage, Resolved.cell]
  cases hvalue : s.value? t.id c.id with
  | none => simp [Cell.ofStored, hnull]
  | some w =>
    obtain ⟨row, hrow, -, hcolumn, rfl⟩ := Store.exists_row hvalue
    rw [Option.getD_some]
    rcases hstored row hrow hcolumn with h | ⟨items, h⟩
    · simp [h, Cell.ofStored, hnull, Json.ofStrings]
    · rw [h, operatorTest_listed hkeeps hfamily hwell.operator hop hwell.operand]
      simp only [Option.some.injEq, ofStrings_injective.eq_iff, exists_eq_left']
      split_ifs
      · simp [CellTest.isYes_allOf, not_memberTest_isYes_iff]
      · simp [CellTest.isYes_anyOf, memberTest_isYes_iff]

end Selected

section Example

/-- Tasks with tags: one with a quote in its tag, one with two tags, and one without a row. -/
def tagged : Store :=
  Sample.store (Sample.column "tags" .labels []) [Sample.task "t", Sample.task "u", Sample.task "v"]
    [("t", .ofStrings ["a\"b"]), ("u", .ofStrings ["B", "c"])]

def taggedSchema : BoardSchema :=
  ⟨Sample.board.id, Sample.board.workspaceId, [Sample.column "tags" .labels []]⟩

/-- The condition that the tags of a task hold an item. -/
def tagCondition (item : String) : Leaf String Operand :=
  ⟨"tags", .labels, .contains, .several [item], .all⟩

def tagFields (item : String) : Fields :=
  [("column", .str "tags"), ("column_type", .str "labels"), ("operator", .str "contains"),
    ("value", .str item)]

theorem resolve_tags :
    resolve (some taggedSchema) "tags" = some (.column (Sample.column "tags" .labels []) .labels) :=
  rfl

theorem buildLeaf_tagFields {item : String} (h : trimmedDistinct [item] = [item]) :
    FilterBuilder.buildLeaf ⟨⟨Moment.first, none⟩, resolve (some taggedSchema), false⟩ "filters.0"
      (tagFields item) = .ok (tagCondition item) := by
  have hoperand : labelsOperand (.str item) = .ok (.several [item]) :=
    labelsOperand_eq_ok.2 ⟨[item], rfl, by simp [h], by rw [h]⟩
  have hadopted : Adopted ⟨⟨Moment.first, none⟩, resolve (some taggedSchema), false⟩ "tags" .labels
      .labels (Resolved.column (Sample.column "tags" .labels []) .labels).options :=
    .known (r := .column (Sample.column "tags" .labels []) .labels) resolve_tags rfl
  have hhead : FilterBuilder.readHead "filters.0" (tagFields item)
      = .ok ⟨"tags", .labels, .str "contains", .all⟩ := rfl
  have hread : FilterBuilder.readOperandAt ⟨Moment.first, none⟩ "filters.0.value" .labels .contains
      (Resolved.column (Sample.column "tags" .labels []) .labels).options (.str item)
        = .ok (.several [item]) := readOperandAt_eq_ok.2 ⟨rfl, hoperand⟩
  exact buildLeaf_eq_ok.2 ⟨_, .labels, _, hhead, rfl, hadopted, hread, rfl, rfl, rfl⟩

/-- The tag is found in either letter case, and not where there is no row. -/
theorem listed_selects_b :
    Sample.task "u" ∈ selectTasks tagged taggedSchema false
        (Selection.ofLeaf taggedSchema (tagCondition "b")).condition
      ∧ Sample.task "v" ∉ selectTasks tagged taggedSchema false
        (Selection.ofLeaf taggedSchema (tagCondition "b")).condition := by
  have hbuilt := @buildLeaf_tagFields "b" (by decide)
  have hselects := @listed_selects tagged taggedSchema _ _ _ _ _ (by decide) hbuilt resolve_tags
    (.inl rfl) rfl (by simp [tagged, Sample.store]) false
  constructor
  · refine (hselects _).2 ⟨by decide, by decide, ["B", "c"], rfl, "b", List.mem_singleton_self _,
      ?_⟩
    exact .inl ⟨"B", by decide, by decide⟩
  · rintro hmem
    obtain ⟨-, -, items, hitems, -⟩ := (hselects _).1 hmem
    exact absurd hitems (by simp [tagged, Sample.store, Store.value?, Sample.task])

/-- A tag is also found as the rest of another after a quote, and a comma among any two tags. -/
theorem listed_selects_no_element :
    Sample.task "t" ∈ selectTasks tagged taggedSchema false
        (Selection.ofLeaf taggedSchema (tagCondition "b")).condition
      ∧ tagged.value? "t" "tags" = some (.ofStrings ["a\"b"])
      ∧ ¬ (∃ e ∈ ["a\"b"], Text.Alike "b" e)
      ∧ Sample.task "u" ∈ selectTasks tagged taggedSchema false
        (Selection.ofLeaf taggedSchema (tagCondition ",")).condition
      ∧ tagged.value? "u" "tags" = some (.ofStrings ["B", "c"])
      ∧ ¬ (∃ e ∈ ["B", "c"], Text.Alike "," e) := by
  refine ⟨?_, rfl, by decide, ?_, rfl, by decide⟩
  · decide
  · decide

end Example

end BoardQuery
