import BoardQuery.Proofs.Query.CursorTexts
import BoardQuery.Proofs.Value.Distinct
import BoardQuery.Query.Parameters

/-!
# What parameters state

A parameter of a request may be any value. What a value states, as a count, a flag, a text, a
direction or a list, is a relation, and the reader of each kind of parameter finds exactly what is
stated. Anything else it tells off, under the name of the parameter, but for an infinite count: that
has no integer, and ends the reading in a fault (`readCount_eq_error`).
-/

namespace BoardQuery

namespace Json

/-- The count that a value states, a fraction cut off. Null and the empty text state none. -/
inductive StatesCount : Json → Option Int → Prop
  | null : StatesCount .null none
  | empty : StatesCount (.str "") none
  | int (n : Int) : StatesCount (.int n) (some n)
  | num {x : Binary64} {n : Int} (h : x.truncate? = some n) : StatesCount (.num x) (some n)
  | text {s : String} {n : Int} (h : readInteger s = .ok n) : StatesCount (.str s) (some n)

/-- The flag that a value states. Null and the empty text state that it is down. -/
inductive StatesFlag : Json → Bool → Prop
  | null : StatesFlag .null false
  | empty : StatesFlag (.str "") false
  | stated {v : Json} {b : Bool} (h : v.toBool? = some b) : StatesFlag v b

/-- The text that a value states. What is falsy states none. -/
inductive StatesText : Json → Option String → Prop
  | leftOut {v : Json} (h : v.truthy = false) : StatesText v none
  | text {s : String} (h : s ≠ "") : StatesText (.str s) (some s)

/-- Whether a value states that an order descends, in any letter case. What is falsy states that it
ascends. -/
inductive StatesDirection : Json → Bool → Prop
  | leftOut {v : Json} (h : v.truthy = false) : StatesDirection v false
  | ascending {s : String} (h : String.ofList (s.toList.map Char.toLower) = "asc") :
    StatesDirection (.str s) false
  | descending {s : String} (h : String.ofList (s.toList.map Char.toLower) = "desc") :
    StatesDirection (.str s) true

/-- The items that a value lists, in an array or between the commas of a text. -/
inductive ListsItems : Json → List Json → Prop
  | null : ListsItems .null []
  | text (s : String) : ListsItems (.str s) ((TaskQuery.commaParts s).map .str)
  | array (items : List Json) : ListsItems (.arr items) items

end Json

namespace TaskQuery

/-- What a request states to be told, under either of two names. -/
def statedInclusions (ps : Fields) : Json :=
  if (Fields.get ps "include").isNull then Fields.get ps "include[]" else Fields.get ps "include"

/-- Whether inclusions are those that a value lists, each once, in the order of their first places.
-/
def Lists (v : Json) (xs : List Inclusion) : Prop :=
  ∃ items : List Inclusion, v.ListsItems (items.map fun i => .str i.name) ∧ FirstSeen items xs

end TaskQuery

/-- Whether what is read is told off under a certain name, if at all. -/
def Checked.Blames {α : Type} (name : String) (r : Checked α) : Prop :=
  ∀ es, r = .invalid es → ∃ p ps, es = [⟨name, p :: ps⟩]

section

variable {α : Type} {name : String}

theorem Checked.blames_valid (v : α) : Blames name (.valid v : Checked α) := by
  simp [Blames]

theorem Checked.blames_reject (p : ParameterProblem) :
    Blames name (TaskQuery.reject name p : Checked α) := by
  rintro es ⟨⟩
  exact ⟨p, [], rfl⟩

end

/-! ## What values state -/

namespace Json

variable {v : Json}

theorem orElse_null_eq_null : v.orElse .null = .null ↔ v.truthy = false := by
  rw [Json.orElse]
  split_ifs with h
  · refine iff_of_false ?_ (by simp [h])
    rintro rfl
    cases h
  · simpa using h

theorem orElse_null_of_truthy (h : v.truthy = true) : v.orElse .null = v :=
  if_pos h

theorem truthy_str {s : String} : (Json.str s).truthy = true ↔ s ≠ "" :=
  bne_iff_ne

theorem StatesText.eq_none {c : Option String} (h : v.StatesText c) (hfalsy : v.truthy = false) :
    c = none := by
  cases h with
  | leftOut => rfl
  | text hs => exact absurd (truthy_str.2 hs) (by simp [hfalsy])

theorem StatesText.exists_str {c : Option String} (h : v.StatesText c) (htruthy : v.truthy = true) :
    ∃ s, v = .str s ∧ c = some s := by
  cases h with
  | leftOut hfalsy => exact absurd htruthy (by simp [hfalsy])
  | text => exact ⟨_, rfl, rfl⟩

theorem isLeftOut_iff : TaskQuery.isLeftOut v = true ↔ v = .null ∨ v = .str "" := by
  cases v <;> simp [TaskQuery.isLeftOut, isNull, str?]

theorem statesCount_none : v.StatesCount none ↔ TaskQuery.isLeftOut v = true := by
  rw [isLeftOut_iff]
  constructor
  · rintro (_ | _)
    · exact .inl rfl
    · exact .inr rfl
  · rintro (rfl | rfl)
    · exact .null
    · exact .empty

theorem statesCount_some {n : Int} :
    v.StatesCount (some n) ↔ v.toInteger = .ok n ∧ ∀ b, v ≠ .bool b := by
  constructor
  · intro h
    cases h with
    | int => exact ⟨rfl, by simp⟩
    | @num x _ h =>
      refine ⟨?_, by simp⟩
      rcases x with _ | _
      · cases h
      · simp only [toInteger, h]
    | text h => exact ⟨by simp only [toInteger, h], by simp⟩
  · rintro ⟨h, hbool⟩
    cases v with
    | null | arr | obj => cases h
    | bool b => exact absurd rfl (hbool b)
    | int m =>
      obtain rfl := Except.ok.inj h
      exact .int m
    | num x =>
      rcases x with _ | _
      · cases h
      · simp only [toInteger] at h
        split at h
        · rename_i htruncate
          obtain rfl := Except.ok.inj h
          exact .num htruncate
        · cases h
    | str s =>
      simp only [toInteger] at h
      split at h
      · rename_i hread
        obtain rfl := Except.ok.inj h
        exact .text hread
      · cases h
      · cases h

end Json

theorem Inclusion.ofJson?_eq_some {v : Json} {i : Inclusion} :
    ofJson? v = some i ↔ v = .str i.name := by
  constructor
  · intro h
    cases v with
    | str s =>
      have hname := List.find?_some h
      rw [beq_iff_eq] at hname
      rw [hname]
    | _ => cases h
  · rintro rfl
    cases i <;> decide

/-! ## Readers -/

namespace TaskQuery

open Checked

variable {ps : Fields} {name : String}

theorem readFlag_eq_valid {b : Bool} :
    readFlag ps name = .valid b ↔ (Fields.get ps name).StatesFlag b := by
  simp only [readFlag]
  generalize Fields.get ps name = v
  constructor
  · intro h
    split_ifs at h with hout
    · obtain rfl := Validated.valid.inj h
      rcases Json.isLeftOut_iff.1 hout with rfl | rfl
      · exact .null
      · exact .empty
    · split at h
      · rename_i c hc
        obtain rfl := Validated.valid.inj h
        exact .stated hc
      · cases h
  · intro h
    cases h with
    | null => rfl
    | empty => rfl
    | stated h =>
      have hout : ¬ isLeftOut v = true := by
        rw [Json.isLeftOut_iff]
        rintro (rfl | rfl) <;> cases h
      rw [if_neg hout, h]

theorem readFlag_blames : (readFlag ps name).Blames name := by
  simp only [readFlag]
  split_ifs
  · exact blames_valid _
  · split
    · exact blames_valid _
    · exact blames_reject _

theorem readName_eq_valid {accepts : String → Bool} {p : ParameterProblem} {c : Option String} :
    readName ps name accepts p = .valid c
      ↔ (Fields.get ps name).StatesText c ∧ ∀ s ∈ c, accepts s = true := by
  unfold readName
  generalize Fields.get ps name = v
  rcases htruthy : v.truthy with _ | _
  · rw [Json.orElse_null_eq_null.2 htruthy]
    constructor
    · rintro ⟨⟩
      exact ⟨.leftOut htruthy, by simp⟩
    · rintro ⟨hc, -⟩
      rw [hc.eq_none htruthy]
  · rw [Json.orElse_null_of_truthy htruthy]
    constructor
    · intro h
      split at h
      · cases htruthy
      · split_ifs at h with haccepts
        · obtain rfl := Validated.valid.inj h
          exact ⟨.text (Json.truthy_str.1 htruthy), by simpa using haccepts⟩
        · cases h
      · cases h
    · rintro ⟨hc, haccepts⟩
      obtain ⟨s, rfl, rfl⟩ := hc.exists_str htruthy
      simp [haccepts s rfl]

theorem readName_blames {accepts : String → Bool} {p : ParameterProblem} :
    (readName ps name accepts p).Blames name := by
  unfold readName
  split
  · exact blames_valid _
  · split_ifs
    · exact blames_valid _
    · exact blames_reject _
  · exact blames_reject _

theorem readDirection_eq_valid {b : Bool} :
    readDirection ps = .valid b ↔ (Fields.get ps "sort_order").StatesDirection b := by
  unfold readDirection
  generalize Fields.get ps "sort_order" = v
  have hasc : String.ofList ("asc".toList.map Char.toLower) = "asc" := by decide
  rcases htruthy : v.truthy with _ | _
  · rw [Json.orElse, htruthy, if_neg Bool.false_ne_true]
    simp only [Json.str?, Option.map_some, hasc]
    constructor
    · rintro ⟨⟩
      exact .leftOut htruthy
    · intro h
      cases h with
      | leftOut => rfl
      | ascending => rfl
      | descending h =>
        obtain rfl := not_not.1 (Json.truthy_str.not.1 (Bool.not_eq_true _ ▸ htruthy))
        exact absurd h (by decide)
  · rw [Json.orElse, if_pos htruthy]
    cases v with
    | str s =>
      simp only [Json.str?, Option.map_some]
      constructor
      · intro h
        split at h
        · rename_i heq
          obtain rfl := Validated.valid.inj h
          exact .ascending (Option.some.inj heq)
        · rename_i heq
          obtain rfl := Validated.valid.inj h
          exact .descending (Option.some.inj heq)
        · cases h
      · intro h
        cases h with
        | leftOut h => simp [htruthy] at h
        | ascending h => simp [h]
        | descending h => simp [h]
    | _ =>
      refine iff_of_false (by simp [Json.str?, reject]) fun h => ?_
      cases h with
      | leftOut h => simp [htruthy] at h

theorem readDirection_blames : (readDirection ps).Blames "sort_order" := by
  unfold readDirection
  split
  · exact blames_valid _
  · exact blames_valid _
  · exact blames_reject _

/-- The readings of items that are all known. -/
theorem eq_map_of_filter_eq_nil {items : List Json}
    (h : (items.filter fun v => (Inclusion.ofJson? v).isNone) = []) :
    items = (items.filterMap Inclusion.ofJson?).map fun i => .str i.name := by
  induction items with
  | nil => rfl
  | cons v items ih =>
    rcases hv : Inclusion.ofJson? v with _ | i
    · simp [hv] at h
    · rw [List.filterMap_cons_some hv, List.map_cons, ← Inclusion.ofJson?_eq_some.1 hv]
      congr 1
      refine ih ?_
      simpa [List.filter_cons, hv] using h

theorem filterMap_ofJson? (is : List Inclusion) :
    (is.map fun i => Json.str i.name).filterMap Inclusion.ofJson? = is := by
  rw [List.filterMap_map]
  refine Eq.trans (List.filterMap_congr fun i _ => ?_) List.filterMap_some
  exact Inclusion.ofJson?_eq_some.2 rfl

theorem filter_ofJson? (is : List Inclusion) :
    ((is.map fun i => Json.str i.name).filter fun v => (Inclusion.ofJson? v).isNone) = [] := by
  refine List.filter_eq_nil_iff.2 fun v hv => ?_
  obtain ⟨i, -, rfl⟩ := List.mem_map.1 hv
  simp [Inclusion.ofJson?_eq_some.2 rfl]

/-- Items that are checked one by one, and told off together. -/
theorem checked_eq_valid {items : List Json} {xs : List Inclusion} :
    (match items.filter fun v => (Inclusion.ofJson? v).isNone with
      | [] => .valid (distinct (items.filterMap Inclusion.ofJson?))
      | unknown => .invalid [⟨"include", unknown.map .unknownInclude⟩] : Checked (List Inclusion))
        = .valid xs
      ↔ ∃ is : List Inclusion, items = is.map (fun i => .str i.name) ∧ FirstSeen is xs := by
  constructor
  · intro h
    split at h
    · rename_i hnil
      obtain rfl := Validated.valid.inj h
      exact ⟨_, eq_map_of_filter_eq_nil hnil, firstSeen_distinct _⟩
    · cases h
  · rintro ⟨is, rfl, hxs⟩
    rw [filter_ofJson?, filterMap_ofJson?, hxs.eq_distinct]

theorem readInclusions_eq_valid {xs : List Inclusion} :
    readInclusions ps = .valid xs ↔ Lists (statedInclusions ps) xs := by
  have hlisted {v : Json} {items : List Json} (h : ∀ items', v.ListsItems items' ↔ items' = items) :
      Lists v xs ↔ ∃ is : List Inclusion, items = is.map (fun i => .str i.name)
        ∧ FirstSeen is xs := by
    simp only [Lists, h, eq_comm]
  simp only [readInclusions, ← statedInclusions.eq_def]
  rcases statedInclusions ps with _ | b | n | x | s | items | fields
  case null =>
    rw [hlisted fun items' => ⟨by rintro ⟨⟩; rfl, by rintro rfl; exact .null⟩, ← checked_eq_valid]
    rfl
  case str =>
    rw [hlisted fun items' => ⟨by rintro ⟨⟩; rfl, by rintro rfl; exact .text s⟩]
    exact checked_eq_valid
  case arr =>
    rw [hlisted fun items' => ⟨by rintro ⟨⟩; rfl, by rintro rfl; exact .array _⟩]
    exact checked_eq_valid
  all_goals
    refine iff_of_false (by simp [reject]) ?_
    rintro ⟨is, hitems, -⟩
    cases hitems

theorem readInclusions_blames : (readInclusions ps).Blames "include" := by
  have hlist (items : List Json) : Blames "include"
      (match items.filter fun v => (Inclusion.ofJson? v).isNone with
      | [] => Validated.valid (distinct (items.filterMap Inclusion.ofJson?))
      | unknown => .invalid [⟨"include", unknown.map .unknownInclude⟩]) := by
    split
    · exact blames_valid _
    · rename_i unknown hunknown
      rintro es ⟨⟩
      obtain ⟨v, vs, hv⟩ := List.exists_cons_of_ne_nil hunknown
      exact ⟨_, _, by rw [hv]; rfl⟩
  simp only [readInclusions]
  split
  · exact blames_valid _
  · exact hlist _
  · exact hlist _
  · exact blames_reject _

/-- Only an infinite count breaks the reading off. -/
theorem readCount_eq_error {most : Option Int} {f : Fault} :
    readCount ps name most = .error f
      ↔ f = .outOfRange ∧ ∃ negative, Fields.get ps name = .num (.infinity negative) := by
  simp only [readCount]
  generalize Fields.get ps name = v
  rw [← Json.toInteger_eq_outOfRange]
  constructor
  · intro h
    split_ifs at h
    split at h
    · cases h
    · cases h
    · cases h
    · cases h
    · rename_i f' hunreadable hshape _ _ hf
      obtain rfl := Except.error.inj h
      rcases Json.toInteger_eq_error hf with hcursor | rfl
      · cases f' with
        | unreadable why => exact (hunreadable why rfl).elim
        | wrongShape => exact (hshape rfl).elim
        | _ => cases hcursor
      · exact ⟨rfl, hf⟩
  · rintro ⟨rfl, h⟩
    obtain ⟨negative, rfl⟩ := Json.toInteger_eq_outOfRange.1 h
    simp [isLeftOut, Json.isNull, Json.str?, h]

theorem readCount_eq_valid {most : Option Int} {c : Option Int} :
    readCount ps name most = .ok (.valid c)
      ↔ (Fields.get ps name).StatesCount c ∧ ∀ n ∈ c, 1 ≤ n ∧ ∀ m ∈ most, n ≤ m := by
  simp only [readCount]
  generalize Fields.get ps name = v
  rcases hout : isLeftOut v with _ | _
  · rw [if_neg Bool.false_ne_true]
    constructor
    · intro h
      split at h
      · cases h
      · rename_i n hbool hn
        have hstates := Json.statesCount_some.2 ⟨hn, hbool⟩
        rcases most with _ | m <;> simp only at h <;> split_ifs at h with hbound
        · obtain rfl := Validated.valid.inj (Except.ok.inj h)
          exact ⟨hstates, by simpa using hbound⟩
        · cases h
        · obtain rfl := Validated.valid.inj (Except.ok.inj h)
          exact ⟨hstates, by simpa using hbound⟩
        · cases h
      · cases h
      · cases h
      · cases h
    · rintro ⟨hstates, hbound⟩
      rcases c with _ | n
      · exact absurd (Json.statesCount_none.1 hstates) (by simp [hout])
      · obtain ⟨hn, hbool⟩ := Json.statesCount_some.1 hstates
        have hwithin := hbound n rfl
        rw [hn]
        cases v with
        | bool b => exact absurd rfl (hbool b)
        | _ => cases most <;> simp_all
  · rw [if_pos rfl]
    constructor
    · rintro ⟨⟩
      exact ⟨Json.statesCount_none.2 hout, by simp⟩
    · rintro ⟨hstates, -⟩
      rcases c with _ | n
      · rfl
      · have hn := (Json.statesCount_some.1 hstates).1
        rcases Json.isLeftOut_iff.1 hout with rfl | rfl <;> cases hn

theorem readCount_blames {most : Option Int} {r : Checked (Option Int)}
    (h : readCount ps name most = .ok r) : r.Blames name := by
  simp only [readCount] at h
  split_ifs at h
  · obtain rfl := Except.ok.inj h
    exact blames_valid _
  · split at h
    · obtain rfl := Except.ok.inj h
      exact blames_reject _
    · obtain rfl := Except.ok.inj h
      split
      · split_ifs
        · exact blames_valid _
        · exact blames_reject _
      · split_ifs
        · exact blames_valid _
        · exact blames_reject _
    · obtain rfl := Except.ok.inj h
      exact blames_reject _
    · obtain rfl := Except.ok.inj h
      exact blames_reject _
    · cases h

end TaskQuery

end BoardQuery
