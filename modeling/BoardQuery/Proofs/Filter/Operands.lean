import BoardQuery.Filter.Builder
import BoardQuery.Proofs.Value.FixedPoint

/-!
# Canonical operands

The operands that reading accepts, in two halves: a form that type and operator fix
(`Operand.Formed`), and what the options of the column and the users that exist allow
(`Operand.Allowed`). Reading yields such operands only, and the written form of an operand of this
form is read as the operand itself exactly if it is allowed (`readOperandAt_toJson`).
-/

namespace BoardQuery

open Text

/-- The form of the operands of an operator on a type. -/
inductive Operand.Formed (t : ColumnType) (op : Operator) : Operand → Prop
  | absent (hop : op.testsEmptiness = true) : Formed t op .absent
  | whole {s : String} (ht : t.family = .text) (hop : op = .equals ∨ op = .notEquals)
    (htrim : trim s = s) (hlength : s.length ≤ maxEqualText) : Formed t op (.text s)
  | part {s : String} (ht : t.family = .text) (hop : op.testsEmptiness = false)
    (hpart : op ≠ .equals ∧ op ≠ .notEquals) (hs : s ≠ "") : Formed t op (.text s)
  | number {x : Binary64} (ht : t.family = .numeric) (hop : op.testsEmptiness = false)
    (hx : x.isFinite = true) : Formed t op (.number x)
  | day {d : Date} (ht : t = .date) (hop : op.testsEmptiness = false)
    (hd : dateWithinBounds (Moment.midnight d) = true) : Formed t op (.day d)
  | second {m : Moment} (ht : t = .datetime) (hop : op.testsEmptiness = false)
    (hwhole : m.wholeSecond = m) (hm : dateWithinBounds m = true) : Formed t op (.second m)
  | choice {s : String} (ht : t.family = .enumerated) (hop : op.testsEmptiness = false)
    (hlist : op.takesList = false) : Formed t op (.text s)
  | choices {items : List String} (ht : t.family = .enumerated) (hop : op.testsEmptiness = false)
    (hlist : op.takesList = true) (hne : items ≠ []) (hnodup : items.Nodup)
    (hlength : items.length ≤ maxChoices t) : Formed t op (.several items)
  | user {s : String} (ht : t.family = .assignee) (hop : op.testsEmptiness = false)
    (hlist : op.takesList = false) (htrim : trim s = s) (hs : s ≠ "") : Formed t op (.text s)
  | users {items : List String} (ht : t.family = .assignee) (hop : op.testsEmptiness = false)
    (hlist : op.takesList = true) (hne : items ≠ []) (hnodup : items.Nodup)
    (hitems : ∀ s ∈ items, trim s = s ∧ s ≠ "") (hlength : items.length ≤ maxUsers) :
    Formed t op (.several items)
  | labels {items : List String} (ht : t.family = .labels) (hop : op.testsEmptiness = false)
    (hne : items ≠ []) (hitems : trimmedDistinct items = items) : Formed t op (.several items)
  | checked {b : Bool} (ht : t.family = .checkbox) (hop : op.testsEmptiness = false) :
    Formed t op (.checked b)

/-- The texts that an operand names. -/
def Operand.texts : Operand → List String
  | .text s => [s]
  | .several items => items
  | _ => []

/-- Whether the options of a column and the users that exist allow an operand. -/
structure Operand.Allowed (env : Surroundings) (t : ColumnType) (o : Options) (v : Operand) :
    Prop where
  choices : t.family = .enumerated → ∀ s ∈ v.texts, ∃ cs, Options.choices o = .ok cs ∧ s ∈ cs
  users : t.family = .assignee → ∀ s ∈ v.texts, env.userExists.all (· s) = true
  bounds : ∀ x, v = .number x → boundBroken (Fields.get o "min") x.lt = .ok false
    ∧ boundBroken (Fields.get o "max") (·.lt x) = .ok false

open FilterBuilder

section Families

variable {env : Surroundings} {t : ColumnType} {op : Operator} {o : Options} {raw : Json}
  {v w : Operand} {path : String}

@[simp]
theorem complain_ne_ok {p : OperandProblem} : complain p ≠ .ok v := by
  simp [complain]

theorem ite_complain_eq_ok {b : Prop} [Decidable b] {p : OperandProblem} {x : OperandResult} :
    (if b then complain p else x) = .ok v ↔ ¬ b ∧ x = .ok v :=
  ite_error_eq_ok

/-- A check that fails otherwise. -/
theorem ite_else_error_eq_ok {ε α : Type} {b : Prop} [Decidable b] {e : ε}
    {x : Except ε α} {a : α} :
    (if b then x else .error e) = .ok a ↔ b ∧ x = .ok a := by
  split_ifs with h <;> simp [h]

theorem itemComplaints_eq_nil {items : List Json} {refuse : Json → Option OperandProblem} :
    itemComplaints items refuse = [] ↔ ∀ v ∈ items, refuse v = none := by
  simp only [itemComplaints, List.filterMap_eq_nil_iff, Option.map_eq_none_iff]
  constructor
  · intro h v hv
    obtain ⟨i, hi, rfl⟩ := List.mem_iff_getElem.1 hv
    exact h (items[i], i) (List.mk_mem_zipIdx_iff_getElem?.2 (List.getElem?_eq_getElem hi))
  · intro h p hp
    exact h _ (List.fst_mem_of_mem_zipIdx hp)

theorem textOperand_eq_ok : textOperand op raw = .ok v ↔ ∃ s, raw = .str s ∧
    if op = .equals ∨ op = .notEquals then (trim s).length ≤ maxEqualText ∧ v = .text (trim s)
    else s ≠ "" ∧ v = .text s := by
  cases raw with
  | str s =>
    simp only [textOperand, Bool.or_eq_true, beq_iff_eq, Json.str.injEq, exists_eq_left']
    by_cases hop : op = .equals ∨ op = .notEquals
    · rw [if_pos hop, if_pos hop, ite_complain_eq_ok, Nat.not_lt, Except.ok.injEq, eq_comm (a := v)]
    · rw [if_neg hop, if_neg hop, ite_complain_eq_ok, Except.ok.injEq, eq_comm (a := v)]
  | _ => simp [textOperand]

theorem numberOperand_eq_ok : numberOperand o raw = .ok v ↔ ∃ x, raw.toNumber? = .ok (some x) ∧
    v = .number x ∧ boundBroken (Fields.get o "min") x.lt = .ok false
      ∧ boundBroken (Fields.get o "max") (·.lt x) = .ok false := by
  simp only [numberOperand, bind_eq_ok, mapError_eq_ok]
  constructor
  · rintro ⟨read, hread, h⟩
    cases read with
    | none => exact absurd h complain_ne_ok
    | some x =>
      simp only [bind_eq_ok, mapError_eq_ok] at h
      obtain ⟨below, hbelow, h⟩ := h
      rw [ite_complain_eq_ok] at h
      obtain ⟨hnot, h⟩ := h
      simp only [bind_eq_ok, mapError_eq_ok] at h
      obtain ⟨above, habove, h⟩ := h
      rw [ite_complain_eq_ok, pure_eq_ok] at h
      obtain ⟨hnot', rfl⟩ := h
      rw [Bool.not_eq_true] at hnot hnot'
      exact ⟨x, hread, rfl, hnot ▸ hbelow, hnot' ▸ habove⟩
  · rintro ⟨x, hread, rfl, hlow, hhigh⟩
    exact ⟨some x, hread, by simp [hlow, hhigh, Except.mapError]⟩

theorem dateOperand_eq_ok : dateOperand env.now t raw = .ok v ↔ ∃ m,
    raw.toMoment? env.now = .ok (some m) ∧ dateWithinBounds m = true
      ∧ v = if t = .date then .day m.date else .second m.wholeSecond := by
  simp only [dateOperand, bind_eq_ok, mapError_eq_ok, beq_iff_eq]
  constructor
  · rintro ⟨read, hread, h⟩
    cases read with
    | none => exact absurd h complain_ne_ok
    | some m =>
      simp only [ite_complain_eq_ok] at h
      obtain ⟨hbounds, h⟩ := h
      refine ⟨m, hread, by simpa using hbounds, ?_⟩
      split_ifs at h ⊢
      · exact (Except.ok.inj h).symm
      · exact (Except.ok.inj h).symm
  · rintro ⟨m, hread, hbounds, rfl⟩
    refine ⟨some m, hread, ?_⟩
    simp only [hbounds, ite_complain_eq_ok]
    exact ⟨by simp, by split_ifs <;> rfl⟩

theorem userId?_eq_some {s : String} :
    userId? raw = some s ↔ s ≠ "" ∧ ∃ u, raw = .str u ∧ trim u = s := by
  cases raw <;> simp [userId?, Json.str?, Option.filter_eq_some_iff, and_comm]

theorem refuseChoice_eq_none {choices : List String} {item : Json} {p : OperandProblem} :
    (if item.str?.any choices.contains then none else some p) = none
      ↔ ∃ s ∈ choices, item = .str s := by
  cases item <;> simp [Json.str?]

/-- An enumerated operand is one of the choices, or a list of some of them. -/
theorem choiceOperand_eq_ok : choiceOperand t op o raw = .ok v ↔
    ∃ choices, Options.choices o = .ok choices ∧
      if op.takesList then ∃ items, raw.elements = .ok items ∧ items.length ≤ maxChoices t
          ∧ (∀ item ∈ items, ∃ s ∈ choices, item = .str s)
          ∧ v = .several (distinct (items.filterMap Json.str?))
      else ∃ s ∈ choices, raw = .str s ∧ v = .text s := by
  simp only [choiceOperand, bind_eq_ok, mapError_eq_ok]
  refine exists_congr fun choices => and_congr_right fun _ => ?_
  cases op.takesList with
  | true =>
    simp only [if_true, bind_eq_ok, mapError_eq_ok]
    refine exists_congr fun items => and_congr_right fun _ => ?_
    rw [ite_complain_eq_ok, Nat.not_lt]
    refine and_congr_right fun _ => ?_
    split
    · rename_i hnil
      simp only [itemComplaints_eq_nil, refuseChoice_eq_none] at hnil
      rw [pure_eq_ok, and_iff_right hnil, eq_comm]
    · rename_i hne
      simp only [itemComplaints_eq_nil, refuseChoice_eq_none] at hne
      simp only [reduceCtorEq, false_iff]
      exact fun h => hne h.1
  | false =>
    simp only [Bool.false_eq_true, if_false]
    cases raw with
    | str s =>
      by_cases hs : s ∈ choices
      · simp [Json.str?, hs, eq_comm (a := v)]
      · simp [Json.str?, hs]
    | _ => simp [Json.str?]

theorem refuseUser_eq_none {item : Json} :
    (if (userId? item).isSome then none else some OperandProblem.notUser) = none
      ↔ ∃ s, userId? item = some s := by
  simp [Option.isSome_iff_exists]

theorem refuseStranger_eq_none {known : String → Bool} {item : Json} :
    ((userId? item).filter (!known ·)).map OperandProblem.unknownUser = none
      ↔ ∀ s, userId? item = some s → known s = true := by
  simp [Option.map_eq_none_iff, Option.filter_eq_none_iff]

/-- An operand that names users is the id of one who exists, or a list of such ids. -/
theorem userOperand_eq_ok : userOperand env.userExists op raw = .ok v ↔
    if op.takesList then ∃ items, raw.elements = .ok items ∧ items.length ≤ maxUsers
        ∧ (∀ item ∈ items, ∃ s, userId? item = some s ∧ env.userExists.all (· s) = true)
        ∧ v = .several (distinct (items.filterMap userId?))
    else ∃ s, userId? raw = some s ∧ env.userExists.all (· s) = true ∧ v = .text s := by
  simp only [userOperand]
  cases op.takesList with
  | true =>
    simp only [if_true, bind_eq_ok, mapError_eq_ok]
    refine exists_congr fun items => and_congr_right fun _ => ?_
    rw [ite_complain_eq_ok, Nat.not_lt]
    refine and_congr_right fun _ => ?_
    split
    · rename_i hids
      simp only [itemComplaints_eq_nil, refuseUser_eq_none] at hids
      simp only [List.isEmpty_iff, itemComplaints_eq_nil, refuseStranger_eq_none,
        ite_else_error_eq_ok, pure_eq_ok]
      rw [eq_comm (a := v)]
      refine and_congr_left fun _ => forall₂_congr fun item hitem => ?_
      obtain ⟨s, hs⟩ := hids item hitem
      simp [hs]
    · rename_i hne
      simp only [itemComplaints_eq_nil, refuseUser_eq_none] at hne
      simp only [reduceCtorEq, false_iff]
      exact fun h => hne fun item hitem => (h.1 item hitem).imp fun _ hs => hs.1
  | false =>
    simp only [Bool.false_eq_true, if_false]
    split
    · rename_i hnone
      simp [hnone]
    · rename_i id hid
      simp only [hid, Option.some.injEq, exists_eq_left']
      split_ifs with hknown
      · simp [hknown, eq_comm (a := v)]
      · simp [hknown]

theorem labelsOperand_eq_ok : labelsOperand raw = .ok v ↔ ∃ items, listed? raw = some items ∧
    trimmedDistinct items ≠ [] ∧ v = .several (trimmedDistinct items) := by
  unfold labelsOperand
  split
  · rename_i hnone
    simp [hnone]
  · rename_i items hitems
    simp only [hitems, Option.some.injEq, exists_eq_left']
    split
    · rename_i hnil
      simp [hnil]
    · rename_i labels hne
      rw [Except.ok.injEq, eq_comm (a := v)]
      exact (and_iff_right hne).symm

theorem truthOperand_eq_ok :
    truthOperand raw = .ok v ↔ ∃ b, raw.toBool? = some b ∧ v = .checked b := by
  unfold truthOperand
  split
  · rename_i b hb
    simp [hb, eq_comm]
  · rename_i hnone
    simp [hnone]

theorem readOperandAt_eq_ok : readOperandAt env path t op o raw = .ok v
    ↔ presenceProblem? t op raw = .ok none ∧ readOperand env t op o raw = .ok v := by
  unfold readOperandAt
  split
  · rename_i f hf
    simp [hf]
  · rename_i p hp
    simp [hp]
  · rename_i hnone
    simp [hnone]

/-- An operand is there: a list with an item where the operator takes one, else a single value,
which is a number where the type is numeric. -/
theorem presenceProblem?_eq_none (hop : op.testsEmptiness = false) :
    presenceProblem? t op raw = .ok none ↔ raw.isNull = false ∧
      if op.takesList then ∃ items, items ≠ [] ∧ raw = .arr items
      else t.family = .numeric → ∃ x, raw.toNumber? = .ok (some x) := by
  simp only [presenceProblem?, hop, Bool.false_eq_true, if_false]
  cases hnull : raw.isNull with
  | true => simp
  | false =>
    simp only [Bool.false_eq_true, if_false, true_and]
    cases op.takesList with
    | true =>
      simp only [if_true]
      split
      · simp
      · rename_i items hne
        simpa using hne
      · rename_i hnil hne
        simpa using fun items _ => hne items
    | false =>
      simp only [Bool.false_eq_true, if_false, beq_iff_eq]
      split_ifs with hnumeric
      · simp only [hnumeric, true_implies, bind_eq_ok, pure_eq_ok]
        constructor
        · rintro ⟨x, hx, hsome⟩
          cases x with
          | none => exact absurd hsome (by simp)
          | some x => exact ⟨x, hx⟩
        · rintro ⟨x, hx⟩
          exact ⟨some x, hx, rfl⟩
      · simp [hnumeric]

theorem takesList_eq_false (hop : op ∈ t.operators) (henum : t.family ≠ .enumerated)
    (hassignee : t.family ≠ .assignee) : op.takesList = false := by
  cases t <;> cases op <;> first | rfl | exact absurd hop (by decide) | contradiction

theorem Operand.allowed_absent : Operand.absent.Allowed env t o :=
  ⟨fun _ _ hs => absurd hs List.not_mem_nil, fun _ _ hs => absurd hs List.not_mem_nil,
    fun x hx => absurd hx (by simp)⟩

/-- Only choices, users and numbers are subject to the options of a column and to who exists. -/
theorem Operand.allowed_of_family (henum : t.family ≠ .enumerated)
    (hassignee : t.family ≠ .assignee)
    (hnumber : ∀ x, v ≠ .number x) : v.Allowed env t o :=
  ⟨fun h => absurd h henum, fun h => absurd h hassignee, fun x h => absurd h (hnumber x)⟩

theorem Operand.allowed_number {x : Binary64} (ht : t.family = .numeric) :
    (Operand.number x).Allowed env t o ↔ boundBroken (Fields.get o "min") x.lt = .ok false
      ∧ boundBroken (Fields.get o "max") (·.lt x) = .ok false := by
  constructor
  · exact fun h => h.bounds x rfl
  · intro h
    refine ⟨fun h' => ?_, fun h' => ?_, fun y hy => ?_⟩
    · exact absurd (ht.symm.trans h') (by decide)
    · exact absurd (ht.symm.trans h') (by decide)
    · obtain rfl := Operand.number.inj hy
      exact h

theorem Operand.allowed_choices (ht : t.family = .enumerated) (hnumber : ∀ x, v ≠ .number x) :
    v.Allowed env t o ↔ ∀ s ∈ v.texts, ∃ cs, Options.choices o = .ok cs ∧ s ∈ cs := by
  refine ⟨fun h => h.choices ht, fun h => ⟨fun _ => h, fun h' => ?_, fun x hx => ?_⟩⟩
  · exact absurd (ht.symm.trans h') (by decide)
  · exact absurd hx (hnumber x)

theorem Operand.allowed_users (ht : t.family = .assignee) (hnumber : ∀ x, v ≠ .number x) :
    v.Allowed env t o ↔ ∀ s ∈ v.texts, env.userExists.all (· s) = true := by
  refine ⟨fun h => h.users ht, fun h => ⟨fun h' => ?_, fun _ => h, fun x hx => ?_⟩⟩
  · exact absurd (ht.symm.trans h') (by decide)
  · exact absurd hx (hnumber x)

end Families

/-! ## What reading yields -/

/-- The bounds of dates hold of every earlier moment of the same day. -/
theorem dateWithinBounds_of_le {m n : Moment} (hdate : n.date = m.date) (hle : n.micros ≤ m.micros)
    (h : dateWithinBounds m = true) : dateWithinBounds n = true := by
  simp only [dateWithinBounds, Bool.and_eq_true, Bool.or_eq_true, decide_eq_true_eq, beq_iff_eq,
    hdate] at h ⊢
  omega

section Formed

variable {env : Surroundings} {t : ColumnType} {op : Operator} {o : Options} {raw : Json}
  {v w : Operand} {path : String}

theorem Operand.formed_text (ht : t.family = .text) (hop : op.testsEmptiness = false)
    (h : textOperand op raw = .ok v) : v.Formed t op ∧ v.Allowed env t o := by
  obtain ⟨s, -, h⟩ := textOperand_eq_ok.1 h
  have hallowed (s : String) : (Operand.text s).Allowed env t o :=
    allowed_of_family (by simp [ht]) (by simp [ht]) (by simp)
  split_ifs at h with hwhole
  · obtain ⟨hlength, rfl⟩ := h
    exact ⟨.whole ht hwhole (trim_trim s) hlength, hallowed _⟩
  · obtain ⟨hs, rfl⟩ := h
    exact ⟨.part ht hop (not_or.1 hwhole) hs, hallowed _⟩

theorem Operand.formed_number (ht : t.family = .numeric) (hop : op.testsEmptiness = false)
    (h : numberOperand o raw = .ok v) : v.Formed t op ∧ v.Allowed env t o := by
  obtain ⟨x, hx, rfl, hbounds⟩ := numberOperand_eq_ok.1 h
  exact ⟨.number ht hop (isFinite_of_toNumber? hx), (allowed_number ht).2 hbounds⟩

theorem Operand.formed_date (ht : t.family = .date) (hop : op.testsEmptiness = false)
    (h : dateOperand env.now t raw = .ok v) : v.Formed t op ∧ v.Allowed env t o := by
  obtain ⟨m, -, hbounds, rfl⟩ := dateOperand_eq_ok.1 h
  by_cases hdate : t = .date
  · rw [if_pos hdate]
    refine ⟨.day hdate hop (dateWithinBounds_of_le (m := m) rfl (Nat.zero_le _) hbounds), ?_⟩
    exact allowed_of_family (by simp [ht]) (by simp [ht]) (by simp)
  · have hdatetime : t = .datetime := by
      cases t <;> first | rfl | contradiction
    rw [if_neg hdate]
    refine ⟨.second hdatetime hop m.wholeSecond_wholeSecond
      (dateWithinBounds_of_le (m := m) rfl (Nat.sub_le _ _) hbounds), ?_⟩
    exact allowed_of_family (by simp [ht]) (by simp [ht]) (by simp)

theorem Operand.formed_choice (ht : t.family = .enumerated) (hop : op.testsEmptiness = false)
    (hpresent : presenceProblem? t op raw = .ok none) (h : choiceOperand t op o raw = .ok v) :
    v.Formed t op ∧ v.Allowed env t o := by
  obtain ⟨choices, hchoices, h⟩ := choiceOperand_eq_ok.1 h
  split_ifs at h with hlist
  · obtain ⟨listed, hlisted, hlength, hall, rfl⟩ := h
    obtain ⟨-, hpresent⟩ := (presenceProblem?_eq_none hop).1 hpresent
    rw [if_pos hlist] at hpresent
    obtain ⟨items, hne, rfl⟩ := hpresent
    obtain rfl : items = listed := Except.ok.inj hlisted
    have hmem : ∀ s ∈ distinct (items.filterMap Json.str?), s ∈ choices := by
      intro s hs
      obtain ⟨item, hitem, hstr⟩ := List.mem_filterMap.1 (mem_distinct.1 hs)
      obtain ⟨s', hs', rfl⟩ := hall item hitem
      obtain rfl := Option.some.inj hstr
      exact hs'
    refine ⟨.choices ht hop hlist ?_ (nodup_distinct _) ?_, ?_⟩
    · obtain ⟨item, rest, rfl⟩ := List.exists_cons_of_ne_nil hne
      obtain ⟨s, -, rfl⟩ := hall item List.mem_cons_self
      simp [distinct_eq_nil, Json.str?]
    · exact (length_distinct_le _).trans ((List.length_filterMap_le _ _).trans hlength)
    · exact (allowed_choices ht (by simp)).2 fun s hs => ⟨choices, hchoices, hmem s hs⟩
  · obtain ⟨s, hs, -, rfl⟩ := h
    refine ⟨.choice ht hop (by simpa using hlist), (allowed_choices ht (by simp)).2 ?_⟩
    intro s' hs'
    obtain rfl := List.mem_singleton.1 hs'
    exact ⟨choices, hchoices, hs⟩

theorem Operand.formed_user (ht : t.family = .assignee) (hop : op.testsEmptiness = false)
    (hpresent : presenceProblem? t op raw = .ok none)
    (h : userOperand env.userExists op raw = .ok v) : v.Formed t op ∧ v.Allowed env t o := by
  have h := userOperand_eq_ok.1 h
  split_ifs at h with hlist
  · obtain ⟨listed, hlisted, hlength, hall, rfl⟩ := h
    obtain ⟨-, hpresent⟩ := (presenceProblem?_eq_none hop).1 hpresent
    rw [if_pos hlist] at hpresent
    obtain ⟨items, hne, rfl⟩ := hpresent
    obtain rfl : items = listed := Except.ok.inj hlisted
    have hmem : ∀ s ∈ distinct (items.filterMap userId?), (trim s = s ∧ s ≠ "")
        ∧ env.userExists.all (· s) = true := by
      intro s hs
      obtain ⟨item, hitem, hid⟩ := List.mem_filterMap.1 (mem_distinct.1 hs)
      obtain ⟨s', hs', hknown⟩ := hall item hitem
      obtain rfl := Option.some.inj (hid.symm.trans hs')
      obtain ⟨hne, u, -, rfl⟩ := userId?_eq_some.1 hid
      exact ⟨⟨trim_trim u, hne⟩, hknown⟩
    refine ⟨.users ht hop hlist ?_ (nodup_distinct _) (fun s hs => (hmem s hs).1) ?_, ?_⟩
    · obtain ⟨item, rest, rfl⟩ := List.exists_cons_of_ne_nil hne
      obtain ⟨s, hs, -⟩ := hall item List.mem_cons_self
      simp [distinct_eq_nil, hs]
    · exact (length_distinct_le _).trans ((List.length_filterMap_le _ _).trans hlength)
    · exact (allowed_users ht (by simp)).2 fun s hs => (hmem s hs).2
  · obtain ⟨s, hid, hknown, rfl⟩ := h
    obtain ⟨hne, u, -, rfl⟩ := userId?_eq_some.1 hid
    refine ⟨.user ht hop (by simpa using hlist) (trim_trim u) hne,
      (allowed_users ht (by simp)).2 ?_⟩
    intro s hs
    obtain rfl := List.mem_singleton.1 hs
    exact hknown

theorem Operand.formed_labels (ht : t.family = .labels) (hop : op.testsEmptiness = false)
    (h : labelsOperand raw = .ok v) : v.Formed t op ∧ v.Allowed env t o := by
  obtain ⟨items, -, hne, rfl⟩ := labelsOperand_eq_ok.1 h
  exact ⟨.labels ht hop hne (trimmedDistinct_trimmedDistinct items),
    allowed_of_family (by simp [ht]) (by simp [ht]) (by simp)⟩

theorem Operand.formed_checked (ht : t.family = .checkbox) (hop : op.testsEmptiness = false)
    (h : truthOperand raw = .ok v) : v.Formed t op ∧ v.Allowed env t o := by
  obtain ⟨b, -, rfl⟩ := truthOperand_eq_ok.1 h
  exact ⟨.checked ht hop, allowed_of_family (by simp [ht]) (by simp [ht]) (by simp)⟩

/-- What reading an operand yields has the form of its type, and is allowed. -/
theorem formed_of_readOperandAt (h : readOperandAt env path t op o raw = .ok v) :
    v.Formed t op ∧ v.Allowed env t o := by
  obtain ⟨hpresent, h⟩ := readOperandAt_eq_ok.1 h
  unfold readOperand at h
  split_ifs at h with hop
  · obtain rfl := Except.ok.inj h
    exact ⟨.absent hop, Operand.allowed_absent⟩
  · rw [Bool.not_eq_true] at hop
    split at h
    · exact Operand.formed_text ‹_› hop h
    · exact Operand.formed_number ‹_› hop h
    · exact Operand.formed_date ‹_› hop h
    · exact Operand.formed_choice ‹_› hop hpresent h
    · exact Operand.formed_user ‹_› hop hpresent h
    · exact Operand.formed_labels ‹_› hop h
    · exact Operand.formed_checked ‹_› hop h

/-! ## What reading the written form yields -/

theorem toJson_not_null (hv : v.Formed t op) (hop : op.testsEmptiness = false) :
    v.toJson.isNull = false := by
  cases hv with
  | absent h => exact absurd (h.symm.trans hop) (by decide)
  | _ => rfl

/-- The written form of an operand passes the checks that come before its family reads it. -/
theorem presenceProblem?_toJson (hmem : op ∈ t.operators) (hv : v.Formed t op)
    (hop : op.testsEmptiness = false) : presenceProblem? t op v.toJson = .ok none := by
  refine (presenceProblem?_eq_none hop).2 ⟨toJson_not_null hv hop, ?_⟩
  cases hv with
  | absent h => exact absurd (h.symm.trans hop) (by decide)
  | number ht _ hx =>
    rw [takesList_eq_false hmem (by simp [ht]) (by simp [ht])]
    exact fun _ => ⟨_, toNumber?_num hx⟩
  | choices ht _ hlist hne => exact (if_pos hlist).mpr ⟨_, by simpa using hne, rfl⟩
  | users ht _ hlist hne => exact (if_pos hlist).mpr ⟨_, by simpa using hne, rfl⟩
  | choice ht _ hlist =>
    rw [hlist]
    exact fun h => absurd (ht.symm.trans h) (by decide)
  | user ht _ hlist =>
    rw [hlist]
    exact fun h => absurd (ht.symm.trans h) (by decide)
  | labels ht | checked ht | whole ht | part ht =>
    rw [takesList_eq_false hmem (by simp [ht]) (by simp [ht])]
    exact fun h => absurd (ht.symm.trans h) (by decide)
  | day ht | second ht =>
    subst ht
    rw [takesList_eq_false hmem (by decide) (by decide)]
    exact fun h => absurd h (by decide)

theorem readOperand_of_family (hop : op.testsEmptiness = false) :
    readOperand env t op o raw = match t.family with
      | .text => textOperand op raw
      | .numeric => numberOperand o raw
      | .date => dateOperand env.now t raw
      | .enumerated => choiceOperand t op o raw
      | .assignee => userOperand env.userExists op raw
      | .labels => labelsOperand raw
      | .checkbox => truthOperand raw := by
  rw [readOperand, hop]
  exact if_neg (by decide)

theorem ne_number_of_formed (hv : v.Formed t op) (ht : t.family ≠ .numeric) (x : Binary64) :
    v ≠ .number x := by
  rintro rfl
  cases hv with
  | number h => exact ht h

theorem filterMap_str? (items : List String) :
    (items.map Json.str).filterMap Json.str? = items := by
  rw [List.filterMap_map]
  exact List.filterMap_some

theorem userId?_str {s : String} (htrim : trim s = s) (hs : s ≠ "") : userId? (.str s) = some s :=
  userId?_eq_some.2 ⟨hs, s, rfl, htrim⟩

theorem filterMap_userId? {items : List String} (h : ∀ s ∈ items, trim s = s ∧ s ≠ "") :
    (items.map Json.str).filterMap userId? = items := by
  rw [List.filterMap_map]
  exact (List.filterMap_congr fun s hs => userId?_str (h s hs).1 (h s hs).2).trans
    List.filterMap_some

/-- The written form of a choice, or of several, is read as it is where they are choices. -/
theorem choiceOperand_toJson (ht : t.family = .enumerated) (hv : v.Formed t op)
    (hop : op.testsEmptiness = false) :
    choiceOperand t op o v.toJson = .ok w ↔ w = v ∧ v.Allowed env t o := by
  rw [choiceOperand_eq_ok, Operand.allowed_choices ht (ne_number_of_formed hv (by simp [ht]))]
  cases hv with
  | absent h => exact absurd (h.symm.trans hop) (by decide)
  | choice _ _ hlist =>
    simp only [hlist, Bool.false_eq_true, if_false, Operand.texts, List.mem_singleton, forall_eq,
      Operand.toJson, Json.str.injEq]
    constructor
    · rintro ⟨cs, hcs, s', hs', rfl, rfl⟩
      exact ⟨rfl, cs, hcs, hs'⟩
    · rintro ⟨rfl, cs, hcs, hs⟩
      exact ⟨cs, hcs, _, hs, rfl, rfl⟩
  | @choices items _ _ hlist hne hnodup hlength =>
    simp only [hlist, if_true, Operand.texts, Operand.toJson,
      Json.ofStrings, Json.elements, Except.ok.injEq, exists_eq_left', List.length_map,
      filterMap_str?, distinct_of_nodup hnodup, List.forall_mem_map, Json.str.injEq,
      exists_eq_right']
    constructor
    · rintro ⟨cs, hcs, -, hall, rfl⟩
      exact ⟨rfl, fun s hs => ⟨cs, hcs, hall s hs⟩⟩
    · rintro ⟨rfl, hall⟩
      obtain ⟨s, hs⟩ := List.exists_mem_of_ne_nil items hne
      obtain ⟨cs, hcs, -⟩ := hall s hs
      refine ⟨cs, hcs, hlength, fun s hs => ?_, rfl⟩
      obtain ⟨cs', hcs', hmem⟩ := hall s hs
      obtain rfl := Except.ok.inj (hcs.symm.trans hcs')
      exact hmem
  | whole h | part h | number h | user h | users h | labels h | checked h =>
    exact absurd (ht.symm.trans h) (by decide)
  | day h | second h => exact absurd (h ▸ ht) (by decide)

/-- The written form of a user, or of several, is read as it is where they all exist. -/
theorem userOperand_toJson (ht : t.family = .assignee) (hv : v.Formed t op)
    (hop : op.testsEmptiness = false) :
    userOperand env.userExists op v.toJson = .ok w ↔ w = v ∧ v.Allowed env t o := by
  rw [userOperand_eq_ok, Operand.allowed_users ht (ne_number_of_formed hv (by simp [ht]))]
  cases hv with
  | absent h => exact absurd (h.symm.trans hop) (by decide)
  | user _ _ hlist htrim hs =>
    simp only [hlist, Bool.false_eq_true, if_false, Operand.texts, List.mem_singleton, forall_eq,
      Operand.toJson, userId?_str htrim hs,
      Option.some.injEq, exists_eq_left']
    exact and_comm
  | @users items _ _ hlist hne hnodup hitems hlength =>
    have hid (s : String) (hs : s ∈ items) : userId? (.str s) = some s :=
      userId?_str (hitems s hs).1 (hitems s hs).2
    simp only [hlist, if_true, Operand.texts, Operand.toJson,
      Json.ofStrings, Json.elements, Except.ok.injEq, exists_eq_left', List.length_map,
      filterMap_userId? hitems, distinct_of_nodup hnodup, List.forall_mem_map]
    constructor
    · rintro ⟨-, hall, rfl⟩
      refine ⟨rfl, fun s hs => ?_⟩
      obtain ⟨s', hs', hknown⟩ := hall s hs
      obtain rfl := Option.some.inj ((hid s hs).symm.trans hs')
      exact hknown
    · rintro ⟨rfl, hall⟩
      exact ⟨hlength, fun s hs => ⟨s, hid s hs, hall s hs⟩, rfl⟩
  | whole h | part h | number h | choice h | choices h | labels h | checked h =>
    exact absurd (ht.symm.trans h) (by decide)
  | day h | second h => exact absurd (h ▸ ht) (by decide)

theorem textOperand_toJson (ht : t.family = .text) (hv : v.Formed t op)
    (hop : op.testsEmptiness = false) : textOperand op v.toJson = .ok w ↔ w = v := by
  rw [textOperand_eq_ok]
  cases hv with
  | absent h => exact absurd (h.symm.trans hop) (by decide)
  | whole _ hwhole htrim hlength => simp [Operand.toJson, hwhole, htrim, hlength]
  | part _ _ hpart hs => simp [Operand.toJson, hpart.1, hpart.2, hs]
  | number h | choice h | choices h | user h | users h | labels h | checked h =>
    exact absurd (ht.symm.trans h) (by decide)
  | day h | second h => exact absurd (h ▸ ht) (by decide)

theorem numberOperand_toJson (ht : t.family = .numeric) (hv : v.Formed t op)
    (hop : op.testsEmptiness = false) :
    numberOperand o v.toJson = .ok w ↔ w = v ∧ v.Allowed env t o := by
  rw [numberOperand_eq_ok]
  cases hv with
  | absent h => exact absurd (h.symm.trans hop) (by decide)
  | number _ _ hx =>
    rw [Operand.allowed_number ht, Operand.toJson, toNumber?_num hx]
    simp only [Except.ok.injEq, Option.some.injEq, exists_eq_left']
  | whole h | part h | choice h | choices h | user h | users h | labels h | checked h =>
    exact absurd (ht.symm.trans h) (by decide)
  | day h | second h => exact absurd (h ▸ ht) (by decide)

theorem dateOperand_toJson (ht : t.family = .date) (hv : v.Formed t op)
    (hop : op.testsEmptiness = false) : dateOperand env.now t v.toJson = .ok w ↔ w = v := by
  rw [dateOperand_eq_ok]
  cases hv with
  | absent h => exact absurd (h.symm.trans hop) (by decide)
  | day hdate _ hbounds =>
    simp [Operand.toJson, Json.toMoment?_dateText, hdate, hbounds, Moment.date_midnight]
  | second hdatetime _ hwhole hbounds =>
    simp [Operand.toJson, Json.toMoment?_secondText, hdatetime, hbounds, hwhole]
  | number h | whole h | part h | choice h | choices h | user h | users h | labels h | checked h =>
    exact absurd (ht.symm.trans h) (by decide)

theorem labelsOperand_toJson (ht : t.family = .labels) (hv : v.Formed t op)
    (hop : op.testsEmptiness = false) : labelsOperand v.toJson = .ok w ↔ w = v := by
  rw [labelsOperand_eq_ok]
  cases hv with
  | absent h => exact absurd (h.symm.trans hop) (by decide)
  | labels _ _ hne hitems => simp [Operand.toJson, listed?_ofStrings, hitems, hne]
  | number h | whole h | part h | choice h | choices h | user h | users h | checked h =>
    exact absurd (ht.symm.trans h) (by decide)
  | day h | second h => exact absurd (h ▸ ht) (by decide)

theorem truthOperand_toJson (ht : t.family = .checkbox) (hv : v.Formed t op)
    (hop : op.testsEmptiness = false) : truthOperand v.toJson = .ok w ↔ w = v := by
  rw [truthOperand_eq_ok]
  cases hv with
  | absent h => exact absurd (h.symm.trans hop) (by decide)
  | checked => simp [Operand.toJson, Json.toBool?]
  | number h | whole h | part h | choice h | choices h | user h | users h | labels h =>
    exact absurd (ht.symm.trans h) (by decide)
  | day h | second h => exact absurd (h ▸ ht) (by decide)

/-- The operand of an operator that takes none. -/
theorem eq_absent_of_formed (hv : v.Formed t op) (hop : op.testsEmptiness = true) :
    v = .absent := by
  cases hv with
  | absent => rfl
  | whole _ hwhole => rcases hwhole with rfl | rfl <;> exact absurd hop (by decide)
  | number _ h | part _ h | day _ h | second _ h | choice _ h | choices _ h | user _ h | users _ h
  | labels _ h | checked _ h => exact absurd (h.symm.trans hop) (by decide)

/-- The written form of an operand is read as the operand itself, exactly if it is allowed. -/
theorem readOperandAt_toJson (hmem : op ∈ t.operators) (hv : v.Formed t op) :
    readOperandAt env path t op o v.toJson = .ok w ↔ w = v ∧ v.Allowed env t o := by
  rw [readOperandAt_eq_ok]
  cases hop : op.testsEmptiness with
  | true =>
    obtain rfl := eq_absent_of_formed hv hop
    simp [presenceProblem?, readOperand, hop, Operand.allowed_absent, eq_comm]
  | false =>
    have hfree (henum : t.family ≠ .enumerated) (hassignee : t.family ≠ .assignee)
        (hnumeric : t.family ≠ .numeric) : v.Allowed env t o :=
      Operand.allowed_of_family henum hassignee (ne_number_of_formed hv hnumeric)
    rw [presenceProblem?_toJson hmem hv hop, readOperand_of_family hop]
    simp only [true_and]
    cases ht : t.family with
    | text =>
      rw [and_iff_left (hfree (by simp [ht]) (by simp [ht]) (by simp [ht]))]
      exact textOperand_toJson ht hv hop
    | numeric => exact numberOperand_toJson ht hv hop
    | date =>
      rw [and_iff_left (hfree (by simp [ht]) (by simp [ht]) (by simp [ht]))]
      exact dateOperand_toJson ht hv hop
    | enumerated => exact choiceOperand_toJson ht hv hop
    | assignee => exact userOperand_toJson ht hv hop
    | labels =>
      rw [and_iff_left (hfree (by simp [ht]) (by simp [ht]) (by simp [ht]))]
      exact labelsOperand_toJson ht hv hop
    | checkbox =>
      rw [and_iff_left (hfree (by simp [ht]) (by simp [ht]) (by simp [ht]))]
      exact truthOperand_toJson ht hv hop

end Formed

end BoardQuery
