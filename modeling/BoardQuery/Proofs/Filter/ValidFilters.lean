import BoardQuery.Proofs.Filter.Rebuild
import BoardQuery.Proofs.Value.Conforming

/-!
# Valid filters

What a built filter is, in terms of its own parts (`BuiltFilter.Valid`): a group without empty
groups, whose conditions have a name, an operator of their type, and an operand within the limits of
the type, the options of the column and the users that exist. Exactly these filters are built, and a
document that no filter is built from has an issue, or ends in a fault (`build_exactly_valid`).
-/

namespace BoardQuery

open FilterBuilder Text

/-! ## Operands within their limits -/

/-- Whether a number is neither below the least nor above the greatest that options state. -/
structure Options.Admit (o : Options) (x : Binary64) : Prop where
  low : Fields.get o "min" = .null
    ∨ ∃ b, (Fields.get o "min").toBound = .ok b ∧ x.lt b = false
  high : Fields.get o "max" = .null
    ∨ ∃ b, (Fields.get o "max").toBound = .ok b ∧ b.lt x = false

/-- The operands of an operator on columns of a type. -/
inductive Operand.Valid (env : Surroundings) (t : ColumnType) (o : Options) (op : Operator) :
    Operand → Prop
  | absent (hop : op = .isEmpty ∨ op = .isNotEmpty) : Valid env t o op .absent
  | whole {s : String} (ht : t.family = .text) (hop : op = .equals ∨ op = .notEquals)
    (htrim : trim s = s) (hlength : s.length ≤ 255) : Valid env t o op (.text s)
  | part {s : String} (ht : t.family = .text)
    (hop : op ∈ [Operator.contains, .notContains, .startsWith, .endsWith]) (hs : s ≠ "") :
    Valid env t o op (.text s)
  | number {x : Binary64} (ht : t.family = .numeric) (hop : op ≠ .isEmpty ∧ op ≠ .isNotEmpty)
    (hx : x.isFinite = true) (hbounds : o.Admit x) : Valid env t o op (.number x)
  | day {d : Date} (ht : t = .date) (hop : op ≠ .isEmpty ∧ op ≠ .isNotEmpty)
    (hyear : 1900 ≤ d.year ∧ d.year ≤ 2100) : Valid env t o op (.day d)
  | second {m : Moment} (ht : t = .datetime) (hop : op ≠ .isEmpty ∧ op ≠ .isNotEmpty)
    (hyear : 1900 ≤ m.date.year ∧ m.date.year ≤ 2100) (hwhole : m.micros % 1000000 = 0) :
    Valid env t o op (.second m)
  | choice {s : String} (ht : t.family = .enumerated) (hop : op = .equals ∨ op = .notEquals)
    (hs : o.Lists s) : Valid env t o op (.text s)
  | choices {items : List String} (ht : t.family = .enumerated) (hop : op = .isIn ∨ op = .notIn)
    (hne : items ≠ []) (hnodup : items.Nodup)
    (hlength : items.length ≤ if t = .priority then 10 else 20) (hs : ∀ s ∈ items, o.Lists s) :
    Valid env t o op (.several items)
  | user {s : String} (ht : t.family = .assignee) (hop : op = .equals ∨ op = .notEquals)
    (hs : env.IsUser s) : Valid env t o op (.text s)
  | users {items : List String} (ht : t.family = .assignee) (hop : op = .isIn ∨ op = .notIn)
    (hne : items ≠ []) (hnodup : items.Nodup) (hlength : items.length ≤ 50)
    (hs : ∀ s ∈ items, env.IsUser s) : Valid env t o op (.several items)
  | labels {items : List String} (ht : t.family = .labels)
    (hop : op = .contains ∨ op = .notContains) (hne : items ≠ []) (hnodup : items.Nodup)
    (hs : ∀ s ∈ items, trim s = s ∧ s ≠ "") : Valid env t o op (.several items)
  | checked {b : Bool} (ht : t.family = .checkbox) (hop : op = .equals ∨ op = .notEquals) :
    Valid env t o op (.checked b)

section Operands

variable {env : Surroundings} {t : ColumnType} {o : Options} {op : Operator} {v : Operand}

theorem boundBroken_eq_ok_false {bound : Json} {outside : Binary64 → Bool} :
    boundBroken bound outside = .ok false
      ↔ bound = .null ∨ ∃ b, bound.toBound = .ok b ∧ outside b = false := by
  cases bound with
  | null => simp [boundBroken, Json.isNull]
  | _ => simp [boundBroken, Json.isNull]

theorem Options.admit_iff {x : Binary64} : o.Admit x
    ↔ boundBroken (Fields.get o "min") x.lt = .ok false
      ∧ boundBroken (Fields.get o "max") (·.lt x) = .ok false := by
  rw [boundBroken_eq_ok_false, boundBroken_eq_ok_false]
  exact ⟨fun h => ⟨h.low, h.high⟩, fun h => ⟨h.1, h.2⟩⟩

theorem Surroundings.isUser_iff {s : String} :
    env.IsUser s ↔ (trim s = s ∧ s ≠ "") ∧ env.userExists.all (· s) = true := by
  rw [Option.all_eq_true]
  exact ⟨fun h => ⟨⟨h.trimmed, h.nonblank⟩, h.known⟩, fun h => ⟨h.1.1, h.1.2, h.2⟩⟩

theorem dateWithinBounds_midnight {d : Date} :
    dateWithinBounds (Moment.midnight d) = true ↔ 1900 ≤ d.year ∧ d.year ≤ 2100 := by
  simp only [dateWithinBounds, Bool.and_eq_true, Bool.or_eq_true, decide_eq_true_eq, beq_iff_eq]
  simp only [Moment.midnight]
  omega

theorem wholeSecond_eq_self_iff {m : Moment} : m.wholeSecond = m ↔ m.micros % 1000000 = 0 := by
  constructor
  · exact fun h => h ▸ m.micros_wholeSecond
  · intro h
    obtain ⟨date, micros, hlt⟩ := m
    simp only [Moment.wholeSecond, microsPerSecond, Moment.mk.injEq, true_and] at h ⊢
    omega

/-- The last second of a day is its last whole second. -/
theorem dateWithinBounds_whole {m : Moment} (h : m.micros % 1000000 = 0) :
    dateWithinBounds m = true ↔ 1900 ≤ m.date.year ∧ m.date.year ≤ 2100 := by
  have hlt := m.micros_lt
  simp only [dateWithinBounds, Bool.and_eq_true, Bool.or_eq_true, decide_eq_true_eq, beq_iff_eq]
  simp only [microsPerDay, microsPerSecond] at hlt ⊢
  omega

theorem testsEmptiness_eq_true : op.testsEmptiness = true ↔ op = .isEmpty ∨ op = .isNotEmpty := by
  cases op <;> decide

theorem testsEmptiness_eq_false : op.testsEmptiness = false ↔ op ≠ .isEmpty ∧ op ≠ .isNotEmpty := by
  cases op <;> decide

theorem takesList_eq_true : op.takesList = true ↔ op = .isIn ∨ op = .notIn := by
  cases op <;> decide

theorem equality_takes_single (hop : op = .equals ∨ op = .notEquals) :
    op.testsEmptiness = false ∧ op.takesList = false := by
  rcases hop with rfl | rfl <;> exact ⟨rfl, rfl⟩

theorem membership_takes_list (hop : op = .isIn ∨ op = .notIn) :
    op.testsEmptiness = false ∧ op.takesList = true := by
  rcases hop with rfl | rfl <;> exact ⟨rfl, rfl⟩

theorem search_takes_text (hop : op ∈ [Operator.contains, .notContains, .startsWith, .endsWith]) :
    op.testsEmptiness = false ∧ op ≠ .equals ∧ op ≠ .notEquals := by
  revert hop
  cases op <;> decide

/-- The operators of a type that take an operand, and no list: they compare or search for it. -/
theorem single_operator (hmem : op ∈ t.operators) (hop : op.testsEmptiness = false)
    (hlist : op.takesList = false) :
    (t.family = .text → op = .equals ∨ op = .notEquals
        ∨ op ∈ [Operator.contains, .notContains, .startsWith, .endsWith])
      ∧ (t.family = .enumerated ∨ t.family = .assignee ∨ t.family = .checkbox →
        op = .equals ∨ op = .notEquals)
      ∧ (t.family = .labels → op = .contains ∨ op = .notContains) := by
  rw [ColumnType.operators] at hmem
  generalize t.family = f at hmem ⊢
  cases f <;> cases op <;> first | decide | exact absurd hmem (by decide) | contradiction

theorem Operand.Valid.formed (h : v.Valid env t o op) : v.Formed t op := by
  cases h with
  | absent hop => exact .absent (testsEmptiness_eq_true.2 hop)
  | whole ht hop htrim hlength => exact .whole ht hop htrim hlength
  | part ht hop hs =>
    obtain ⟨hempty, hpart⟩ := search_takes_text hop
    exact .part ht hempty hpart hs
  | number ht hop hx => exact .number ht (testsEmptiness_eq_false.2 hop) hx
  | day ht hop hyear =>
    exact .day ht (testsEmptiness_eq_false.2 hop) (dateWithinBounds_midnight.2 hyear)
  | second ht hop hyear hwhole =>
    exact .second ht (testsEmptiness_eq_false.2 hop) (wholeSecond_eq_self_iff.2 hwhole)
      ((dateWithinBounds_whole hwhole).2 hyear)
  | choice ht hop =>
    obtain ⟨hempty, hlist⟩ := equality_takes_single hop
    exact .choice ht hempty hlist
  | choices ht hop hne hnodup hlength =>
    obtain ⟨hempty, hlist⟩ := membership_takes_list hop
    exact .choices ht hempty hlist hne hnodup (by simpa [maxChoices] using hlength)
  | user ht hop hs =>
    obtain ⟨hempty, hlist⟩ := equality_takes_single hop
    exact .user ht hempty hlist hs.trimmed hs.nonblank
  | users ht hop hne hnodup hlength hs =>
    obtain ⟨hempty, hlist⟩ := membership_takes_list hop
    exact .users ht hempty hlist hne hnodup (fun s h => ⟨(hs s h).trimmed, (hs s h).nonblank⟩)
      hlength
  | labels ht hop hne hnodup hs =>
    refine .labels ht ?_ hne (trimmedDistinct_eq_self_iff.2 ⟨hnodup, hs⟩)
    rcases hop with rfl | rfl <;> rfl
  | checked ht hop => exact .checked ht (equality_takes_single hop).1

theorem Operand.Valid.allowed (h : v.Valid env t o op) : v.Allowed env t o := by
  cases h with
  | absent hop => exact allowed_absent
  | number ht hop hx hbounds => exact (allowed_number ht).2 (Options.admit_iff.1 hbounds)
  | choice ht hop hs =>
    refine (allowed_choices ht (by simp)).2 ?_
    simpa [Operand.texts, Options.Lists] using hs
  | choices ht hop hne hnodup hlength hs => exact (allowed_choices ht (by simp)).2 hs
  | user ht hop hs =>
    refine (allowed_users ht (by simp)).2 ?_
    simpa [Operand.texts] using (Surroundings.isUser_iff.1 hs).2
  | users ht hop hne hnodup hlength hs =>
    exact (allowed_users ht (by simp)).2 fun s h => (Surroundings.isUser_iff.1 (hs s h)).2
  | day ht | second ht =>
    exact allowed_of_family (by simp [ht, ColumnType.family]) (by simp [ht, ColumnType.family])
      (by simp)
  | whole ht | part ht | labels ht | checked ht =>
    exact allowed_of_family (by simp [ht]) (by simp [ht]) (by simp)

theorem Operand.Formed.valid (hmem : op ∈ t.operators) (hformed : v.Formed t op)
    (hallowed : v.Allowed env t o) : v.Valid env t o op := by
  cases hformed with
  | absent hop => exact .absent (testsEmptiness_eq_true.1 hop)
  | whole ht hop htrim hlength => exact .whole ht hop htrim hlength
  | part ht hop hpart hs =>
    have hlist := takesList_eq_false hmem (by simp [ht]) (by simp [ht])
    rcases (single_operator hmem hop hlist).1 ht with h | h | h
    · exact absurd h hpart.1
    · exact absurd h hpart.2
    · exact .part ht h hs
  | number ht hop hx =>
    exact .number ht (testsEmptiness_eq_false.1 hop) hx
      (Options.admit_iff.2 ((allowed_number ht).1 hallowed))
  | day ht hop hd =>
    exact .day ht (testsEmptiness_eq_false.1 hop) (dateWithinBounds_midnight.1 hd)
  | second ht hop hwhole hm =>
    rw [wholeSecond_eq_self_iff] at hwhole
    exact .second ht (testsEmptiness_eq_false.1 hop) ((dateWithinBounds_whole hwhole).1 hm) hwhole
  | choice ht hop hlist =>
    exact .choice ht ((single_operator hmem hop hlist).2.1 (.inl ht))
      (hallowed.choices ht _ (List.mem_singleton_self _))
  | choices ht hop hlist hne hnodup hlength =>
    exact .choices ht (takesList_eq_true.1 hlist) hne hnodup (by simpa [maxChoices] using hlength)
      (hallowed.choices ht)
  | user ht hop hlist htrim hs =>
    exact .user ht ((single_operator hmem hop hlist).2.1 (.inr (.inl ht)))
      (Surroundings.isUser_iff.2
        ⟨⟨htrim, hs⟩, hallowed.users ht _ (List.mem_singleton_self _)⟩)
  | users ht hop hlist hne hnodup hitems hlength =>
    exact .users ht (takesList_eq_true.1 hlist) hne hnodup hlength fun s h =>
      Surroundings.isUser_iff.2 ⟨hitems s h, hallowed.users ht s h⟩
  | labels ht hop hne hitems =>
    have hlist := takesList_eq_false hmem (by simp [ht]) (by simp [ht])
    obtain ⟨hnodup, hs⟩ := trimmedDistinct_eq_self_iff.1 hitems
    exact .labels ht ((single_operator hmem hop hlist).2.2 ht) hne hnodup hs
  | checked ht hop =>
    have hlist := takesList_eq_false hmem (by simp [ht]) (by simp [ht])
    exact .checked ht ((single_operator hmem hop hlist).2.1 (.inr (.inr ht)))

/-- A valid operand has the form that reading gives to operands, and is allowed. -/
theorem Operand.valid_iff (hmem : op ∈ t.operators) :
    v.Valid env t o op ↔ v.Formed t op ∧ v.Allowed env t o :=
  ⟨fun h => ⟨h.formed, h.allowed⟩, fun h => h.1.valid hmem h.2⟩

end Operands

/-! ## Failures that tell why -/

section Failures

variable {ε ε' α β : Type} {x : Except ε α} {e : ε}

theorem ok_ne_error {a : α} : (.ok a : Except ε α) ≠ .error e := by
  simp

theorem bind_ne_error {f : α → Except ε β} (hx : x ≠ .error e) (hf : ∀ a, f a ≠ .error e) :
    (x >>= f) ≠ .error e := by
  cases x with
  | error e' => exact fun h => hx (congrArg Except.error (Except.error.inj h))
  | ok a => exact hf a

theorem map_ne_error {f : α → β} (hx : x ≠ .error e) : x.map f ≠ .error e := by
  cases x with
  | error e' => exact fun h => hx (congrArg Except.error (Except.error.inj h))
  | ok a => exact ok_ne_error

theorem mapError_ne_error {f : ε → ε'} {e' : ε'} (hf : ∀ e, x = .error e → f e ≠ e') :
    x.mapError f ≠ .error e' := by
  cases x with
  | error e => exact fun h => hf e rfl (Except.error.inj h)
  | ok a => exact ok_ne_error

end Failures

section OperandFailures

variable {env : Surroundings} {t : ColumnType} {o : Options} {op : Operator} {raw : Json}

theorem complain_ne_silent (p : OperandProblem) : complain p ≠ .error (.complaints []) := by
  simp [complain]

theorem fault_ne_silent {α : Type} (x : Except Fault α) :
    x.mapError OperandError.fault ≠ .error (.complaints []) :=
  mapError_ne_error fun _ _ => OperandError.noConfusion

/-- Whether there is an operand, or one problem with it as a whole. -/
def OperandResult.Answers (x : OperandResult) : Prop :=
  (∃ v, x = .ok v) ∨ ∃ p, x = complain p

theorem OperandResult.Answers.ne_silent {x : OperandResult} (h : x.Answers) :
    x ≠ .error (.complaints []) := by
  rcases h with ⟨v, rfl⟩ | ⟨p, rfl⟩
  · exact ok_ne_error
  · exact complain_ne_silent p

theorem textOperand_answers : (textOperand op raw).Answers := by
  unfold textOperand
  split
  · split
    · dsimp only
      split
      · exact .inr ⟨_, rfl⟩
      · exact .inl ⟨_, rfl⟩
    · split
      · exact .inr ⟨_, rfl⟩
      · exact .inl ⟨_, rfl⟩
  · exact .inr ⟨_, rfl⟩

theorem numberOperand_ne_silent : numberOperand o raw ≠ .error (.complaints []) := by
  refine bind_ne_error (fault_ne_silent _) fun read => ?_
  cases read with
  | none => exact complain_ne_silent _
  | some x =>
    refine bind_ne_error (fault_ne_silent _) fun below => ?_
    split_ifs
    · exact complain_ne_silent _
    · refine bind_ne_error (fault_ne_silent _) fun above => ?_
      split_ifs
      · exact complain_ne_silent _
      · exact ok_ne_error

theorem dateOperand_ne_silent : dateOperand env.now t raw ≠ .error (.complaints []) := by
  refine bind_ne_error (fault_ne_silent _) fun read => ?_
  cases read with
  | none => exact complain_ne_silent _
  | some m =>
    dsimp only
    split_ifs
    · exact complain_ne_silent _
    · exact ok_ne_error
    · exact ok_ne_error

/-- Complaints about the items of a list are reported only where there are some. -/
theorem choiceOperand_ne_silent : choiceOperand t op o raw ≠ .error (.complaints []) := by
  refine bind_ne_error (fault_ne_silent _) fun choices => ?_
  dsimp only
  by_cases hlist : op.takesList = true
  · rw [if_pos hlist]
    refine bind_ne_error (fault_ne_silent _) fun items => ?_
    split_ifs
    · exact complain_ne_silent _
    · split
      · exact ok_ne_error
      · rename_i hne
        exact fun h => hne (OperandError.complaints.inj (Except.error.inj h))
  · rw [if_neg hlist]
    split
    · exact ok_ne_error
    · exact complain_ne_silent _
    · exact complain_ne_silent _

theorem userOperand_ne_silent :
    userOperand env.userExists op raw ≠ .error (.complaints []) := by
  unfold userOperand
  dsimp only
  by_cases hlist : op.takesList = true
  · rw [if_pos hlist]
    refine bind_ne_error (fault_ne_silent _) fun items => ?_
    by_cases hmany : maxUsers < items.length
    · rw [if_pos hmany]
      exact complain_ne_silent _
    · rw [if_neg hmany]
      split
      · split_ifs with hstrange
        · exact ok_ne_error
        · refine fun h => hstrange ?_
          rw [OperandError.complaints.inj (Except.error.inj h)]
          rfl
      · rename_i hne
        exact fun h => hne (OperandError.complaints.inj (Except.error.inj h))
  · rw [if_neg hlist]
    split
    · exact complain_ne_silent _
    · split_ifs
      · exact ok_ne_error
      · exact complain_ne_silent _

theorem labelsOperand_answers : (labelsOperand raw).Answers := by
  unfold labelsOperand
  split
  · exact .inr ⟨_, rfl⟩
  · split
    · exact .inr ⟨_, rfl⟩
    · exact .inl ⟨_, rfl⟩

theorem truthOperand_answers : (truthOperand raw).Answers := by
  unfold truthOperand
  split
  · exact .inl ⟨_, rfl⟩
  · exact .inr ⟨_, rfl⟩

/-- An operand that is refused is complained about. -/
theorem readOperand_ne_silent : readOperand env t op o raw ≠ .error (.complaints []) := by
  unfold readOperand
  split_ifs
  · exact ok_ne_error
  · split
    · exact textOperand_answers.ne_silent
    · exact numberOperand_ne_silent
    · exact dateOperand_ne_silent
    · exact choiceOperand_ne_silent
    · exact userOperand_ne_silent
    · exact labelsOperand_answers.ne_silent
    · exact truthOperand_answers.ne_silent

end OperandFailures

section NodeFailures

variable {ctx : BuildContext} {path path' : String} {fields : Fields} {raw : Json}
  {t : ColumnType} {op : Operator} {o : Options} {α β : Type}

theorem issue_ne_silent {i : Issue} {list : List Issue} :
    (.error (.issues (i :: list)) : Except FilterError α) ≠ .error (.issues []) := by
  simp

theorem alongside_ne_silent {a : Except FilterError α} {b : Except FilterError β}
    (ha : a ≠ .error (.issues [])) (hb : b ≠ .error (.issues [])) :
    alongside a b ≠ .error (.issues []) := by
  rcases a with (list | f) | x <;> rcases b with (more | f') | y <;> simp_all [alongside]

theorem gather_ne_silent {rs : List (Except FilterError α)}
    (h : ∀ r ∈ rs, r ≠ .error (.issues [])) : gather rs ≠ .error (.issues []) := by
  induction rs with
  | nil => exact ok_ne_error
  | cons r rest ih =>
    rw [List.forall_mem_cons] at h
    exact map_ne_error (alongside_ne_silent h.1 (ih h.2))

/-- A logic is read, or is one issue. -/
theorem readLogic_cases (v : Json) :
    (∃ l, ∀ path, readLogic path v = .ok l)
      ∨ ∀ path, readLogic path v = .error (.issues [⟨path, .unknownLogic⟩]) := by
  cases v with
  | null => exact .inl ⟨.all, fun _ => rfl⟩
  | str s =>
    cases h : Logic.ofName? (Text.upper s) with
    | some l => exact .inl ⟨l, fun _ => by simp only [readLogic, h]⟩
    | none => exact .inr fun _ => by simp only [readLogic, h]
  | _ => exact .inr fun _ => rfl

theorem readLogic_ne_silent {v : Json} : readLogic path v ≠ .error (.issues []) := by
  rcases readLogic_cases v with ⟨l, h⟩ | h
  · exact h path ▸ ok_ne_error
  · exact h path ▸ issue_ne_silent

/-- A part that the structure of a condition lacks is an issue. -/
theorem readHead_ne_silent : readHead path fields ≠ .error (.issues []) := by
  unfold readHead
  split
  · exact ok_ne_error
  · rename_i hne
    intro h
    have hissues : headIssues path fields = [] := FilterError.issues.inj (Except.error.inj h)
    have hparts := hissues
    simp only [headIssues, List.append_eq_nil_iff, List.map_eq_nil_iff, List.filter_eq_nil_iff,
      requiredFields, List.forall_mem_cons, Bool.not_eq_true] at hparts
    obtain ⟨⟨⟨⟨hcolumn, htype, -⟩, hcolumn'⟩, htype'⟩, hlogic⟩ := hparts
    simp only [hcolumn, htype, Bool.false_or, ite_eq_left_iff, Bool.not_eq_true,
      List.cons_ne_nil, imp_false, Bool.not_eq_false] at hcolumn' htype'
    obtain ⟨column, hcolumn⟩ := Option.isSome_iff_exists.1 hcolumn'
    obtain ⟨t, htype⟩ := Option.isSome_iff_exists.1 htype'
    rcases readLogic_cases (Fields.get fields "logic") with ⟨l, hread⟩ | hread
    · exact hne column t l hissues hcolumn htype (hread path)
    · rw [hread] at hlogic
      exact absurd hlogic (by simp)

theorem readOperator_ne_silent {v : Json} : readOperator path t v ≠ .error (.issues []) := by
  unfold readOperator
  split
  · exact ok_ne_error
  · exact issue_ne_silent

theorem adopt_ne_silent {column : String} : adopt ctx path column t ≠ .error (.issues []) := by
  unfold adopt
  split
  · exact ok_ne_error
  · split_ifs
    · exact ok_ne_error
    · exact ok_ne_error
    · exact issue_ne_silent

theorem readOperandAt_ne_silent {env : Surroundings} :
    readOperandAt env path t op o raw ≠ .error (.issues []) := by
  unfold readOperandAt
  split
  · exact fun h => FilterError.noConfusion (Except.error.inj h)
  · exact issue_ne_silent
  · refine mapError_ne_error fun e he h => ?_
    cases e with
    | fault f => exact FilterError.noConfusion h
    | complaints list =>
      have hnil : list = [] := List.map_eq_nil_iff.1 (FilterError.issues.inj h)
      exact readOperand_ne_silent (hnil ▸ he)

theorem buildLeaf_ne_silent : buildLeaf ctx path fields ≠ .error (.issues []) :=
  bind_ne_error readHead_ne_silent fun _ =>
    bind_ne_error readOperator_ne_silent fun _ =>
      bind_ne_error adopt_ne_silent fun _ =>
        bind_ne_error readOperandAt_ne_silent fun _ => ok_ne_error

mutual

/-- By recursion over the document, as building goes. -/
theorem buildNode_ne_silent (path : String) (raw : Json) :
    buildNode ctx path raw ≠ .error (.issues []) := by
  cases raw with
  | obj fields =>
    rw [buildNode]
    split_ifs
    · exact issue_ne_silent
    · refine map_ne_error (alongside_ne_silent readLogic_ne_silent ?_)
      split
      · rename_i items hlt _
        exact buildMembers_ne_silent _ items
      · exact issue_ne_silent
    · exact map_ne_error buildLeaf_ne_silent
  | _ =>
    rw [buildNode]
    · exact issue_ne_silent
    · exact fun _ => Json.noConfusion
termination_by (sizeOf raw, 0)

theorem buildMembers_ne_silent (path : String) (items : List Json) :
    buildMembers ctx path items ≠ .error (.issues []) := by
  rw [buildMembers]
  split_ifs
  · exact issue_ne_silent
  · exact gather_ne_silent (buildItems_ne_silent path 0 items)
termination_by (sizeOf items, 1)

theorem buildItems_ne_silent (path : String) (index : Nat) (items : List Json) :
    ∀ r ∈ buildItems ctx path index items, r ≠ .error (.issues []) := by
  cases items with
  | nil => simp [buildItems]
  | cons v rest =>
    rw [buildItems, List.forall_mem_cons]
    exact ⟨buildNode_ne_silent _ v, buildItems_ne_silent path (index + 1) rest⟩
termination_by (sizeOf items, 0)

end

/-- A document that no filter is built from has an issue, or ends in a fault. -/
theorem build_ne_silent : build ctx raw ≠ .error (.issues []) := by
  unfold build
  split
  · exact map_ne_error (buildMembers_ne_silent _ _)
  · split_ifs
    · refine map_ne_error (alongside_ne_silent readLogic_ne_silent ?_)
      unfold buildTop
      split
      · exact buildMembers_ne_silent _ _
      · exact issue_ne_silent
    · exact map_ne_error (buildNode_ne_silent _ _)
  · exact issue_ne_silent

end NodeFailures

/-! ## Valid filters -/

/-- A condition on a named column, with an operator of its type, whose operand is missing only where
the operator takes none. Its options are those of the column, or the defaults of its type where
there is no such column or the condition is stale. -/
structure Leaf.Valid (ctx : BuildContext) (l : Leaf String Operand) : Prop where
  named : l.column ≠ ""
  short : l.column.length ≤ 255
  operator : l.operator ∈ l.columnType.operators
  absent : l.operand = .absent ↔ l.operator = .isEmpty ∨ l.operator = .isNotEmpty
  operand : ∃ o, Adopted ctx l.column l.columnType l.columnType o
    ∧ l.operand.Valid ctx.surroundings l.columnType o l.operator

/-- A group without empty groups, all of whose conditions are valid. -/
structure BuiltFilter.Valid (ctx : BuildContext) (t : BuiltFilter) : Prop where
  isGroup : ∃ logic members, t = .group logic members
  solid : t.solid = true
  leaves : ∀ l ∈ t.leaves, l.Valid ctx

/-- The issues that building found, if it ended without a fault. -/
def issuesFound {α : Type} : Except FilterError α → Option (List Issue)
  | .ok _ => some []
  | .error (.issues list) => some list
  | .error (.fault _) => none

section Valid

variable {ctx : BuildContext}

/-- Only the operators that take no operand have none. -/
theorem Operand.Valid.absent_iff {env : Surroundings} {t : ColumnType} {o : Options} {op : Operator}
    {v : Operand} (h : v.Valid env t o op) : v = .absent ↔ op = .isEmpty ∨ op = .isNotEmpty := by
  constructor
  · rintro rfl
    cases h with
    | absent hop => exact hop
  · intro hempty
    have hne : ¬(op ≠ .isEmpty ∧ op ≠ .isNotEmpty) := by tauto
    cases h with
    | absent => rfl
    | number _ hop | day _ hop | second _ hop => exact absurd hop hne
    | whole _ hop | part _ hop | choice _ hop | choices _ hop | user _ hop | users _ hop
    | labels _ hop | checked _ hop =>
      rcases hempty with rfl | rfl <;> exact absurd hop (by decide)

theorem Leaf.valid_iff {l : Leaf String Operand} : l.Valid ctx ↔ l.WellFormed ∧ l.Stands ctx := by
  constructor
  · intro h
    obtain ⟨o, hadopted, hvalid⟩ := h.operand
    obtain ⟨hformed, hallowed⟩ := (Operand.valid_iff h.operator).1 hvalid
    exact ⟨⟨h.named, h.short, h.operator, hformed⟩, o, hadopted, hallowed⟩
  · rintro ⟨hwell, o, hadopted, hallowed⟩
    have hvalid := (Operand.valid_iff hwell.operator).2 ⟨hwell.operand, hallowed⟩
    exact ⟨hwell.named, hwell.short, hwell.operator, hvalid.absent_iff, o, hadopted, hvalid⟩

theorem BuiltFilter.valid_group_iff {logic : Logic} {members : List BuiltFilter} :
    BuiltFilter.Valid ctx (.group logic members)
      ↔ BuiltFilter.Sound (.group logic members)
        ∧ ∀ l ∈ Filter.membersLeaves members, l.Stands ctx := by
  constructor
  · intro h
    exact ⟨⟨h.solid, fun l hl => (Leaf.valid_iff.1 (h.leaves l hl)).1⟩,
      fun l hl => (Leaf.valid_iff.1 (h.leaves l hl)).2⟩
  · rintro ⟨hsound, hstands⟩
    exact ⟨⟨logic, members, rfl⟩, hsound.solid,
      fun l hl => Leaf.valid_iff.2 ⟨hsound.leaves l hl, hstands l hl⟩⟩

theorem issuesFound_eq_nil {α : Type} {r : Except FilterError α} (h : r ≠ .error (.issues [])) :
    issuesFound r = some [] ↔ ∃ a, r = .ok a := by
  cases r with
  | ok a => simp [issuesFound]
  | error e =>
    cases e with
    | fault f => simp [issuesFound]
    | issues list =>
      have hne : list ≠ [] := fun hnil => h (hnil ▸ rfl)
      simp [issuesFound, hne]

/-- A filter is built exactly from the documents without issues. What is built is valid, and every
valid filter is built from its own document. -/
theorem build_exactly_valid (ctx : BuildContext) :
    (∀ raw, issuesFound (build ctx raw) = some [] ↔ ∃ t, build ctx raw = .ok t)
      ∧ (∀ raw t, build ctx raw = .ok t → BuiltFilter.Valid ctx t)
      ∧ ∀ t, BuiltFilter.Valid ctx t → build ctx t.toRaw.toDocument = .ok t := by
  refine ⟨fun raw => issuesFound_eq_nil build_ne_silent, fun raw t h => ?_, fun t h => ?_⟩
  · obtain ⟨hsound, hstands⟩ := build_sound h
    obtain ⟨logic, members, rfl⟩ := build_eq_group h
    exact BuiltFilter.valid_group_iff.2 ⟨hsound, hstands⟩
  · obtain ⟨logic, members, rfl⟩ := h.isGroup
    obtain ⟨hsound, hstands⟩ := BuiltFilter.valid_group_iff.1 h
    exact (build_toDocument hsound fun l hl => (hstands l hl).keeps).2 ⟨rfl, hstands⟩

/-- Without a board, the filter of a title or a day is found valid, and a document without
conditions has an issue. -/
theorem build_exactly_valid_boardless :
    BuiltFilter.Valid boardless twoConditionsBuilt
      ∧ build boardless twoConditionsBuilt.toRaw.toDocument = .ok twoConditionsBuilt
      ∧ issuesFound (build boardless twoConditions) = some []
      ∧ issuesFound (build boardless (.arr [])) = some [⟨"filters", .emptyGroup⟩] := by
  obtain ⟨hissues, hvalid, hbuilt⟩ := build_exactly_valid boardless
  have h := hvalid twoConditions twoConditionsBuilt build_twoConditions
  exact ⟨h, hbuilt _ h, (hissues _).2 ⟨_, build_twoConditions⟩, by
    simp [build, buildMembers, issuesFound, Except.map]⟩

end Valid

end BoardQuery
