import BoardQuery.Proofs.Calendar.DayNumbers
import BoardQuery.Proofs.Number.Overflow
import BoardQuery.Proofs.Value.Conforming

/-!
# Values that end in a fault

Some values are not found to stand for no number or no moment, but end the reading: integers past
the doubles (`toNumber?_fails_iff`) and texts of moments outside the calendar
(`toMoment?_fails_iff`). So does the check of an address whose host cannot be taken apart. Under
options in order, validation ends in a fault on these values and on no others
(`validate_fault_iff`).
-/

namespace BoardQuery

/-- Whether an operation ends in an error of one kind. -/
def EndsIn {ε κ α : Type} (kind : κ → ε) (x : Except ε α) : Prop :=
  ∃ e, x = .error (kind e)

/-- Whether an operation ends in an error. -/
abbrev Fails {ε α : Type} (x : Except ε α) : Prop :=
  EndsIn id x

section EndsIn

variable {ε ε' κ κ' α β : Type} {kind : κ → ε} {x : Except ε α}

@[simp]
theorem not_endsIn_ok {a : α} : ¬ EndsIn kind (.ok a : Except ε α) := by
  simp [EndsIn]

theorem not_endsIn_pure {a : α} : ¬ EndsIn kind (pure a : Except ε α) := not_endsIn_ok

@[simp]
theorem endsIn_error {e : κ} : EndsIn kind (.error (kind e) : Except ε α) := ⟨e, rfl⟩

@[simp]
theorem fails_error {e : ε} : Fails (.error e : Except ε α) := ⟨e, rfl⟩

theorem endsIn_bind {f : α → Except ε β} :
    EndsIn kind (x >>= f) ↔ EndsIn kind x ∨ ∃ a, x = .ok a ∧ EndsIn kind (f a) := by
  rcases x with e | a <;> simp [EndsIn]

/-- What follows a step may fail under a condition that does not depend on its outcome. -/
theorem fails_bind_of {f : α → Except ε β} {P : Prop} (h : ∀ a, x = .ok a → (Fails (f a) ↔ P)) :
    Fails (x >>= f) ↔ Fails x ∨ P := by
  rcases x with e | a
  · simp
  · simp [h a rfl]

theorem not_endsIn_bind {f : α → Except ε β} (hx : ¬ EndsIn kind x)
    (h : ∀ a, ¬ EndsIn kind (f a)) : ¬ EndsIn kind (x >>= f) := by
  rw [endsIn_bind]
  rintro (hkind | ⟨a, -, hkind⟩)
  · exact hx hkind
  · exact h a hkind

theorem endsIn_map {f : α → β} : EndsIn kind (x.map f) ↔ EndsIn kind x := by
  rcases x with e | a <;> simp [Except.map, EndsIn]

/-- Where the errors of one kind, and no others, turn into errors of another kind. -/
theorem endsIn_mapError {kind' : κ' → ε'} {f : ε → ε'}
    (h : ∀ e, (∃ k, f e = kind' k) ↔ ∃ k, e = kind k) :
    EndsIn kind' (x.mapError f) ↔ EndsIn kind x := by
  rcases x with e | a
  · simpa [Except.mapError, EndsIn] using h e
  · simp [Except.mapError]

theorem fails_mapError {f : ε → ε'} : Fails (x.mapError f) ↔ Fails x := by
  rcases x with e | a <;> simp [Except.mapError]

/-- What holds of a reading, but not of one that finds nothing, holds of something that is read. -/
theorem exists_ok_some_iff {x : Except ε (Option α)} {P : Option α → Prop} (hnone : ¬ P none) :
    (∃ read, x = .ok read ∧ P read) ↔ ∃ a, x = .ok (some a) ∧ P (some a) := by
  constructor
  · rintro ⟨_ | a, hx, h⟩
    · exact absurd h hnone
    · exact ⟨a, hx, h⟩
  · rintro ⟨a, hx, h⟩
    exact ⟨some a, hx, h⟩

end EndsIn

/-! ## Numbers -/

/-- Whether a value is an integer past the doubles. -/
def Json.Huge (v : Json) : Prop :=
  ∃ n : Int, v = .int n ∧ Binary64.overflowLimit ≤ n.natAbs

namespace Json

variable {v bound : Json}

theorem not_huge_null : ¬ Json.null.Huge := by
  simp [Huge]

theorem toNumber?_fails_iff : Fails v.toNumber? ↔ v.Huge := by
  cases v with
  | int n =>
    simp only [Huge, Json.int.injEq, exists_eq_left', ← Binary64.ofInt?_eq_none_iff, toNumber?]
    cases Binary64.ofInt? n <;> simp
  | _ => simp [Huge, toNumber?]

/-- Whether a value may be a bound: nothing or a number. -/
def isBound : Json → Bool
  | .null | .int _ | .num _ => true
  | _ => false

theorem toBound_fails_iff (h : bound.isBound = true) (hne : bound ≠ .null) :
    Fails bound.toBound ↔ bound.Huge := by
  cases bound with
  | int n =>
    simp only [Huge, Json.int.injEq, exists_eq_left', ← Binary64.ofInt?_eq_none_iff, toBound]
    cases Binary64.ofInt? n <;> simp
  | num x => simp [Huge, toBound]
  | null => exact absurd rfl hne
  | _ => exact absurd h Bool.false_ne_true

end Json

/-! ## Moments -/

/-- Whether a moment has no counterpart in universal time: it lies outside the calendar there, or
its offset is a day or more. -/
def ZonedMoment.Outside (z : ZonedMoment) : Prop :=
  ∃ offset, z.offset = some offset ∧ (microsPerDay ≤ offset.natAbs
    ∨ (z.moment.instant : Int) < offset ∨ (Moment.endInstant : Int) + offset ≤ z.moment.instant)

theorem toUniversal_fails_iff {z : ZonedMoment} : Fails z.toUniversal ↔ z.Outside := by
  obtain ⟨m, offset⟩ := z
  cases offset with
  | none => simp [ZonedMoment.toUniversal, ZonedMoment.Outside]
  | some offset =>
    have hshift : m.shift? (-offset) = none
        ↔ (m.instant : Int) < offset ∨ (Moment.endInstant : Int) + offset ≤ m.instant := by
      rw [Moment.shift?, Moment.ofInstant?_eq_none_iff]
      omega
    simp only [ZonedMoment.Outside, Option.some.injEq, exists_eq_left', ← hshift,
      ZonedMoment.toUniversal]
    split_ifs with hlarge
    · simp [hlarge]
    · cases m.shift? (-offset) <;> simp [hlarge]

/-- Whether a text states a moment outside the calendar: by its form, which can run past the last
day, or by its offset. -/
def StatesOutside (now : Moment) (cs : List Char) : Prop :=
  (∃ e, e ≠ .malformed ∧ Iso.read cs = .error e)
    ∨ (∃ z, Iso.read cs = .ok z ∧ z.Outside)
    ∨ (Iso.read cs = .error .malformed ∧ ∃ z, FreeForm.read? now cs = some z ∧ z.Outside)

theorem readMoment?_fails_iff {now : Moment} {cs : List Char} :
    Fails (readMoment? now cs) ↔ StatesOutside now cs := by
  unfold readMoment? StatesOutside
  rcases Iso.read cs with e | z
  · cases e with
    | malformed =>
      cases FreeForm.read? now cs with
      | none => simp
      | some z => simp [endsIn_map, toUniversal_fails_iff]
    | outOfRange | offsetTooLarge => simp
  · simp [endsIn_map, toUniversal_fails_iff]

/-- Whether a value is a text of a moment outside the calendar. -/
def Json.OutsideCalendar (now : Moment) (v : Json) : Prop :=
  ∃ s, v = .str s ∧ Text.trimChars s.toList ≠ [] ∧ StatesOutside now (Text.trimChars s.toList)

theorem Json.toMoment?_fails_iff {now : Moment} {v : Json} :
    Fails (v.toMoment? now) ↔ v.OutsideCalendar now := by
  cases v with
  | str s =>
    simp only [OutsideCalendar, toMoment?, Json.str.injEq, exists_eq_left', List.isEmpty_iff]
    split_ifs with hempty
    · simp [hempty]
    · simp [hempty, fails_mapError, readMoment?_fails_iff]
  | _ => simp [OutsideCalendar, toMoment?]

/-! ## Addresses -/

namespace WebAddress

/-- Whether the host of an address cannot be taken apart: by its brackets, or by a character that
stands for a delimiter. -/
def Ambiguous (cs : List Char) : Prop :=
  Fails (checkBrackets (split cs).2) ∨ ∃ c ∈ (split cs).2, c.toNat ∈ delimiterForms

theorem isWebAddress_fails_iff {cs : List Char} : Fails (isWebAddress cs) ↔ Ambiguous cs := by
  have hforms {host : List Char} : (host.any fun c => delimiterForms.contains c.toNat) = true
      ↔ ∃ c ∈ host, c.toNat ∈ delimiterForms := by
    simp only [List.any_eq_true, List.contains_iff_mem]
  rw [isWebAddress, Ambiguous, ← hforms]
  generalize split cs = parts
  obtain ⟨scheme, host⟩ := parts
  dsimp only
  rcases checkBrackets host with why | checked
  · simp
  · rw [ok_bind, or_iff_right not_endsIn_ok]
    split_ifs with hany
    · exact iff_of_true fails_error hany
    · exact iff_of_false not_endsIn_ok hany

end WebAddress

/-! ## Options in order -/

namespace Json

/-- Whether a value may be a limit: nothing or an integer. -/
def isLimit : Json → Bool
  | .null | .int _ => true
  | _ => false

/-- Whether a value may list choices: nothing or an array. -/
def isChoiceList : Json → Bool
  | .null | .arr _ => true
  | _ => false

/-- A limit that is not stated, or zero, is the default. -/
theorem orElse_of_isLimit {v : Json} (h : v.isLimit = true) (d : Int) :
    ∃ n, v.orElse (.int d) = .int n := by
  cases v with
  | null => exact ⟨d, rfl⟩
  | int n =>
    rw [orElse]
    split_ifs
    · exact ⟨n, rfl⟩
    · exact ⟨d, rfl⟩
  | _ => exact absurd h Bool.false_ne_true

theorem orElse_of_isChoiceList {v : Json} (h : v.isChoiceList = true) :
    ∃ items, v.orElse (.arr []) = .arr items := by
  cases v with
  | null => exact ⟨[], rfl⟩
  | arr items =>
    rw [orElse]
    split_ifs
    · exact ⟨items, rfl⟩
    · exact ⟨[], rfl⟩
  | _ => exact absurd h Bool.false_ne_true

/-- Whether a value may stand under a name in the options of a column. -/
def suits (v : Json) (name : String) : Bool :=
  if ["min", "max"].contains name then v.isBound
  else if ["max_length", "max_labels"].contains name then v.isLimit
  else if name == "options" then v.isChoiceList
  else true

end Json

/-- Whether options have numbers as bounds, integers as limits and lists of choices. -/
def Options.InOrder (o : Options) : Prop :=
  ∀ entry ∈ o, entry.2.suits entry.1 = true

namespace Options.InOrder

variable {o : Options} {t : ColumnType}

theorem defaults (t : ColumnType) : Options.InOrder t.defaultOptions := by
  cases t <;> exact List.all_eq_true.1 (by decide)

theorem insert {name : String} {v : Json} (h : o.InOrder) (hv : v.suits name = true) :
    Options.InOrder (Fields.insert o name v) := by
  induction o with
  | nil => exact List.forall_mem_singleton.2 hv
  | cons entry rest ih =>
    obtain ⟨n, w⟩ := entry
    obtain ⟨hentry, hrest⟩ := List.forall_mem_cons.1 h
    rw [Fields.insert]
    split_ifs with hname
    · exact List.forall_mem_cons.2 ⟨hv, hrest⟩
    · exact List.forall_mem_cons.2 ⟨hentry, ih hrest⟩

theorem overlay : (more : Options) → {o : Options} → o.InOrder → Options.InOrder more →
    Options.InOrder (Fields.overlay o more)
  | [], _, h, _ => h
  | _ :: more, _, h, hmore =>
    have hparts := List.forall_mem_cons.1 hmore
    overlay more (h.insert hparts.1) hparts.2

theorem effective (h : o.InOrder) : Options.InOrder (t.effectiveOptions o) :=
  overlay o (defaults t) h

theorem get (h : o.InOrder) (name : String) : (Fields.get o name).suits name = true := by
  induction o with
  | nil =>
    simp only [Json.suits]
    split_ifs <;> rfl
  | cons entry rest ih =>
    obtain ⟨n, w⟩ := entry
    obtain ⟨hentry, hrest⟩ := List.forall_mem_cons.1 h
    rw [Fields.get_cons]
    split_ifs with hname
    · exact hname ▸ hentry
    · exact ih hrest

theorem min (h : o.InOrder) : (Fields.get o "min").isBound = true := h.get "min"

theorem max (h : o.InOrder) : (Fields.get o "max").isBound = true := h.get "max"

theorem choices (h : o.InOrder) : ¬ Fails (Options.choices o) := by
  obtain ⟨items, hitems⟩ := Json.orElse_of_isChoiceList (h.get "options")
  simp [Options.choices, hitems, Json.elements, pure, Except.pure]

end Options.InOrder

/-! ## Validation -/

/-- The values on which the rules of a type fail. -/
def Json.Strays (now : Moment) (t : ColumnType) (o : Options) (v : Json) : Prop :=
  match t with
  | .number | .currency | .percentage =>
    v.Huge ∨ (∃ x, v.toNumber? = .ok (some x))
      ∧ ((Fields.get o "min").Huge ∨ (Fields.get o "max").Huge)
  | .date | .datetime => v.OutsideCalendar now
  | .url => ∃ s, v = .str s ∧ WebAddress.Ambiguous (Text.trimChars s.toList)
  | _ => False

section Rules

variable {env : Surroundings} {t : ColumnType} {o : Options} {v : Json}

theorem lengthProblems_total {s : String} {limit : Json} (h : ∃ n, limit = .int n) :
    ¬ Fails (lengthProblems s limit) := by
  obtain ⟨n, rfl⟩ := h
  exact not_endsIn_bind not_endsIn_ok fun _ => not_endsIn_pure

theorem boundProblems_fails_iff (ho : o.InOrder) (x : Binary64) : Fails (boundProblems o x)
    ↔ (Fields.get o "min").Huge ∨ (Fields.get o "max").Huge := by
  have hbound {bound : Json} (h : bound.isBound = true) {p : Binary64 → List ValueProblem}
      {rest : List ValueProblem → Except Fault (List ValueProblem)} {P : Prop}
      (hrest : ∀ ps, Fails (rest ps) ↔ P) :
      Fails (if bound.isNull then pure [] >>= rest
          else bound.toBound >>= fun b => pure (p b) >>= rest)
        ↔ bound.Huge ∨ P := by
    by_cases hnull : bound = .null
    · subst hnull
      rw [or_iff_right Json.not_huge_null]
      exact hrest []
    · have hstated : ¬ bound.isNull = true := fun h => hnull (Json.isNull_iff.1 h)
      rw [if_neg hstated, ← Json.toBound_fails_iff h hnull]
      exact fails_bind_of fun b _ => hrest (p b)
  rw [← or_false (Json.Huge (Fields.get o "max"))]
  exact hbound ho.min fun below => hbound ho.max fun above => iff_false_intro not_endsIn_pure

theorem problems_fails_iff (ho : o.InOrder) :
    Fails (problems env t o v) ↔ v.Strays env.now t o := by
  have hread {f : Option Binary64 → Except Fault (List ValueProblem)} (hnone : ¬ Fails (f none))
      (hsome : ∀ x, Fails (f (some x))
        ↔ (Fields.get o "min").Huge ∨ (Fields.get o "max").Huge) :
      Fails (v.toNumber? >>= f) ↔ v.Huge ∨ (∃ x, v.toNumber? = .ok (some x))
        ∧ ((Fields.get o "min").Huge ∨ (Fields.get o "max").Huge) := by
    rw [← Json.toNumber?_fails_iff, ← exists_and_right]
    refine endsIn_bind.trans (or_congr_right ((exists_ok_some_iff hnone).trans ?_))
    exact exists_congr fun x => and_congr_right fun _ => hsome x
  have hmoment : Fails (v.toMoment? env.now >>= fun m =>
      pure (unless' m.isSome .notDate)) ↔ v.OutsideCalendar env.now := by
    rw [fails_bind_of fun _ _ => iff_false_intro not_endsIn_pure, or_false,
      Json.toMoment?_fails_iff]
  cases t with
  | number | percentage => exact hread not_endsIn_pure (boundProblems_fails_iff ho)
  | currency =>
    refine hread not_endsIn_pure fun x => ?_
    rw [← boundProblems_fails_iff ho x, fails_bind_of fun _ _ => iff_false_intro not_endsIn_pure,
      or_false]
  | date | datetime => exact hmoment
  | status | priority => exact iff_of_false (not_endsIn_bind ho.choices fun _ => not_endsIn_pure) id
  | assignee | checkbox => exact iff_of_false not_endsIn_ok id
  | labels =>
    obtain ⟨n, hn⟩ := Json.orElse_of_isLimit (ho.get "max_labels") 10
    refine iff_of_false ?_ id
    simp only [problems]
    split
    · exact not_endsIn_ok
    · rw [hn]
      exact not_endsIn_bind not_endsIn_ok fun _ => not_endsIn_pure
  | text | longText =>
    refine iff_of_false ?_ id
    simp only [problems]
    split
    · exact lengthProblems_total (Json.orElse_of_isLimit (ho.get "max_length") _)
    · exact not_endsIn_ok
  | email | phone =>
    refine iff_of_false ?_ id
    simp only [problems]
    split
    · exact not_endsIn_bind (lengthProblems_total ⟨_, rfl⟩) fun _ => not_endsIn_pure
    · exact not_endsIn_ok
  | url =>
    cases v with
    | str s =>
      simp only [Json.Strays, Json.str.injEq, exists_eq_left', problems]
      rw [← WebAddress.isWebAddress_fails_iff, fails_bind_of fun long _ => ?_,
        or_iff_right (lengthProblems_total ⟨_, rfl⟩)]
      cases WebAddress.isWebAddress (Text.trimChars s.toList) with
      | ok valid => exact iff_of_false not_endsIn_pure not_endsIn_ok
      | error why => exact iff_of_true fails_error fails_error
    | _ => exact iff_of_false not_endsIn_ok (by simp [Json.Strays])

/-- What passes the reading in the rules is read again for its canonical form. -/
theorem canonicalForm_total (h : ¬ Fails (problems env t o v)) :
    ¬ Fails (canonicalForm env t o v) := by
  have hread {α β γ : Type} {x : Except Fault α} {f : α → Except Fault β} {g : α → γ}
      (h : ¬ Fails (x >>= f)) : ¬ Fails (x >>= fun a => pure (g a)) :=
    not_endsIn_bind (fun hx => h (endsIn_bind.2 (.inl hx))) fun _ => not_endsIn_pure
  cases t with
  | number | currency | percentage | date | datetime => exact hread h
  | _ => exact not_endsIn_ok

/-- Validation ends in a fault where its rules fail on a value that is not blank. -/
theorem validate_fault_iff_problems : EndsIn Rejection.fault (validate env t o v)
    ↔ v.isBlank = false ∧ Fails (problems env t (t.effectiveOptions o) v) := by
  have habsent {required : Bool} : ¬ EndsIn Rejection.fault (absent required) := by
    unfold absent
    split_ifs <;> simp [EndsIn]
  rw [validate]
  split_ifs with hblank
  · exact iff_of_false habsent fun h => by simp [hblank] at h
  · rw [and_iff_right (by simpa using hblank)]
    rcases hproblems : problems env t (t.effectiveOptions o) v with f | ps
    · exact iff_of_true ⟨f, rfl⟩ fails_error
    · refine iff_of_false ?_ not_endsIn_ok
      rcases ps with _ | ⟨p, ps⟩
      · have htotal : ¬ Fails (canonicalForm env t (t.effectiveOptions o) v) :=
          canonicalForm_total (by simp [hproblems])
        rcases hform : canonicalForm env t (t.effectiveOptions o) v with g | w
        · exact absurd ⟨g, hform⟩ htotal
        · simp only [Except.mapError, ok_bind]
          split_ifs
          · exact habsent
          · exact not_endsIn_ok
          · simp [EndsIn]
      · simp [Except.mapError, EndsIn]

/-- Under options in order, validation ends in a fault on the values that stray, and on no others:
what it says of the rest is a value or the problems with it. -/
theorem validate_fault_iff (ho : o.InOrder) : EndsIn Rejection.fault (validate env t o v)
    ↔ v.isBlank = false ∧ v.Strays env.now t (t.effectiveOptions o) := by
  rw [validate_fault_iff_problems, problems_fails_iff ho.effective]

end Rules

end BoardQuery
