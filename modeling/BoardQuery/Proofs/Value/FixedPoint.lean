import BoardQuery.Proofs.Calendar.ReadBack
import BoardQuery.Proofs.Outcome
import BoardQuery.Proofs.Value.Distinct

/-!
# Canonical values are accepted as they are

A value that validation has let through is let through again without change
(`validate_idempotent`), at any later time and under the same options, as long as the same users
exist.
-/

namespace BoardQuery

open Text

/-- Whether all the users that a value names exist. Only values of assignee columns name users. -/
def Surroundings.Knows (env : Surroundings) (t : ColumnType) (v : Json) : Prop :=
  t = .assignee → ∀ userExists ∈ env.userExists, ∀ id ∈ userIds v, userExists id = true

section Validation

variable {env : Surroundings} {t : ColumnType} {o : Options} {v w : Json}

theorem strangers_isEmpty : (match t, env.userExists with
    | .assignee, some userExists => (userIds w).filter (!userExists ·)
    | _, _ => []).isEmpty = true ↔ env.Knows t w := by
  unfold Surroundings.Knows
  split
  · rename_i userExists heq
    simp [heq]
  · rename_i hne
    simp only [List.isEmpty_nil, true_iff]
    rintro rfl userExists huser
    exact absurd huser (hne userExists rfl)

/-- What validation lets through: nothing, or the canonical form of a value that passes the rules
of its type. -/
theorem validate_eq_ok (h : validate env t o v = .ok w) :
    w = .null ∧ Options.flag (t.effectiveOptions o) "required" = false
      ∨ v.isBlank = false ∧ problems env t (t.effectiveOptions o) v = .ok []
        ∧ canonicalForm env t (t.effectiveOptions o) v = .ok w ∧ w.isBlank = false
        ∧ env.Knows t w := by
  have habsent {required : Bool} (h : absent required = .ok w) : w = .null ∧ required = false := by
    unfold absent at h
    split_ifs at h with hrequired
    exact ⟨(Except.ok.inj h).symm, by simpa using hrequired⟩
  simp only [validate] at h
  split_ifs at h with hblank
  · exact .inl (habsent h)
  · simp only [bind_eq_ok, mapError_eq_ok] at h
    obtain ⟨ps, hps, h⟩ := h
    split at h
    · simp only [bind_eq_ok, mapError_eq_ok] at h
      obtain ⟨u, hu, h⟩ := h
      split_ifs at h with hu' hknown
      · exact .inl (habsent h)
      · obtain rfl := Except.ok.inj h
        exact .inr ⟨by simpa using hblank, hps, hu, by simpa using hu', strangers_isEmpty.1 hknown⟩
    · exact absurd h (by simp)

theorem validate_of_form (hv : v.isBlank = false)
    (hproblems : problems env t (t.effectiveOptions o) v = .ok [])
    (hform : canonicalForm env t (t.effectiveOptions o) v = .ok w) (hw : w.isBlank = false)
    (hknows : env.Knows t w) : validate env t o v = .ok w := by
  have hempty := strangers_isEmpty.2 hknows
  simp only [validate, hv, hproblems, hform, Bool.false_eq_true, if_false, Except.mapError, ok_bind]
  rw [if_neg (by simp [hw])]
  exact if_pos hempty

end Validation

/-! ## Type by type -/

/-- Assignees, labels and truth values are alone in their families. -/
theorem ColumnType.eq_of_family {t u : ColumnType} (h : t.family = u.family)
    (hu : u = .assignee ∨ u = .labels ∨ u = .checkbox) : t = u := by
  rcases hu with rfl | rfl | rfl <;> cases t <;> first | rfl | exact absurd h (by decide)

section Types

variable {env env' : Surroundings} {o : Options} {v w : Json}

theorem unless'_eq_nil {holds : Bool} {p : ValueProblem} : unless' holds p = [] ↔ holds = true := by
  unfold unless'
  split_ifs with h <;> simp [h]

theorem lengthProblems_trim (s : String) (limit : Json) :
    lengthProblems (trim s) limit = lengthProblems s limit := by
  rw [lengthProblems, lengthProblems, trim_trim]

theorem trimChars_trim (s : String) : trimChars (trim s).toList = trimChars s.toList := by
  rw [trim_toList, trimChars_trimChars]

theorem problems_trim {t : ColumnType} (ht : t.family = .text) (s : String) :
    problems env' t o (.str (trim s)) = problems env t o (.str s) := by
  cases t <;> first | exact absurd ht (by decide) | skip
  all_goals simp only [problems, lengthProblems_trim, trimChars_trim]

theorem exists_text_of_problems {t : ColumnType} (ht : t.family = .text)
    (h : problems env t o v = .ok []) : ∃ s, v = .str s := by
  cases v
  case str s => exact ⟨s, rfl⟩
  all_goals
    cases t <;> first | exact absurd ht (by decide) | skip
    all_goals exact absurd (Except.ok.inj h) (by simp)

theorem fixed_text {t : ColumnType} (ht : t.family = .text) (h : problems env t o v = .ok [])
    (hform : canonicalForm env t o v = .ok w) :
    problems env' t o w = .ok [] ∧ canonicalForm env' t o w = .ok w := by
  obtain ⟨s, rfl⟩ := exists_text_of_problems ht h
  have hw : w = .str (trim s) := by
    cases t <;> first | exact absurd ht (by decide) | exact (Except.ok.inj hform).symm
  subst hw
  refine ⟨(problems_trim ht s).trans h, ?_⟩
  cases t <;> first | exact absurd ht (by decide) | skip
  all_goals simp only [canonicalForm, trim_trim]

theorem isFinite_of_toNumber? {x : Binary64} (h : v.toNumber? = .ok (some x)) :
    x.isFinite = true := by
  have hguard {y : Binary64} (hy : (if y.isFinite then some y else none) = some x) :
      x.isFinite = true := by
    split_ifs at hy with hfinite
    rw [← Option.some.inj hy]
    exact hfinite
  cases v with
  | int n =>
    simp only [Json.toNumber?] at h
    split at h
    · rename_i y hy
      obtain rfl := Option.some.inj (Except.ok.inj h)
      exact hguard hy
    · exact absurd h (by simp)
  | num y => exact hguard (Except.ok.inj h)
  | str s => exact (Option.filter_eq_some_iff.1 (Except.ok.inj h)).2
  | null => exact absurd h (by simp [Json.toNumber?])
  | bool b => exact absurd h (by simp [Json.toNumber?])
  | arr items => exact absurd h (by simp [Json.toNumber?])
  | obj fields => exact absurd h (by simp [Json.toNumber?])

theorem toNumber?_num {x : Binary64} (h : x.isFinite = true) :
    (Json.num x).toNumber? = .ok (some x) := by
  rw [Json.toNumber?, if_pos h]

/-- A number is canonical as it is, and what passed the rules was one. -/
theorem fixed_numeric {t : ColumnType} (ht : t.family = .numeric) (h : problems env t o v = .ok [])
    (hform : canonicalForm env t o v = .ok w) :
    problems env' t o w = .ok [] ∧ canonicalForm env' t o w = .ok w := by
  have hread : ∃ x, v.toNumber? = .ok (some x) := by
    cases t <;> first | exact absurd ht (by decide) | skip
    all_goals
      simp only [problems, bind_eq_ok] at h
      obtain ⟨x, hx, h⟩ := h
      rcases x with _ | x
      · exact absurd h (by simp)
      · exact ⟨x, hx⟩
  obtain ⟨x, hx⟩ := hread
  have hnum := toNumber?_num (isFinite_of_toNumber? hx)
  have hw : w = .num x := by
    cases t <;> first | exact absurd ht (by decide) | skip
    all_goals
      simp only [canonicalForm, hx, ok_bind, pure_eq_ok] at hform
      exact hform.symm
  subst hw
  cases t <;> first | exact absurd ht (by decide) | skip
  all_goals
    simp only [problems, hx, ok_bind] at h
    simp only [problems, canonicalForm, hnum, ok_bind]
    exact ⟨h, rfl⟩

/-- The written form of a day or a second is read back as the same day or second. -/
theorem fixed_date {t : ColumnType} (ht : t.family = .date) (h : problems env t o v = .ok [])
    (hform : canonicalForm env t o v = .ok w) :
    problems env' t o w = .ok [] ∧ canonicalForm env' t o w = .ok w := by
  have hread : ∃ m, v.toMoment? env.now = .ok (some m) := by
    cases t <;> first | exact absurd ht (by decide) | skip
    all_goals
      simp only [problems, bind_eq_ok, pure_eq_ok, unless'_eq_nil] at h
      obtain ⟨m, hm, hsome⟩ := h
      obtain ⟨m, rfl⟩ := Option.isSome_iff_exists.1 hsome
      exact ⟨m, hm⟩
  obtain ⟨m, hm⟩ := hread
  cases t <;> first | exact absurd ht (by decide) | skip
  · simp only [canonicalForm, hm, ok_bind, pure_eq_ok] at hform
    subst hform
    simp only [problems, canonicalForm, Json.toMoment?_dateText, ok_bind]
    exact ⟨rfl, rfl⟩
  · simp only [canonicalForm, hm, ok_bind, pure_eq_ok] at hform
    subst hform
    simp only [problems, canonicalForm, Json.toMoment?_secondText, ok_bind,
      Moment.secondText_wholeSecond]
    exact ⟨rfl, rfl⟩

/-- The rules of lists of labels only look at the labels without blanks and repetitions. -/
theorem fixed_labels (h : problems env .labels o v = .ok [])
    (hform : canonicalForm env .labels o v = .ok w) :
    problems env' .labels o w = .ok [] ∧ canonicalForm env' .labels o w = .ok w := by
  have hread : ∃ items, listed? v = some items := by
    simp only [problems] at h
    split at h
    · exact absurd h (by simp)
    · exact ⟨_, ‹_›⟩
  obtain ⟨items, hitems⟩ := hread
  have hw : w = .ofStrings (trimmedDistinct items) := by
    simp only [canonicalForm, hitems, Option.getD_some] at hform
    exact (Except.ok.inj hform).symm
  subst hw
  simp only [problems, hitems] at h
  simp only [problems, canonicalForm, listed?_ofStrings, trimmedDistinct_trimmedDistinct,
    Option.getD_some]
  exact ⟨h, trivial⟩

theorem fixed_assignee (h : problems env .assignee o v = .ok [])
    (hform : canonicalForm env .assignee o v = .ok w) :
    problems env' .assignee o w = .ok [] ∧ canonicalForm env' .assignee o w = .ok w := by
  simp only [problems, Except.ok.injEq, unless'_eq_nil, Bool.or_eq_true, Bool.and_eq_true] at h
  simp only [canonicalForm, Except.ok.injEq] at hform
  by_cases hmultiple : Options.flag o "multiple" = true
  · rw [if_pos hmultiple] at hform
    subst hform
    simp only [problems, canonicalForm, hmultiple, if_true, listed?_ofStrings, strings?_ofStrings,
      Option.getD_some, trimmedDistinct_trimmedDistinct, Option.isSome_some, Bool.and_self,
      Bool.or_true, Except.ok.injEq, unless'_eq_nil]
    trivial
  · obtain ⟨s, hs⟩ := Option.isSome_iff_exists.1
      (h.resolve_right fun hlist => hmultiple hlist.1)
    obtain rfl : v = .str s := by
      cases v
      case str => exact congrArg Json.str (Option.some.inj hs)
      all_goals exact absurd hs (by simp [Json.str?])
    rw [if_neg hmultiple] at hform
    subst hform
    simp [problems, canonicalForm, hmultiple, Json.str?, unless'_eq_nil]

theorem fixed_checkbox (h : problems env .checkbox o v = .ok [])
    (hform : canonicalForm env .checkbox o v = .ok w) :
    problems env' .checkbox o w = .ok [] ∧ canonicalForm env' .checkbox o w = .ok w := by
  simp only [problems, Except.ok.injEq, unless'_eq_nil] at h
  obtain ⟨b, hb⟩ := Option.isSome_iff_exists.1 h
  simp only [canonicalForm, hb, Except.ok.injEq] at hform
  subst hform
  exact ⟨rfl, rfl⟩

theorem fixed_enumerated {t : ColumnType} (ht : t.family = .enumerated)
    (h : problems env t o v = .ok []) (hform : canonicalForm env t o v = .ok w) :
    problems env' t o w = .ok [] ∧ canonicalForm env' t o w = .ok w := by
  cases t <;> first | exact absurd ht (by decide) | skip
  all_goals
    obtain rfl := Except.ok.inj hform
    exact ⟨h, rfl⟩

end Types

/-- The canonical form of a value that passes the rules of a type passes them, and is its own
canonical form. -/
theorem canonicalForm_fixed (env' : Surroundings) {env : Surroundings} {t : ColumnType}
    {o : Options} {v w : Json}
    (h : problems env t o v = .ok []) (hform : canonicalForm env t o v = .ok w) :
    problems env' t o w = .ok [] ∧ canonicalForm env' t o w = .ok w := by
  cases hfamily : t.family with
  | text => exact fixed_text hfamily h hform
  | numeric => exact fixed_numeric hfamily h hform
  | date => exact fixed_date hfamily h hform
  | enumerated => exact fixed_enumerated hfamily h hform
  | assignee =>
    obtain rfl : t = .assignee := ColumnType.eq_of_family hfamily (by decide)
    exact fixed_assignee h hform
  | labels =>
    obtain rfl : t = .labels := ColumnType.eq_of_family hfamily (by decide)
    exact fixed_labels h hform
  | checkbox =>
    obtain rfl : t = .checkbox := ColumnType.eq_of_family hfamily (by decide)
    exact fixed_checkbox h hform

/-- A value that validation has let through is let through as it is. -/
theorem validate_idempotent {env env' : Surroundings} {t : ColumnType} {o : Options} {v w : Json}
    (h : validate env t o v = .ok w) (hw : w ≠ .null)
    (husers : env'.userExists = env.userExists) : validate env' t o w = .ok w := by
  rcases validate_eq_ok h with ⟨hnull, -⟩ | ⟨-, hproblems, hform, hblank, hknows⟩
  · exact absurd hnull hw
  · obtain ⟨hproblems', hform'⟩ := canonicalForm_fixed env' hproblems hform
    refine validate_of_form hblank hproblems' hform' hblank fun ht userExists hexists => ?_
    rw [husers] at hexists
    exact hknows ht userExists hexists

end BoardQuery
