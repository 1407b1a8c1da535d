import BoardQuery.Proofs.Value.Forms

/-!
# Conforming values

The values that a column may hold, each rule of its type being stated of the value itself with its
limit and its default (`Json.Conforms`). They are exactly the values that validation lets through as
they are (`validate_eq_self_iff`), and validation lets nothing else through, so validating twice is
validating once (`validate_conforming`).
-/

namespace BoardQuery

open Text

/-! ## Rules -/

/-- Whether a text is trimmed, not blank and within a limit. -/
structure Fits (limit : Json) (s : String) : Prop where
  trimmed : trim s = s
  nonblank : s ≠ ""
  short : countWithin s.length limit = .ok true

/-- Whether a number is at least the minimum and at most the maximum that options state. -/
structure Options.Bound (o : Options) (x : Binary64) : Prop where
  low : Fields.get o "min" = .null
    ∨ ∃ b, (Fields.get o "min").toBound = .ok b ∧ b.le x = true
  high : Fields.get o "max" = .null
    ∨ ∃ b, (Fields.get o "max").toBound = .ok b ∧ x.le b = true

/-- Whether text is one of the choices that options list. -/
def Options.Lists (o : Options) (s : String) : Prop :=
  ∃ choices, Options.choices o = .ok choices ∧ s ∈ choices

/-- Whether text is the id of a user: not blank, without blanks around it, and known. -/
structure Surroundings.IsUser (env : Surroundings) (s : String) : Prop where
  trimmed : trim s = s
  nonblank : s ≠ ""
  known : ∀ userExists ∈ env.userExists, userExists s = true

/-- The values that a column of a type may hold under its options. -/
inductive Json.Conforms (env : Surroundings) (t : ColumnType) (o : Options) : Json → Prop
  | nothing (hrequired : Options.flag o "required" = false) : Conforms env t o .null
  | text {s : String} (ht : t = .text)
    (hs : Fits ((Fields.get o "max_length").orElse (.int 255)) s) : Conforms env t o (.str s)
  | longText {s : String} (ht : t = .longText)
    (hs : Fits ((Fields.get o "max_length").orElse (.int 5000)) s) : Conforms env t o (.str s)
  | url {s : String} (ht : t = .url) (hs : Fits (.int 2048) s)
    (hshape : WebAddress.isWebAddress s.toList = .ok true) : Conforms env t o (.str s)
  | email {s : String} (ht : t = .email) (hs : Fits (.int 255) s)
    (hshape : isEmail s.toList = true) : Conforms env t o (.str s)
  | phone {s : String} (ht : t = .phone) (hs : Fits (.int 50) s)
    (hshape : isPhone s.toList = true) : Conforms env t o (.str s)
  | number {x : Binary64} (ht : t.family = .numeric) (hx : x.isFinite = true) (hbounds : o.Bound x)
    (hcurrency : t = .currency → Binary64.zero.le x = true) : Conforms env t o (.num x)
  | day {d : Date} (ht : t = .date) : Conforms env t o (.str d.text)
  | second {m : Moment} (ht : t = .datetime) : Conforms env t o (.str m.secondText)
  | choice {s : String} (ht : t.family = .enumerated) (hs : o.Lists s)
    (hblank : isBlankText s = false) : Conforms env t o (.str s)
  | user {s : String} (ht : t = .assignee) (hsingle : Options.flag o "multiple" = false)
    (hs : env.IsUser s) : Conforms env t o (.str s)
  | users {items : List String} (ht : t = .assignee) (hseveral : Options.flag o "multiple" = true)
    (hne : items ≠ []) (hnodup : items.Nodup) (hs : ∀ s ∈ items, env.IsUser s) :
    Conforms env t o (.ofStrings items)
  | labels {items : List String} (ht : t = .labels) (hne : items ≠ []) (hnodup : items.Nodup)
    (hs : ∀ s ∈ items, trim s = s ∧ s ≠ "") (hcount :
      countExceeds items.length ((Fields.get o "max_labels").orElse (.int 10)) = .ok false) :
    Conforms env t o (.ofStrings items)
  | checked {b : Bool} (ht : t = .checkbox) : Conforms env t o (.bool b)

section Rules

variable {env : Surroundings} {o : Options}

theorem isBlankText_eq_false {s : String} (htrim : trim s = s) :
    isBlankText s = false ↔ s ≠ "" := by
  constructor
  · rintro h rfl
    exact absurd h (by decide)
  · intro hne
    rw [← Bool.not_eq_true]
    intro hblank
    have hdrop : s.toList.dropWhile isBlank = [] :=
      List.dropWhile_eq_nil_iff.2 (List.all_eq_true.1 hblank)
    refine hne ?_
    rw [← htrim, trim, trimChars, trimBy, hdrop]
    rfl

theorem trimmedDistinct_eq_self_iff {items : List String} : trimmedDistinct items = items
    ↔ items.Nodup ∧ ∀ s ∈ items, trim s = s ∧ s ≠ "" := by
  constructor
  · intro h
    refine ⟨h ▸ nodup_distinct _, fun s hs => ?_⟩
    obtain ⟨hne, u, -, rfl⟩ := mem_trimmedDistinct.1 (h.symm ▸ hs)
    exact ⟨trim_trim u, hne⟩
  · rintro ⟨hnodup, hs⟩
    have hmap : items.map trim = items :=
      (List.map_congr_left fun s h => (hs s h).1).trans (List.map_id _)
    have hfilter : items.filter (· != "") = items :=
      List.filter_eq_self.2 fun s h => bne_iff_ne.2 (hs s h).2
    rw [trimmedDistinct, hmap, hfilter, distinct_of_nodup hnodup]

theorem isBlank_ofStrings {items : List String} :
    (Json.ofStrings items).isBlank = false ↔ items ≠ [] := by
  simp [Json.ofStrings, Json.isBlank]

theorem lengthProblems_eq_nil {s : String} {limit : Json} :
    lengthProblems s limit = .ok [] ↔ countWithin (trim s).length limit = .ok true := by
  rw [lengthProblems]
  cases countWithin (trim s).length limit <;> simp [unless'_eq_nil]

/-- The problems of a text are those of its length and those of its shape. -/
theorem append_eq_ok_nil {x : Except Fault (List ValueProblem)} {holds : Bool} {p : ValueProblem} :
    (do return (← x) ++ unless' holds p) = .ok [] ↔ x = .ok [] ∧ holds = true := by
  cases x <;> simp [unless'_eq_nil]

theorem Json.isNull_iff {v : Json} : v.isNull = true ↔ v = .null := by
  cases v <;> simp [isNull]

theorem boundProblems_eq_nil {x : Binary64} : boundProblems o x = .ok [] ↔ o.Bound x := by
  have hparts : o.Bound x ↔ (Fields.get o "min" = .null
        ∨ ∃ b, (Fields.get o "min").toBound = .ok b ∧ b.le x = true)
      ∧ (Fields.get o "max" = .null ∨ ∃ b, (Fields.get o "max").toBound = .ok b ∧ x.le b = true) :=
    ⟨fun h => ⟨h.low, h.high⟩, fun h => ⟨h.1, h.2⟩⟩
  rw [hparts, boundProblems, ← Json.isNull_iff, ← Json.isNull_iff]
  generalize Fields.get o "min" = low, Fields.get o "max" = high
  cases low.isNull <;> cases high.isNull <;> cases low.toBound <;> cases high.toBound <;>
    simp [unless'_eq_nil]

end Rules

/-! ## Values that are let through as they are -/

/-- A value that is not blank, passes the rules of a type, is its own canonical form, and names
users that exist. -/
structure Json.Passes (env : Surroundings) (t : ColumnType) (o : Options) (v : Json) : Prop where
  nonblank : v.isBlank = false
  rules : problems env t o v = .ok []
  form : canonicalForm env t o v = .ok v
  known : env.Knows t v

section Types

variable {env : Surroundings} {t : ColumnType} {o : Options} {v : Json}

theorem Json.Passes.conforms_text (ht : t.family = .text) (h : v.Passes env t o) :
    v.Conforms env t o := by
  obtain ⟨hnonblank, hrules, hform, -⟩ := h
  obtain ⟨s, rfl⟩ := exists_text_of_problems ht hrules
  have htrim : trim s = s := by
    cases t <;> first | exact absurd ht (by decide) | exact Json.str.inj (Except.ok.inj hform)
  have hne := (isBlankText_eq_false htrim).1 hnonblank
  have hchars : trimChars s.toList = s.toList := by rw [← trim_toList, htrim]
  cases t with
  | text =>
    rw [problems, lengthProblems_eq_nil, htrim] at hrules
    exact .text rfl ⟨htrim, hne, hrules⟩
  | longText =>
    rw [problems, lengthProblems_eq_nil, htrim] at hrules
    exact .longText rfl ⟨htrim, hne, hrules⟩
  | url =>
    simp only [problems, hchars] at hrules
    cases hshape : WebAddress.isWebAddress s.toList with
    | error why =>
      rw [hshape] at hrules
      cases hlong : lengthProblems s (.int 2048) <;> simp [hlong] at hrules
    | ok valid =>
      rw [hshape] at hrules
      rw [append_eq_ok_nil, lengthProblems_eq_nil, htrim] at hrules
      exact .url rfl ⟨htrim, hne, hrules.1⟩ (hrules.2 ▸ hshape)
  | email =>
    simp only [problems, hchars] at hrules
    rw [append_eq_ok_nil, lengthProblems_eq_nil, htrim] at hrules
    exact .email rfl ⟨htrim, hne, hrules.1⟩ hrules.2
  | phone =>
    simp only [problems, hchars] at hrules
    rw [append_eq_ok_nil, lengthProblems_eq_nil, htrim] at hrules
    exact .phone rfl ⟨htrim, hne, hrules.1⟩ hrules.2
  | _ => exact absurd ht (by decide)

theorem Json.Passes.conforms_number (ht : t.family = .numeric) (h : v.Passes env t o) :
    v.Conforms env t o := by
  obtain ⟨hnonblank, hrules, hform, -⟩ := h
  have hcanonical := canonicalOf_number ht hform (by rintro rfl; exact absurd hnonblank (by decide))
  cases hcanonical with
  | @number x _ hx =>
    have hnum := toNumber?_num hx
    cases t with
    | number | percentage =>
      simp only [problems, hnum, ok_bind, boundProblems_eq_nil] at hrules
      exact .number ht hx hrules (by simp)
    | currency =>
      simp only [problems, hnum, ok_bind, bind_eq_ok, pure_eq_ok, List.append_eq_nil_iff,
        unless'_eq_nil] at hrules
      obtain ⟨_, hbounds, hzero, rfl⟩ := hrules
      exact .number ht hx (boundProblems_eq_nil.1 hbounds) fun _ => hzero
    | _ => exact absurd ht (by decide)
  | _ => simp_all [ColumnType.family]

theorem Json.Passes.conforms_date (ht : t.family = .date) (h : v.Passes env t o) :
    v.Conforms env t o := by
  have hcanonical := canonicalOf_date ht h.form (by
    rintro rfl
    exact absurd h.nonblank (by decide))
  cases hcanonical with
  | day ht => exact .day ht
  | second ht => exact .second ht
  | _ => simp_all [ColumnType.family]

theorem Json.Passes.conforms_choice (ht : t.family = .enumerated) (h : v.Passes env t o) :
    v.Conforms env t o := by
  have hrules : ∃ choices,
      Options.choices o = .ok choices ∧ v.str?.any choices.contains = true := by
    have hrules := h.rules
    cases t <;> first | exact absurd ht (by decide) | skip
    all_goals
      simpa only [problems, bind_eq_ok, pure_eq_ok, unless'_eq_nil] using hrules
  obtain ⟨choices, hchoices, hany⟩ := hrules
  cases v with
  | str s => exact .choice ht ⟨choices, hchoices, by simpa [Json.str?] using hany⟩ h.nonblank
  | _ => exact absurd hany (by simp [Json.str?])

theorem Json.Passes.conforms_assignee (h : v.Passes env .assignee o) :
    v.Conforms env .assignee o := by
  have hknown := h.known rfl
  cases canonicalOf_assignee h.form h.nonblank with
  | @user s _ hsingle htrim =>
    refine .user rfl hsingle ⟨htrim, (isBlankText_eq_false htrim).1 h.nonblank, fun f hf => ?_⟩
    exact hknown f hf s (List.mem_singleton_self s)
  | @users items _ hseveral hne hitems =>
    obtain ⟨hnodup, hs⟩ := trimmedDistinct_eq_self_iff.1 hitems
    refine .users rfl hseveral hne hnodup fun s hmem =>
      ⟨(hs s hmem).1, (hs s hmem).2, fun f hf => ?_⟩
    exact hknown f hf s (by rwa [userIds, listed?_ofStrings])
  | _ => simp_all [ColumnType.family]

theorem Json.Passes.conforms_labels (h : v.Passes env .labels o) : v.Conforms env .labels o := by
  have hrules := h.rules
  cases canonicalOf_labels h.form h.nonblank with
  | @labels items _ hne hitems =>
    obtain ⟨hnodup, hs⟩ := trimmedDistinct_eq_self_iff.1 hitems
    simp only [problems, listed?_ofStrings, hitems, bind_eq_ok, pure_eq_ok, unless'_eq_nil,
      Bool.not_eq_true'] at hrules
    obtain ⟨exceeds, hcount, rfl⟩ := hrules
    exact .labels rfl hne hnodup hs hcount
  | _ => simp_all [ColumnType.family]

theorem Json.Passes.conforms (h : v.Passes env t o) : v.Conforms env t o := by
  cases ht : t.family with
  | text => exact h.conforms_text ht
  | numeric => exact h.conforms_number ht
  | date => exact h.conforms_date ht
  | enumerated => exact h.conforms_choice ht
  | assignee =>
    obtain rfl : t = .assignee := ColumnType.eq_of_family ht (by decide)
    exact h.conforms_assignee
  | labels =>
    obtain rfl : t = .labels := ColumnType.eq_of_family ht (by decide)
    exact h.conforms_labels
  | checkbox =>
    obtain rfl : t = .checkbox := ColumnType.eq_of_family ht (by decide)
    cases canonicalOf_checked h.form (by rintro rfl; exact absurd h.nonblank (by decide)) with
    | checked => exact .checked rfl
    | _ => simp_all [ColumnType.family]

theorem knows_of_ne (ht : t ≠ .assignee) : env.Knows t v :=
  fun h => absurd h ht

/-- What trimming leaves alone passes the rules of texts if it fits. -/
theorem Fits.passes {s : String} {limit : Json} (hs : Fits limit s)
    (hrules : problems env t o (.str s) = .ok []) (ht : t.family = .text) :
    Json.Passes env t o (.str s) := by
  refine ⟨(isBlankText_eq_false hs.trimmed).2 hs.nonblank, hrules, ?_, knows_of_ne ?_⟩
  · cases t <;> first | exact absurd ht (by decide) | simp only [canonicalForm, hs.trimmed]
  · rintro rfl
    exact absurd ht (by decide)

theorem Fits.lengthProblems {s : String} {limit : Json} (hs : Fits limit s) :
    lengthProblems s limit = .ok [] := by
  rw [lengthProblems_eq_nil, hs.trimmed, hs.short]

theorem Fits.trimChars_eq {s : String} {limit : Json} (hs : Fits limit s) :
    trimChars s.toList = s.toList := by
  rw [← trim_toList, hs.trimmed]

theorem isBlankText_dateText (d : Date) : isBlankText d.text = false := by
  have htrim : trim d.text = d.text := by
    rw [trim, Date.text, String.toList_ofList, trimChars_dateChars]
  refine (isBlankText_eq_false htrim).2 fun hempty => ?_
  have hchars := congrArg String.toList hempty
  simp [Date.text, Date.chars] at hchars

theorem isBlankText_secondText (m : Moment) : isBlankText m.secondText = false := by
  have htrim : trim m.secondText = m.secondText := by
    rw [trim, Moment.secondText, String.toList_ofList, trimChars_secondChars]
  refine (isBlankText_eq_false htrim).2 fun hempty => ?_
  have hchars := congrArg String.toList hempty
  simp [Moment.secondText] at hchars

theorem passes_num {x : Binary64} (ht : t.family = .numeric) (hx : x.isFinite = true)
    (hbounds : o.Bound x) (hcurrency : t = .currency → Binary64.zero.le x = true) :
    Json.Passes env t o (.num x) := by
  have hnum := toNumber?_num hx
  refine ⟨rfl, ?_, ?_, knows_of_ne ?_⟩
  · cases t with
    | number | percentage =>
      simpa only [problems, hnum, ok_bind] using boundProblems_eq_nil.2 hbounds
    | currency =>
      simp only [problems, hnum, ok_bind, hcurrency rfl, boundProblems_eq_nil.2 hbounds]
      rfl
    | _ => exact absurd ht (by decide)
  · cases t <;> first | exact absurd ht (by decide) | simp only [canonicalForm, hnum]
    all_goals rfl
  · rintro rfl
    exact absurd ht (by decide)

theorem Options.Lists.passes {s : String} (hs : o.Lists s) (ht : t.family = .enumerated)
    (hblank : isBlankText s = false) : Json.Passes env t o (.str s) := by
  obtain ⟨choices, hchoices, hmem⟩ := hs
  have hany : (Json.str s).str?.any choices.contains = true := by simpa [Json.str?] using hmem
  refine ⟨hblank, ?_, ?_, knows_of_ne ?_⟩
  · cases t <;> first | exact absurd ht (by decide) | skip
    all_goals
      simp only [problems, hchoices, ok_bind, hany]
      rfl
  · cases t <;> first | exact absurd ht (by decide) | rfl
  · rintro rfl
    exact absurd ht (by decide)

theorem Surroundings.IsUser.passes {s : String} (hs : env.IsUser s)
    (hsingle : Options.flag o "multiple" = false) : Json.Passes env .assignee o (.str s) := by
  refine ⟨(isBlankText_eq_false hs.trimmed).2 hs.nonblank, ?_, ?_, fun _ f hf id hid => ?_⟩
  · simp [problems, hsingle, Json.str?, unless'_eq_nil]
  · simp [canonicalForm, hsingle, hs.trimmed]
  · rw [List.mem_singleton.1 hid]
    exact hs.known f hf

theorem passes_users {items : List String} (hseveral : Options.flag o "multiple" = true)
    (hne : items ≠ []) (hnodup : items.Nodup) (hs : ∀ s ∈ items, env.IsUser s) :
    Json.Passes env .assignee o (.ofStrings items) := by
  have hitems := trimmedDistinct_eq_self_iff.2
    ⟨hnodup, fun s hmem => ⟨(hs s hmem).trimmed, (hs s hmem).nonblank⟩⟩
  refine ⟨isBlank_ofStrings.2 hne, ?_, ?_, fun _ f hf id hid => ?_⟩
  · simp [problems, hseveral, strings?_ofStrings, unless'_eq_nil]
  · simp [canonicalForm, hseveral, listed?_ofStrings, hitems]
  · rw [userIds, listed?_ofStrings] at hid
    exact (hs id hid).known f hf

theorem passes_labels {items : List String} (hne : items ≠ []) (hnodup : items.Nodup)
    (hs : ∀ s ∈ items, trim s = s ∧ s ≠ "")
    (hcount :
      countExceeds items.length ((Fields.get o "max_labels").orElse (.int 10)) = .ok false) :
    Json.Passes env .labels o (.ofStrings items) := by
  have hitems := trimmedDistinct_eq_self_iff.2 ⟨hnodup, hs⟩
  refine ⟨isBlank_ofStrings.2 hne, ?_, ?_, knows_of_ne (by decide)⟩
  · simp [problems, listed?_ofStrings, hitems, hcount, unless'_eq_nil]
  · simp [canonicalForm, listed?_ofStrings, hitems]

theorem Json.Conforms.passes (h : v.Conforms env t o) (hv : v ≠ .null) : v.Passes env t o := by
  cases h with
  | nothing => exact absurd rfl hv
  | text ht hs | longText ht hs =>
    subst ht
    exact hs.passes hs.lengthProblems rfl
  | url ht hs hshape =>
    subst ht
    refine hs.passes ?_ rfl
    simp only [problems, hs.trimChars_eq, hshape, hs.lengthProblems]
    rfl
  | email ht hs hshape | phone ht hs hshape =>
    subst ht
    refine hs.passes ?_ rfl
    simp only [problems, hs.trimChars_eq, hshape, hs.lengthProblems]
    rfl
  | number ht hx hbounds hcurrency => exact passes_num ht hx hbounds hcurrency
  | day ht =>
    subst ht
    refine ⟨isBlankText_dateText _, ?_, ?_, knows_of_ne (by decide)⟩ <;>
      simp only [problems, canonicalForm, Json.toMoment?_dateText, ok_bind]
    all_goals rfl
  | second ht =>
    subst ht
    refine ⟨isBlankText_secondText _, ?_, ?_, knows_of_ne (by decide)⟩ <;>
      simp only [problems, canonicalForm, Json.toMoment?_secondText, ok_bind,
        Moment.secondText_wholeSecond]
    all_goals rfl
  | choice ht hs hblank => exact hs.passes ht hblank
  | user ht hsingle hs => exact ht ▸ hs.passes hsingle
  | users ht hseveral hne hnodup hs => exact ht ▸ passes_users hseveral hne hnodup hs
  | labels ht hne hnodup hs hcount => exact ht ▸ passes_labels hne hnodup hs hcount
  | checked ht =>
    subst ht
    exact ⟨rfl, rfl, rfl, knows_of_ne (by decide)⟩

end Types

section Validation

variable {env : Surroundings} {t : ColumnType} {o : Options} {v w : Json}

theorem validate_null_eq_ok : validate env t o .null = .ok .null
    ↔ Options.flag (t.effectiveOptions o) "required" = false := by
  cases hrequired : Options.flag (t.effectiveOptions o) "required" <;>
    simp [validate, Json.isBlank, absent, hrequired]

/-- The values that a column may hold are those that validation lets through as they are. -/
theorem validate_eq_self_iff :
    validate env t o v = .ok v ↔ v.Conforms env t (t.effectiveOptions o) := by
  by_cases hv : v = .null
  · subst hv
    rw [validate_null_eq_ok]
    refine ⟨.nothing, fun h => ?_⟩
    generalize hw : Json.null = w at h
    cases h with
    | nothing hrequired => exact hrequired
    | _ => exact Json.noConfusion hw
  · constructor
    · intro h
      rcases validate_eq_ok h with ⟨hnull, -⟩ | ⟨hblank, hproblems, hform, -, hknown⟩
      · exact absurd hnull hv
      · exact Json.Passes.conforms ⟨hblank, hproblems, hform, hknown⟩
    · intro h
      obtain ⟨hblank, hproblems, hform, hknown⟩ := h.passes hv
      exact validate_of_form hblank hproblems hform hblank hknown

/-- What has been let through is let through again. -/
theorem validate_again (h : validate env t o v = .ok w) {env' : Surroundings}
    (husers : env'.userExists = env.userExists) : validate env' t o w = .ok w := by
  by_cases hw : w = .null
  · subst hw
    rcases validate_eq_ok h with ⟨-, hrequired⟩ | ⟨-, -, -, hblank, -⟩
    · exact validate_null_eq_ok.2 hrequired
    · exact absurd hblank (by decide)
  · exact validate_idempotent h hw husers

/-- What validation lets through conforms to the rules of the type, and is let through again without
change as long as the same users exist. -/
theorem validate_conforming (h : validate env t o v = .ok w) (env' : Surroundings)
    (husers : env'.userExists = env.userExists) :
    validate env' t o w = .ok w ∧ w.Conforms env' t (t.effectiveOptions o)
      ∧ (w ≠ .null → problems env' t (t.effectiveOptions o) w = .ok []) := by
  have hagain := validate_again h husers
  have hconforms := validate_eq_self_iff.1 hagain
  exact ⟨hagain, hconforms, fun hw => (hconforms.passes hw).rules⟩

end Validation

section Example

/-- Those with a short id are users. -/
def shortIds : Surroundings := ⟨Moment.first, some fun s => s.length ≤ 3⟩

def severalUsers : Options := [("multiple", .bool true), ("required", .bool true)]

/-- Users within blanks and twice over are let through as the two users that they are. -/
theorem validate_conforming_users :
    validate shortIds .assignee severalUsers (.ofStrings [" ann", "bob", "", "ann "])
        = .ok (.ofStrings ["ann", "bob"])
      ∧ validate shortIds .assignee severalUsers (.ofStrings ["ann", "bob"])
        = .ok (.ofStrings ["ann", "bob"])
      ∧ (Json.ofStrings ["ann", "bob"]).Conforms shortIds .assignee
        (ColumnType.assignee.effectiveOptions severalUsers) :=
  have h : validate shortIds .assignee severalUsers (.ofStrings [" ann", "bob", "", "ann "])
      = .ok (.ofStrings ["ann", "bob"]) := by rfl
  have hagain := validate_conforming h shortIds rfl
  ⟨h, hagain.1, hagain.2.1⟩

end Example

end BoardQuery
