import BoardQuery.Proofs.Query.StatedParameters
import BoardQuery.Service.Settings

/-!
# Rules for parameters

Every parameter of a request for tasks has a rule by itself, but for the three that may state a
filter: they are ruled together, and the name of a filter is missed only if the filter is to be
saved. Parameters that keep all rules state a query (`TaskQuery.StatedBy`), and others are refused
under the names of exactly those that break theirs (`TaskQuery.Breaks`). The one gap is a count that
is infinite: it breaks its rule, but has no answer (`ofParameters_answers`).
-/

namespace BoardQuery

namespace TaskQuery

variable {l : Limits} {ps : Fields} {name : String}

/-- The text that a filter is read from: that of one parameter, if the other and the saved filter
are left out. -/
inductive ReadsText (l : Limits) (ps : Fields) : String → String → Prop
  | array {s : String} (h : Fields.get ps "filters" = .str s)
    (halone : Fields.get ps "filters_json" = .null)
    (hsaved : (Fields.get ps "saved_filter_id").truthy = false) : ReadsText l ps "filters" s
  | text {s : String} (h : Fields.get ps "filters_json" = .str s)
    (halone : Fields.get ps "filters" = .null)
    (hsaved : (Fields.get ps "saved_filter_id").truthy = false)
    (hlimit : (s.length : Int) ≤ l.filtersText) : ReadsText l ps "filters_json" s

/-- The filter that a request states: the document that a text is, or else the array. -/
inductive StatesFilter (l : Limits) (ps : Fields) : Json → Prop
  | read {name s : String} {v : Json} (h : ReadsText l ps name s) (hv : Json.read s = .ok v) :
    StatesFilter l ps v
  | array (htext : Fields.get ps "filters_json" = .null)
    (h : (Fields.get ps "filters").str? = none) : StatesFilter l ps (Fields.get ps "filters")
  | saved (h : (Fields.get ps "saved_filter_id").truthy = true) :
    StatesFilter l ps (Fields.get ps "filters")

/-- Whether a request breaks the rule of a parameter. -/
def Breaks (l : Limits) (ps : Fields) : String → Prop
  | "filters" =>
    Fields.get ps "filters" ≠ .null ∧ Fields.get ps "filters_json" ≠ .null
      ∨ ∃ s, ReadsText l ps "filters" s ∧ Json.read s = .error .malformed
  | "filters_json" =>
    Fields.get ps "filters" = .null ∧ Fields.get ps "filters_json" ≠ .null
      ∧ (Fields.get ps "saved_filter_id").truthy = false
      ∧ ∀ s, ReadsText l ps "filters_json" s → Json.read s = .error .malformed
  | "saved_filter_id" =>
    (Fields.get ps "saved_filter_id").truthy = true
      ∧ ((Fields.get ps "filters" = .null ↔ Fields.get ps "filters_json" ≠ .null)
        ∨ (Fields.get ps "saved_filter_id").str? = none)
  | "per_page" =>
    ¬ ∃ c, (Fields.get ps "per_page").StatesCount c ∧ ∀ n ∈ c, 1 ≤ n ∧ n ≤ l.perPage
  | "page" => ¬ ∃ c, (Fields.get ps "page").StatesCount c ∧ ∀ n ∈ c, 1 ≤ n
  | "cursor" => ¬ ∃ c, (Fields.get ps "cursor").StatesText c
  | "sort_by" =>
    ¬ ∃ c, (Fields.get ps "sort_by").StatesText c ∧ ∀ s ∈ c, s.length ≤ maxParameterText
  | "sort_order" => ¬ ∃ b, (Fields.get ps "sort_order").StatesDirection b
  | "include" => ¬ ∃ xs, Lists (statedInclusions ps) xs
  | "include_archived" => ¬ ∃ b, (Fields.get ps "include_archived").StatesFlag b
  | "save_filter" => ¬ ∃ b, (Fields.get ps "save_filter").StatesFlag b
  | "is_public" => ¬ ∃ b, (Fields.get ps "is_public").StatesFlag b
  | "filter_name" =>
    (¬ ∃ c, (Fields.get ps "filter_name").StatesText c ∧ ∀ s ∈ c, s.length ≤ maxParameterText)
      ∨ (Fields.get ps "filter_name").StatesText none
        ∧ (Fields.get ps "save_filter").StatesFlag true
  | _ => False

/-- The parameters that have a rule. -/
def parameterNames : List String := ["filters", "filters_json", "saved_filter_id", "per_page",
  "page", "cursor", "sort_by", "sort_order", "include", "include_archived", "save_filter",
  "filter_name", "is_public"]

theorem Breaks.mem_parameterNames (h : Breaks l ps name) : name ∈ parameterNames := by
  unfold Breaks at h
  split at h <;> simp [parameterNames] at h ⊢

/-- A query as the parameters of a request state it, within the limits. -/
structure StatedBy (l : Limits) (ps : Fields) (q : TaskQuery) : Prop where
  filters : StatesFilter l ps q.filters
  savedFilterId : (Fields.get ps "saved_filter_id").StatesText q.savedFilterId
  oneFilter : q.filters = .null ∨ q.savedFilterId = none
  perPage : (Fields.get ps "per_page").StatesCount q.perPage
  perPage_within : ∀ n ∈ q.perPage, 1 ≤ n ∧ n ≤ l.perPage
  page : ∃ c, (Fields.get ps "page").StatesCount c ∧ q.page = c.getD 1
  page_pos : 1 ≤ q.page
  cursor : (Fields.get ps "cursor").StatesText q.cursor
  sortBy : (Fields.get ps "sort_by").StatesText q.sortBy
  sortBy_short : ∀ s ∈ q.sortBy, s.length ≤ maxParameterText
  direction : (Fields.get ps "sort_order").StatesDirection q.descending
  inclusions : Lists (statedInclusions ps) q.inclusions
  includeArchived : (Fields.get ps "include_archived").StatesFlag q.includeArchived
  saveFilter : (Fields.get ps "save_filter").StatesFlag q.saveFilter
  filterName : (Fields.get ps "filter_name").StatesText q.filterName
  filterName_short : ∀ s ∈ q.filterName, s.length ≤ maxParameterText
  filterName_stated : q.saveFilter = true → ∃ s, q.filterName = some s
  isPublic : (Fields.get ps "is_public").StatesFlag q.isPublic

end TaskQuery

/-! ## Rules and readings -/

/-- Whether parameters are read by their rules: as something that the rules admit, or with errors
under the names of exactly those that break their rules. -/
structure Checked.Decides {α : Type} (breaks : String → Prop) (names : List String)
    (admits : α → Prop) (r : Checked α) : Prop where
  admitted : ∀ v, r = .valid v → admits v
  refused : r ≠ .invalid []
  told : (r.errors.map (·.name)).Sublist names
  broken : ∀ name ∈ names, name ∈ r.errors.map (·.name) ↔ breaks name
  explained : ∀ e ∈ r.errors, e.problems ≠ []

namespace Checked

variable {α β : Type} {breaks : String → Prop} {names names' : List String} {name : String}
  {admits : α → Prop} {r : Checked α}

theorem decides_valid {v : α} (h : admits v) (hkept : ∀ name ∈ names, ¬ breaks name) :
    Decides breaks names admits (.valid v) where
  admitted w hw := Validated.valid.inj hw ▸ h
  refused := by simp
  told := List.nil_sublist _
  broken name hname := by simp [Validated.errors, hkept name hname]
  explained := by simp [Validated.errors]

theorem decides_invalid {p : ParameterProblem} {ps : List ParameterProblem}
    (hname : name ∈ names) (hbroken : ∀ other ∈ names, breaks other ↔ other = name) :
    Decides breaks names admits (.invalid [⟨name, p :: ps⟩]) where
  admitted := by simp
  refused := by simp
  told := List.singleton_sublist.2 hname
  broken other hother := by simp [Validated.errors, hbroken other hother]
  explained := by simp [Validated.errors]

/-- A reader of one parameter whose rule is that something is admitted. -/
theorem decides_of_valid_iff (hrule : breaks name ↔ ¬ ∃ v, admits v)
    (hvalid : ∀ v, r = .valid v ↔ admits v) (hblames : r.Blames name) :
    Decides breaks [name] admits r := by
  rcases r with v | es
  · have hv := (hvalid v).1 rfl
    refine decides_valid hv fun other hother => ?_
    rw [List.mem_singleton.1 hother, hrule]
    exact not_not_intro ⟨v, hv⟩
  · obtain ⟨p, ps, rfl⟩ := hblames es rfl
    refine decides_invalid List.mem_cons_self fun other hother => ?_
    obtain rfl := List.mem_singleton.1 hother
    refine iff_of_true (hrule.2 ?_) rfl
    rintro ⟨v, hv⟩
    exact absurd ((hvalid v).2 hv) (by simp)

theorem Decides.mem_of_told (h : Decides breaks names admits r)
    (hname : name ∈ r.errors.map (·.name)) : breaks name :=
  (h.broken name (h.told.subset hname)).1 hname

theorem Decides.map (h : Decides breaks names admits r) (f : α → β) :
    Decides breaks names (fun b => ∃ a, admits a ∧ f a = b) (f <$> r) where
  admitted b hb := by
    obtain ⟨a, ha, hf⟩ := Validated.map_eq_valid.1 hb
    exact ⟨a, h.admitted a ha, hf⟩
  refused := by
    have hrefused := h.refused
    cases r <;> simp_all [Functor.map, Validated.errors]
  told := by simpa only [Validated.errors_map] using h.told
  broken := by simpa only [Validated.errors_map] using h.broken
  explained := by simpa only [Validated.errors_map] using h.explained

theorem Decides.imp {admits' : α → Prop} (h : Decides breaks names admits r)
    (himp : ∀ v, admits v → admits' v) : Decides breaks names admits' r :=
  { h with admitted := fun v hv => himp v (h.admitted v hv) }

/-- Independent readings, one beside the other. -/
theorem Decides.seq {admits : (α → β) → Prop} {admits' : α → Prop} {r : Checked (α → β)}
    {r' : Checked α} (h : Decides breaks names admits r) (h' : Decides breaks names' admits' r') :
    Decides breaks (names ++ names') (fun b => ∃ g a, admits g ∧ admits' a ∧ g a = b)
      (r <*> r') where
  admitted b hb := by
    obtain ⟨g, a, hg, ha, hb⟩ := Validated.seq_eq_valid.1 hb
    exact ⟨g, a, h.admitted g hg, h'.admitted a ha, hb⟩
  refused := by
    have hrefused := h.refused
    have hrefused' := h'.refused
    cases r <;> cases r' <;> simp_all [Seq.seq, Validated.errors]
  told := by
    rw [Validated.errors_seq, List.map_append]
    exact h.told.append h'.told
  broken name hname := by
    rw [Validated.errors_seq, List.map_append, List.mem_append]
    constructor
    · rintro (htold | htold)
      · exact h.mem_of_told htold
      · exact h'.mem_of_told htold
    · intro hbreaks
      rcases List.mem_append.1 hname with hname | hname
      · exact .inl ((h.broken name hname).2 hbreaks)
      · exact .inr ((h'.broken name hname).2 hbreaks)
  explained e he := by
    rw [Validated.errors_seq, List.mem_append] at he
    exact he.elim (h.explained e) (h'.explained e)

end Checked

/-! ## Readers of several parameters -/

namespace Json

variable {v w : Json}

theorem isNull_eq_false : v.isNull = false ↔ v ≠ .null := by
  cases v <;> simp [isNull]

theorem isNull_bne_isNull : (v.isNull != w.isNull) = true ↔ (v = .null ↔ w ≠ .null) := by
  cases v <;> cases w <;> simp [isNull]

end Json

namespace TaskQuery

open Checked

variable {l : Limits} {ps : Fields} {name : String}

theorem readFilterName_decides (l : Limits) (ps : Fields) : Decides (Breaks l ps) ["filter_name"]
    (fun c => (Fields.get ps "filter_name").StatesText c ∧ ∀ s ∈ c, s.length ≤ maxParameterText)
    (readFilterName ps) := by
  have hstated {c : Option String} :
      readName ps "filter_name" (·.length ≤ maxParameterText) .filterNameTooLong = .valid c
        ↔ (Fields.get ps "filter_name").StatesText c ∧ ∀ s ∈ c, s.length ≤ maxParameterText := by
    simp only [readName_eq_valid, decide_eq_true_eq]
  simp only [readFilterName]
  split
  · rename_i hname hsave
    refine decides_invalid List.mem_cons_self fun other hother => ?_
    rw [List.mem_singleton.1 hother]
    exact iff_of_true (.inr ⟨(hstated.1 hname).1, readFlag_eq_valid.1 hsave⟩) rfl
  · rename_i hboth
    refine decides_of_valid_iff ⟨?_, .inl⟩ (fun _ => hstated) readName_blames
    rintro (hlong | ⟨hnone, hsave⟩)
    · exact hlong
    · exact (hboth (hstated.2 ⟨hnone, by simp⟩) (readFlag_eq_valid.2 hsave)).elim

theorem statedFilterId_eq_null :
    statedFilterId ps = .null ↔ (Fields.get ps "saved_filter_id").truthy = false :=
  Json.orElse_null_eq_null

theorem readFilterId_decides (l : Limits) (ps : Fields) : Decides (Breaks l ps) ["saved_filter_id"]
    (Fields.get ps "saved_filter_id").StatesText (readFilterId ps) := by
  have hreject {admits : Option String → Prop} {p : ParameterProblem}
      (hbreaks : Breaks l ps "saved_filter_id") :
      Decides (Breaks l ps) ["saved_filter_id"] admits (reject "saved_filter_id" p) :=
    decides_invalid List.mem_cons_self fun other hother => by
      rw [List.mem_singleton.1 hother]
      exact iff_of_true hbreaks rfl
  have hvalid {admits : Option String → Prop} {c : Option String} (hc : admits c)
      (hkept : ¬ Breaks l ps "saved_filter_id") :
      Decides (Breaks l ps) ["saved_filter_id"] admits (.valid c) :=
    decides_valid hc fun other hother => List.mem_singleton.1 hother ▸ hkept
  simp only [readFilterId, statedFilterId]
  rcases htruthy : (Fields.get ps "saved_filter_id").truthy with _ | _
  · rw [Json.orElse_null_eq_null.2 htruthy]
    exact hvalid (.leftOut htruthy) fun hbreaks => absurd hbreaks.1 (by simp [htruthy])
  · rw [Json.orElse_null_of_truthy htruthy]
    have hrule : Breaks l ps "saved_filter_id"
        ↔ (Fields.get ps "filters" = .null ↔ Fields.get ps "filters_json" ≠ .null)
          ∨ (Fields.get ps "saved_filter_id").str? = none := and_iff_right htruthy
    rcases hv : Fields.get ps "saved_filter_id" with _ | b | n | x | s | items | fields
    case null => simp [hv, Json.truthy] at htruthy
    case str =>
      simp only [hv, Json.str?, reduceCtorEq, or_false] at hrule
      rw [← Json.isNull_bne_isNull] at hrule
      dsimp only
      split_ifs with hone
      · exact hreject (hrule.2 hone)
      · exact hvalid (.text (Json.truthy_str.1 (hv ▸ htruthy))) (hrule.not.2 hone)
    all_goals exact hreject (hrule.2 (.inr (by rw [hv]; rfl)))

theorem mem_filterTexts {other : String} :
    other ∈ ["filters", "filters_json"] ↔ other = "filters" ∨ other = "filters_json" := by
  simp

theorem readsText_filters {s : String} : ReadsText l ps "filters" s
    ↔ Fields.get ps "filters" = .str s ∧ Fields.get ps "filters_json" = .null
      ∧ (Fields.get ps "saved_filter_id").truthy = false := by
  constructor
  · intro h
    generalize hname : "filters" = name at h
    cases h with
    | array h halone hsaved => exact ⟨h, halone, hsaved⟩
    | text => exact absurd hname (by decide)
  · rintro ⟨h, halone, hsaved⟩
    exact .array h halone hsaved

theorem readsText_filtersJson {s : String} : ReadsText l ps "filters_json" s
    ↔ Fields.get ps "filters_json" = .str s ∧ Fields.get ps "filters" = .null
      ∧ (Fields.get ps "saved_filter_id").truthy = false ∧ (s.length : Int) ≤ l.filtersText := by
  constructor
  · intro h
    generalize hname : "filters_json" = name at h
    cases h with
    | array => exact absurd hname (by decide)
    | text h halone hsaved hlimit => exact ⟨h, halone, hsaved, hlimit⟩
  · rintro ⟨h, halone, hsaved, hlimit⟩
    exact .text h halone hsaved hlimit

/-- How a filter is read: not at all, as it stands, or from a text. -/
inductive ReadsFilters (l : Limits) (ps : Fields) : Except Fault (Checked Json) → Prop
  | both (p : ParameterProblem) (hfilters : Fields.get ps "filters" ≠ .null)
    (htext : Fields.get ps "filters_json" ≠ .null) : ReadsFilters l ps (.ok (reject "filters" p))
  | saved (hsaved : (Fields.get ps "saved_filter_id").truthy = true)
    (hone : Fields.get ps "filters" = .null ∨ Fields.get ps "filters_json" = .null) :
    ReadsFilters l ps (.ok (.valid (Fields.get ps "filters")))
  | array (htext : Fields.get ps "filters_json" = .null)
    (hstr : (Fields.get ps "filters").str? = none) :
    ReadsFilters l ps (.ok (.valid (Fields.get ps "filters")))
  | text (p : ParameterProblem) {name s : String} (h : ReadsText l ps name s) :
    ReadsFilters l ps (readText name p s)
  | noText (p : ParameterProblem) (hfilters : Fields.get ps "filters" = .null)
    (htext : Fields.get ps "filters_json" ≠ .null)
    (hsaved : (Fields.get ps "saved_filter_id").truthy = false)
    (hnone : ∀ s, ¬ ReadsText l ps "filters_json" s) :
    ReadsFilters l ps (.ok (reject "filters_json" p))

theorem readsFilters (l : Limits) (ps : Fields) : ReadsFilters l ps (readFilters l ps) := by
  have hboth_iff : (!(Fields.get ps "filters").isNull && !(Fields.get ps "filters_json").isNull)
      = true ↔ Fields.get ps "filters" ≠ .null ∧ Fields.get ps "filters_json" ≠ .null := by
    simp [Json.isNull_eq_false]
  simp only [readFilters]
  split_ifs with hboth hsaved <;> rw [hboth_iff] at hboth
  · exact .both _ hboth.1 hboth.2
  · rw [Bool.not_eq_true', Json.isNull_eq_false, Ne, statedFilterId_eq_null,
      Bool.not_eq_false] at hsaved
    rw [not_and_or, not_not, not_not] at hboth
    exact .saved hsaved hboth
  · rw [Bool.not_eq_true', Json.isNull_eq_false, not_not, statedFilterId_eq_null] at hsaved
    have hfilters (htext : Fields.get ps "filters_json" ≠ .null) :
        Fields.get ps "filters" = .null := not_not.1 fun hne => hboth ⟨hne, htext⟩
    split
    · rename_i htext hfilters
      exact .text _ (.array hfilters htext hsaved)
    · rename_i htext hfilters
      refine .array htext ?_
      cases hv : Fields.get ps "filters" with
      | str s => exact (hfilters s hv).elim
      | _ => rfl
    · rename_i s htext
      have hne : Fields.get ps "filters_json" ≠ .null := by simp [htext]
      split_ifs with hlong
      · refine .noText _ (hfilters hne) hne hsaved fun s' h => ?_
        obtain ⟨htext', -, -, hlimit⟩ := readsText_filtersJson.1 h
        obtain rfl := Json.str.inj (htext.symm.trans htext')
        exact absurd hlimit (not_le_of_gt hlong)
      · exact .text _ (.text htext (hfilters hne) hsaved (le_of_not_gt hlong))
    · rename_i hne hstr _
      exact .noText _ (hfilters hne) hne hsaved fun s h => hstr s (readsText_filtersJson.1 h).1

/-- The rules of filters when one is read from a text. -/
theorem ReadsText.breaks_iff {other s : String} (h : ReadsText l ps name s)
    (hother : other ∈ ["filters", "filters_json"]) :
    Breaks l ps other ↔ other = name ∧ Json.read s = .error .malformed := by
  rw [mem_filterTexts] at hother
  cases h with
  | array h halone hsaved =>
    rcases hother with rfl | rfl
    · simp [Breaks, readsText_filters, h, halone, hsaved]
    · simp [Breaks, h]
  | text h halone hsaved hlimit =>
    rcases hother with rfl | rfl
    · simp [Breaks, readsText_filters, halone]
    · simp [Breaks, readsText_filtersJson, h, halone, hsaved, hlimit]

theorem readText_eq_error {p : ParameterProblem} {s : String} {f : Fault} :
    readText name p s = .error f
      ↔ ∃ digits, Json.read s = .error (.integerTooLong digits)
        ∧ f = .unreadable (.integerTooLong digits) := by
  rw [readText]
  rcases Json.read s with (_ | digits) | v <;> simp [eq_comm]

theorem ReadsText.decides {p : ParameterProblem} {s : String} {r : Checked Json}
    (h : ReadsText l ps name s) (hr : readText name p s = .ok r) :
    Decides (Breaks l ps) ["filters", "filters_json"] (StatesFilter l ps) r := by
  have hname : name ∈ ["filters", "filters_json"] := by
    cases h <;> simp
  unfold readText at hr
  split at hr
  · rename_i v hread
    obtain rfl := Except.ok.inj hr
    exact decides_valid (.read h hread) fun other hother => by simp [h.breaks_iff hother, hread]
  · rename_i hread
    obtain rfl := Except.ok.inj hr
    exact decides_invalid hname fun other hother => by simp [h.breaks_iff hother, hread]
  · cases hr

theorem readFilters_decides {r : Checked Json} (h : readFilters l ps = .ok r) :
    Decides (Breaks l ps) ["filters", "filters_json"] (StatesFilter l ps) r := by
  have hreads := readsFilters l ps
  rw [h] at hreads
  generalize hr : Except.ok r = outcome at hreads
  cases hreads with
  | both p hfilters htext =>
    obtain rfl := Except.ok.inj hr
    refine decides_invalid List.mem_cons_self fun other hother => ?_
    rcases mem_filterTexts.1 hother with rfl | rfl <;> simp [Breaks, hfilters, htext]
  | saved hsaved hone =>
    obtain rfl := Except.ok.inj hr
    refine decides_valid (.saved hsaved) fun other hother => ?_
    rcases mem_filterTexts.1 hother with rfl | rfl
    · rintro (⟨hfilters, htext⟩ | ⟨s, hs, -⟩)
      · exact hone.elim hfilters htext
      · exact absurd (readsText_filters.1 hs).2.2 (by simp [hsaved])
    · simp [Breaks, hsaved]
  | array htext hstr =>
    obtain rfl := Except.ok.inj hr
    refine decides_valid (.array htext hstr) fun other hother => ?_
    rcases mem_filterTexts.1 hother with rfl | rfl
    · simp only [Breaks, readsText_filters, htext, ne_eq, not_true_eq_false, and_false, false_or]
      rintro ⟨s, ⟨hs, -⟩, -⟩
      exact absurd hstr (by simp [hs, Json.str?])
    · simp [Breaks, htext]
  | text p h => exact h.decides hr.symm
  | noText p hfilters htext hsaved hnone =>
    obtain rfl := Except.ok.inj hr
    refine decides_invalid (by simp) fun other hother => ?_
    rcases mem_filterTexts.1 hother with rfl | rfl
    · simp [Breaks, readsText_filters, hfilters]
    · simp [Breaks, hfilters, htext, hsaved, hnone]

theorem ReadsText.readFilters_eq {s : String} (h : ReadsText l ps name s) :
    ∃ p, readFilters l ps = readText name p s := by
  cases h with
  | array h halone hsaved =>
    have hid := statedFilterId_eq_null.2 hsaved
    exact ⟨.filtersNotArray, by simp [readFilters, h, halone, hid, Json.isNull]⟩
  | text h halone hsaved hlimit =>
    have hid := statedFilterId_eq_null.2 hsaved
    exact ⟨.filtersTextMalformed, by simp [readFilters, h, halone, hid, hlimit, Json.isNull]⟩

theorem readFilters_eq_error {f : Fault} : readFilters l ps = .error f
    ↔ ∃ name s digits, ReadsText l ps name s ∧ Json.read s = .error (.integerTooLong digits)
      ∧ f = .unreadable (.integerTooLong digits) := by
  constructor
  · intro h
    have hreads := readsFilters l ps
    rw [h] at hreads
    generalize hf : Except.error f = outcome at hreads
    cases hreads with
    | text p htext =>
      obtain ⟨digits, hread, rfl⟩ := readText_eq_error.1 hf.symm
      exact ⟨_, _, digits, htext, hread, rfl⟩
    | _ => cases hf
  · rintro ⟨name, s, digits, h, hread, rfl⟩
    obtain ⟨p, hp⟩ := h.readFilters_eq
    rw [hp, readText_eq_error]
    exact ⟨digits, hread, rfl⟩

/-! ## All parameters -/

/-- What ends the reading of parameters in a fault: an integer too long to be read, in the text of a
filter, and an infinite count. -/
inductive Strays (l : Limits) (ps : Fields) : Prop
  | number {name s : String} {digits : Nat} (h : ReadsText l ps name s)
    (hread : Json.read s = .error (.integerTooLong digits)) : Strays l ps
  | infinite {name : String} {negative : Bool} (hname : name ∈ ["per_page", "page"])
    (h : Fields.get ps name = .num (.infinity negative)) : Strays l ps

/-- The answer to parameters: the query that they state, if they break no rule, or else errors with
problems, one for each parameter that breaks its rule. -/
inductive Answers (l : Limits) (ps : Fields) : Checked TaskQuery → Prop
  | query {q : TaskQuery} (hstated : StatedBy l ps q) (hkept : ∀ name, ¬ Breaks l ps name) :
    Answers l ps (.valid q)
  | refusal {es : List ParameterError} (hne : es ≠ []) (hnodup : (es.map (·.name)).Nodup)
    (hbroken : ∀ name, name ∈ es.map (·.name) ↔ Breaks l ps name)
    (hexplained : ∀ e ∈ es, e.problems ≠ []) : Answers l ps (.invalid es)

theorem answers_of_decides {r : Checked TaskQuery} {names : List String}
    (h : Decides (Breaks l ps) names (fun q => (∀ name, ¬ Breaks l ps name) → StatedBy l ps q) r)
    (hnames : names = parameterNames) : Answers l ps r := by
  subst hnames
  have hbroken (name : String) : name ∈ r.errors.map (·.name) ↔ Breaks l ps name :=
    ⟨h.mem_of_told, fun hbreaks => (h.broken name hbreaks.mem_parameterNames).2 hbreaks⟩
  rcases r with q | es
  · have hkept (name : String) : ¬ Breaks l ps name := fun hbreaks =>
      absurd ((hbroken name).2 hbreaks) (by simp [Validated.errors])
    exact .query (h.admitted q rfl hkept) hkept
  · refine .refusal (fun hnil => h.refused (by rw [hnil])) ?_ hbroken h.explained
    exact List.Nodup.sublist h.told (by decide)

theorem StatesFilter.oneFilter {v : Json} {c : Option String} (h : StatesFilter l ps v)
    (hc : (Fields.get ps "saved_filter_id").StatesText c) (hboth : ¬ Breaks l ps "filters")
    (hone : ¬ Breaks l ps "saved_filter_id") : v = .null ∨ c = none := by
  rcases htruthy : (Fields.get ps "saved_filter_id").truthy with _ | _
  · exact .inr (hc.eq_none htruthy)
  · have hcombined : ¬ (Fields.get ps "filters" = .null ↔ Fields.get ps "filters_json" ≠ .null) :=
      fun h => hone ⟨htruthy, .inl h⟩
    have hfilters : Fields.get ps "filters" = .null := by
      by_contra hne
      refine hcombined (iff_of_false hne fun htext => hboth (.inl ⟨hne, htext⟩))
    cases h with
    | read h =>
      cases h with
      | array _ _ hsaved => exact absurd htruthy (by simp [hsaved])
      | text _ _ hsaved => exact absurd htruthy (by simp [hsaved])
    | array => exact .inl hfilters
    | saved => exact .inl hfilters

theorem ofParameters_decides {r : Checked TaskQuery} (h : ofParameters l ps = .ok r) :
    Decides (Breaks l ps) parameterNames
      (fun q => (∀ name, ¬ Breaks l ps name) → StatedBy l ps q) r := by
  simp only [ofParameters, bind_eq_ok, pure_eq_ok] at h
  obtain ⟨filters, hfilters, perPage, hperPage, page, hpage, rfl⟩ := h
  have hcount {name : String} {most : Option Int} {c : Checked (Option Int)}
      (hc : readCount ps name most = .ok c) (hrule : Breaks l ps name
        ↔ ¬ ∃ c, (Fields.get ps name).StatesCount c ∧ ∀ n ∈ c, 1 ≤ n ∧ ∀ m ∈ most, n ≤ m) :
      Decides (Breaks l ps) [name] _ c :=
    decides_of_valid_iff hrule (fun v => by rw [← readCount_eq_valid, hc, Except.ok.injEq])
      (readCount_blames hc)
  have hname (name : String) (accepts : String → Bool) (p : ParameterProblem)
      (hrule : Breaks l ps name
        ↔ ¬ ∃ c, (Fields.get ps name).StatesText c ∧ ∀ s ∈ c, accepts s = true) :
      Decides (Breaks l ps) [name] _ (readName ps name accepts p) :=
    decides_of_valid_iff hrule (fun _ => readName_eq_valid) readName_blames
  have hflag (name : String) (hrule : Breaks l ps name
      ↔ ¬ ∃ b, (Fields.get ps name).StatesFlag b) :
      Decides (Breaks l ps) [name] _ (readFlag ps name) :=
    decides_of_valid_iff hrule (fun _ => readFlag_eq_valid) readFlag_blames
  have hdirection : Decides (Breaks l ps) ["sort_order"] _ (readDirection ps) :=
    decides_of_valid_iff Iff.rfl (fun _ => readDirection_eq_valid) readDirection_blames
  have hinclusions : Decides (Breaks l ps) ["include"] _ (readInclusions ps) :=
    decides_of_valid_iff Iff.rfl (fun _ => readInclusions_eq_valid) readInclusions_blames
  -- The readings stand side by side, so that none of them changes what another one tells.
  have hread := (readFilters_decides hfilters).map TaskQuery.mk
    |>.seq (readFilterId_decides l ps)
    |>.seq (hcount hperPage (by simp [Breaks]))
    |>.seq ((hcount hpage (by simp [Breaks])).map (·.getD 1))
    |>.seq (hname "cursor" (fun _ => true) .cursorNotText (by simp [Breaks]))
    |>.seq (hname "sort_by" (·.length ≤ maxParameterText) .sortByTooLong (by simp [Breaks]))
    |>.seq hdirection |>.seq hinclusions
    |>.seq (hflag "include_archived" Iff.rfl)
    |>.seq (hflag "save_filter" Iff.rfl)
    |>.seq (readFilterName_decides l ps)
    |>.seq (hflag "is_public" Iff.rfl)
  refine hread.imp ?_
  rintro q ⟨_, isPublic, ⟨_, filterName, ⟨_, saveFilter, ⟨_, includeArchived, ⟨_, inclusions, ⟨_,
    descending, ⟨_, sortBy, ⟨_, cursor, ⟨_, _, ⟨_, perPage, ⟨_, id, ⟨v, hv, rfl⟩, hid, rfl⟩,
    hperPage, rfl⟩, ⟨c, hpage, rfl⟩, rfl⟩, hcursor, rfl⟩, hsortBy, rfl⟩, hdescending, rfl⟩,
    hinclusions, rfl⟩, harchived, rfl⟩, hsave, rfl⟩, hfilterName, rfl⟩, hpublic, rfl⟩ hkept
  exact {
    filters := hv
    savedFilterId := hid
    oneFilter := hv.oneFilter hid (hkept _) (hkept _)
    perPage := hperPage.1
    perPage_within := fun n hn => ⟨(hperPage.2 n hn).1, (hperPage.2 n hn).2 _ rfl⟩
    page := ⟨c, hpage.1, rfl⟩
    page_pos := by
      rcases c with _ | n
      · exact le_refl 1
      · exact (hpage.2 n rfl).1
    cursor := hcursor.1
    sortBy := hsortBy.1
    sortBy_short := fun s hs => of_decide_eq_true (hsortBy.2 s hs)
    direction := hdescending
    inclusions := hinclusions
    includeArchived := harchived
    saveFilter := hsave
    filterName := hfilterName.1
    filterName_short := hfilterName.2
    filterName_stated := fun hsaved => by
      rcases filterName with _ | s
      · exact (hkept "filter_name" (.inr ⟨hfilterName.1, hsaved ▸ hsave⟩)).elim
      · exact ⟨s, rfl⟩
    isPublic := hpublic }

theorem ofParameters_isOk_iff : (∃ r, ofParameters l ps = .ok r) ↔ ¬ Strays l ps := by
  rcases h : ofParameters l ps with f | r
  · refine iff_of_false (by simp) (not_not_intro ?_)
    simp only [ofParameters, bind_eq_error, readFilters_eq_error, readCount_eq_error] at h
    rcases h with ⟨_, _, _, htext, hread, -⟩ | ⟨_, -, ⟨-, _, hperPage⟩ | ⟨_, -, ⟨-, _, hpage⟩ | h⟩⟩
    · exact .number htext hread
    · exact .infinite (by simp) hperPage
    · exact .infinite (by simp) hpage
    · obtain ⟨_, -, h⟩ := h
      cases h
  · refine iff_of_true ⟨r, rfl⟩ ?_
    simp only [ofParameters, bind_eq_ok, pure_eq_ok] at h
    obtain ⟨filters, hfilters, perPage, hperPage, page, hpage, -⟩ := h
    rintro (⟨htext, hread⟩ | ⟨hname, hinfinite⟩)
    · have := readFilters_eq_error.2 ⟨_, _, _, htext, hread, rfl⟩
      cases hfilters.symm.trans this
    · simp only [List.mem_cons, List.not_mem_nil, or_false] at hname
      rcases hname with rfl | rfl
      · cases hperPage.symm.trans (readCount_eq_error.2 ⟨rfl, _, hinfinite⟩)
      · cases hpage.symm.trans (readCount_eq_error.2 ⟨rfl, _, hinfinite⟩)

end TaskQuery

/-- Parameters are answered, with the query that they state or with errors for exactly those that
break their rules, or else they stray. -/
theorem ofParameters_answers (l : TaskQuery.Limits) (ps : Fields) :
    (∃ r, TaskQuery.ofParameters l ps = .ok r ∧ TaskQuery.Answers l ps r
      ∧ ¬ TaskQuery.Strays l ps)
      ∨ ∃ f, TaskQuery.ofParameters l ps = .error f ∧ TaskQuery.Strays l ps := by
  rcases h : TaskQuery.ofParameters l ps with f | r
  · refine .inr ⟨f, rfl, ?_⟩
    by_contra hkept
    obtain ⟨r, hr⟩ := TaskQuery.ofParameters_isOk_iff.2 hkept
    cases h.symm.trans hr
  · exact .inl ⟨r, rfl, TaskQuery.answers_of_decides (TaskQuery.ofParameters_decides h) rfl,
      TaskQuery.ofParameters_isOk_iff.1 ⟨r, h⟩⟩

/-- An infinite page breaks its rule, but is not answered. -/
theorem infinite_page_not_answered :
    TaskQuery.Breaks Settings.usual.limits [("page", .num (.infinity false))] "page"
      ∧ TaskQuery.ofParameters Settings.usual.limits [("page", .num (.infinity false))]
        = .error .outOfRange := by
  have hpage : TaskQuery.readCount [("page", .num (.infinity false))] "page" none
      = .error .outOfRange := TaskQuery.readCount_eq_error.2 ⟨rfl, false, rfl⟩
  constructor
  · rintro ⟨c, hc, hn⟩
    rw [TaskQuery.readCount_eq_valid.2 ⟨hc, fun n hn' => ⟨hn n hn', by simp⟩⟩] at hpage
    cases hpage
  · rw [TaskQuery.ofParameters, hpage]
    rfl

end BoardQuery
