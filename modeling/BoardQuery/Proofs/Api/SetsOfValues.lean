import BoardQuery.Proofs.Api.RequiredValues

/-!
# Sets of values

A set of values for a task is written as a whole or not at all. Its keys name columns in three ways
(`BoardSchema.Names`), and several keys may name one column. If some keys are rejected, all of them
are told and nothing is written; otherwise each column that is named holds what the last of its
keys states, and no other row changes (`values_all_or_nothing`).
-/

namespace BoardQuery

/-! ## Keys -/

/-- What a key names: the column with this id, or else with this name, or else with this name in
another letter case. The first of several columns counts. -/
inductive BoardSchema.Names (schema : BoardSchema) (key : String) (c : BoardColumn) : Prop
  | byId (h : schema.columns.find? (·.id == key) = some c)
  | byName (hid : ∀ c' ∈ schema.columns, c'.id ≠ key)
    (h : schema.columns.find? (·.name == key) = some c)
  | byFold (hid : ∀ c' ∈ schema.columns, c'.id ≠ key) (hname : ∀ c' ∈ schema.columns, c'.name ≠ key)
    (h : schema.columns.find? (fun c' => Text.fold c'.name == Text.fold key) = some c)

/-- Whether a key names no column in any way. -/
def BoardSchema.Lacks (schema : BoardSchema) (key : String) : Prop :=
  ∀ c ∈ schema.columns, c.id ≠ key ∧ c.name ≠ key ∧ Text.fold c.name ≠ Text.fold key

/-- Whether the type of a column takes a raw value, and this is its canonical form. -/
def BoardColumn.Takes (env : Surroundings) (c : BoardColumn) (raw v : Json) : Prop :=
  ∃ t, c.columnType = .ok t ∧ validate env t (c.effectiveOptions t) raw = .ok v

/-- Whether the type of a column rejects a raw value, for these problems. -/
def BoardColumn.Rejects (env : Surroundings) (c : BoardColumn) (raw : Json)
    (problems : List ValueProblem) : Prop :=
  ∃ t, c.columnType = .ok t
    ∧ validate env t (c.effectiveOptions t) raw = .error (.problems problems)

/-- Whether a key is rejected with its value, for a problem. -/
inductive BoardSchema.Rejects (env : Surroundings) (schema : BoardSchema) (key : String)
    (raw : Json) : KeyProblem → Prop
  | unknownColumn (h : schema.Lacks key) : Rejects env schema key raw .unknownColumn
  | rejected {c : BoardColumn} {problems : List ValueProblem} (hc : schema.Names key c)
    (h : c.Rejects env raw problems) : Rejects env schema key raw (.rejected problems)

/-- Whether each column that a set of values names takes its value or rejects it for problems. -/
def BoardSchema.Decides (env : Surroundings) (schema : BoardSchema) (fields : Fields) : Prop :=
  ∀ p ∈ fields, ∀ c, schema.Names p.1 c →
    (∃ v, c.Takes env p.2 v) ∨ ∃ problems, c.Rejects env p.2 problems

section Keys

variable {env : Surroundings} {schema : BoardSchema} {c : BoardColumn} {key : String} {raw : Json}

theorem BoardSchema.find?_eq_none : schema.find? key = none ↔ schema.Lacks key := by
  simp only [find?, Option.orElse_eq_orElse, Option.orElse_eq_or, Option.or_eq_none_iff,
    List.find?_eq_none, beq_iff_eq, Lacks]
  exact ⟨fun ⟨hid, hname, hfold⟩ c hc => ⟨hid c hc, hname c hc, hfold c hc⟩,
    fun h => ⟨fun c hc => (h c hc).1, fun c hc => (h c hc).2.1, fun c hc => (h c hc).2.2⟩⟩

theorem BoardSchema.find?_eq_some : schema.find? key = some c ↔ schema.Names key c := by
  simp only [find?, Option.orElse_eq_orElse, Option.orElse_eq_or, Option.or_eq_some_iff,
    List.find?_eq_none, beq_iff_eq]
  constructor
  · rintro (h | ⟨hid, h | ⟨hname, h⟩⟩)
    · exact .byId h
    · exact .byName hid h
    · exact .byFold hid hname h
  · rintro (h | ⟨hid, h⟩ | ⟨hid, hname, h⟩)
    · exact .inl h
    · exact .inr ⟨hid, .inl h⟩
    · exact .inr ⟨hid, .inr ⟨hname, h⟩⟩

theorem BoardColumn.Takes.not_rejects {v : Json} {problems : List ValueProblem}
    (h : c.Takes env raw v) : ¬ c.Rejects env raw problems := by
  rintro ⟨t', ht', hproblems⟩
  obtain ⟨t, ht, hv⟩ := h
  obtain rfl := Except.ok.inj (ht.symm.trans ht')
  exact absurd (hv.symm.trans hproblems) (by simp)

theorem validateFor_takes (path : String) {v : Json} :
    validateFor env c path raw = .ok v ↔ c.Takes env raw v := by
  simp only [validateFor, bind_eq_ok, orFault_eq_ok, mapError_eq_ok, BoardColumn.Takes]

theorem validateFor_rejects {path path' : String} {problems : List ValueProblem} :
    validateFor env c path raw = .error (.value path' problems)
      ↔ path' = path ∧ c.Rejects env raw problems := by
  simp only [validateFor, bind_eq_error, orFault_eq_error, orFault_eq_ok, BoardColumn.Rejects]
  constructor
  · rintro (⟨f, -, h⟩ | ⟨t, ht, h⟩)
    · exact absurd h (by simp)
    · rcases hv : validate env t (c.effectiveOptions t) raw with (ps | f) | v <;> rw [hv] at h
      · obtain ⟨rfl, rfl⟩ := Refusal.value.inj (Except.error.inj h)
        exact ⟨rfl, t, ht, hv⟩
      · exact absurd h (by simp [Except.mapError, Refusal.ofRejection])
      · exact absurd h (by simp [Except.mapError])
  · rintro ⟨rfl, t, ht, hv⟩
    refine .inr ⟨t, ht, ?_⟩
    rw [hv]
    rfl

/-- A key is accepted for the column that it names, if that takes the value. -/
theorem checkKey_eq_accepted {v : Json} : checkKey env schema key raw = .ok (.accepted c v)
    ↔ schema.Names key c ∧ c.Takes env raw v := by
  rw [← BoardSchema.find?_eq_some, ← validateFor_takes c.name, checkKey]
  rcases hfind : schema.find? key with _ | c'
  · simp
  · dsimp only
    constructor
    · intro h
      split at h
      · rename_i w hw
        obtain ⟨rfl, rfl⟩ := KeyCheck.accepted.inj (Except.ok.inj h)
        exact ⟨rfl, hw⟩
      · exact absurd h (by simp)
      · exact absurd h (by simp)
    · rintro ⟨hc, hv⟩
      obtain rfl := Option.some.inj hc
      rw [hv]

theorem checkKey_eq_rejected {key' : String} {problem : KeyProblem} :
    checkKey env schema key raw = .ok (.rejected key' problem)
      ↔ key' = key ∧ schema.Rejects env key raw problem := by
  rw [checkKey]
  constructor
  · intro h
    split at h
    · rename_i hfind
      obtain ⟨rfl, rfl⟩ := KeyCheck.rejected.inj (Except.ok.inj h)
      exact ⟨rfl, .unknownColumn (BoardSchema.find?_eq_none.1 hfind)⟩
    · rename_i c hfind
      split at h
      · exact absurd h (by simp)
      · rename_i path problems hv
        obtain ⟨rfl, rfl⟩ := KeyCheck.rejected.inj (Except.ok.inj h)
        exact ⟨rfl, .rejected (BoardSchema.find?_eq_some.1 hfind) (validateFor_rejects.1 hv).2⟩
      · exact absurd h (by simp)
  · rintro ⟨rfl, hlacks | ⟨hc, h⟩⟩
    · rw [BoardSchema.find?_eq_none.2 hlacks]
    · rw [BoardSchema.find?_eq_some.2 hc]
      dsimp only
      rw [validateFor_rejects.2 ⟨rfl, h⟩]

/-- Every key is either accepted or rejected, if the columns decide. -/
theorem checkKey_decided {fields : Fields} (h : schema.Decides env fields)
    (hp : (key, raw) ∈ fields) : (∃ c v, schema.Names key c ∧ c.Takes env raw v)
      ∨ ∃ problem, schema.Rejects env key raw problem := by
  rcases hfind : schema.find? key with _ | c
  · exact .inr ⟨_, .unknownColumn (BoardSchema.find?_eq_none.1 hfind)⟩
  · have hc := BoardSchema.find?_eq_some.1 hfind
    rcases h _ hp c hc with ⟨v, hv⟩ | ⟨problems, hproblems⟩
    · exact .inl ⟨c, v, hc, hv⟩
    · exact .inr ⟨_, .rejected hc hproblems⟩

end Keys

/-! ## Checking all keys -/

section Checks

variable {env : Surroundings} {schema : BoardSchema} {fields : Fields} {checks : List KeyCheck}

theorem exists_mapM_eq_ok {ε α β : Type} {f : α → Except ε β} :
    {xs : List α} → (∀ x ∈ xs, ∃ y, f x = .ok y) → ∃ ys, xs.mapM f = .ok ys
  | [], _ => ⟨[], rfl⟩
  | x :: xs, h => by
    obtain ⟨y, hy⟩ := h x List.mem_cons_self
    obtain ⟨ys, hys⟩ := exists_mapM_eq_ok fun x hx => h x (List.mem_cons_of_mem _ hx)
    refine ⟨y :: ys, ?_⟩
    rw [List.mapM_cons, hy, ok_bind, hys]
    rfl

theorem exists_checks (h : schema.Decides env fields) :
    ∃ checks, fields.mapM (fun p => checkKey env schema p.1 p.2) = .ok checks := by
  refine exists_mapM_eq_ok fun p hp => ?_
  rcases checkKey_decided h hp with ⟨c, v, hv⟩ | ⟨problem, hproblem⟩
  · exact ⟨_, checkKey_eq_accepted.2 hv⟩
  · exact ⟨_, checkKey_eq_rejected.2 ⟨rfl, hproblem⟩⟩

theorem mem_rejectedKeys {key : String} {problem : KeyProblem} :
    (key, problem) ∈ rejectedKeys checks ↔ .rejected key problem ∈ checks := by
  rw [rejectedKeys, List.mem_filterMap]
  constructor
  · rintro ⟨check, hcheck, h⟩
    cases check with
    | accepted => exact absurd h (by simp)
    | rejected key' problem' =>
      obtain ⟨rfl, rfl⟩ := Prod.mk.inj (Option.some.inj h)
      exact hcheck
  · exact fun h => ⟨_, h, rfl⟩

/-- The rejected keys are told in the order of the set. -/
theorem rejectedKeys_sublist : (fields : Fields) → {checks : List KeyCheck} →
    fields.mapM (fun p => checkKey env schema p.1 p.2) = .ok checks →
    ((rejectedKeys checks).map (·.1)).Sublist (fields.map (·.1))
  | [], _, h => by
    obtain rfl := pure_eq_ok.1 h
    exact .slnil
  | (key, raw) :: fields, checks, h => by
    simp only [List.mapM_cons, bind_eq_ok, pure_eq_ok] at h
    obtain ⟨check, hcheck, checks, hchecks, rfl⟩ := h
    have hrest := rejectedKeys_sublist fields hchecks
    cases check with
    | accepted => exact hrest.cons key
    | rejected key' problem =>
      obtain ⟨rfl, -⟩ := checkKey_eq_rejected.1 hcheck
      exact hrest.cons_cons key'

end Checks

/-! ## Writing -/

section Writing

variable {env : Surroundings} {schema : BoardSchema} {fields : Fields} {checks : List KeyCheck}
  {s : Store} {t : Task} {c : BoardColumn}

theorem writeChecked_uniqueRows (hs : s.UniqueRows) : (writeChecked s t checks).UniqueRows :=
  writeChecked_preserves checks (fun _ _ _ _ h => Store.uniqueRows_putValue h) hs

/-- Rows for which no value is accepted stay as they are. -/
theorem rowsAt_writeChecked {taskId columnId : String}
    (h : taskId = t.id → ∀ c v, .accepted c v ∈ checks → c.id ≠ columnId) :
    (writeChecked s t checks).rowsAt taskId columnId = s.rowsAt taskId columnId :=
  writeChecked_preserves (P := fun s₁ => s₁.rowsAt taskId columnId = s.rowsAt taskId columnId)
    checks (fun c v hcv _ hrows => (Store.rowsAt_putValue_of_ne fun hkey =>
      h hkey.1 c v hcv hkey.2.symm).trans hrows) rfl

/-- The value that is accepted last for a column is the one that is written. -/
theorem rowsAt_writeChecked_last {before after : List KeyCheck} {v : Json} (hs : s.UniqueRows)
    (hafter : ∀ c' w, .accepted c' w ∈ after → c'.id ≠ c.id) :
    (writeChecked s t (before ++ .accepted c v :: after)).rowsAt t.id c.id
      = [⟨t.id, c.id, v⟩] := by
  have hsplit : writeChecked s t (before ++ .accepted c v :: after)
      = writeChecked ((writeChecked s t before).putValue t.id c.id v) t after := by
    simp only [writeChecked, List.foldl_append, List.foldl_cons]
  rw [hsplit, rowsAt_writeChecked fun _ => hafter]
  exact Store.rowsAt_putValue (writeChecked_uniqueRows hs)

end Writing

/-! ## A set as a whole -/

/-- Whether the last of the keys that name a column states this raw value. -/
def BoardSchema.StatesLast (schema : BoardSchema) (fields : Fields) (c : BoardColumn)
    (raw : Json) : Prop :=
  ∃ before key after, fields = before ++ (key, raw) :: after ∧ schema.Names key c
    ∧ ∀ p ∈ after, ¬ schema.Names p.1 c

/-- Whether a store is another one with a set of values written for a task. -/
structure Store.WritesTo (env : Surroundings) (s : Store) (t : Task) (schema : BoardSchema)
    (fields : Fields) (s' : Store) : Prop where
  frame : s' = { s with values := s'.values }
  named : ∀ p ∈ fields, ∀ c, schema.Names p.1 c → ∃ raw v, schema.StatesLast fields c raw
    ∧ c.Takes env raw v ∧ s'.rowsAt t.id c.id = [⟨t.id, c.id, v⟩]
  others : ∀ taskId columnId,
    (taskId = t.id → ∀ p ∈ fields, ∀ c, schema.Names p.1 c → c.id ≠ columnId) →
    s'.rowsAt taskId columnId = s.rowsAt taskId columnId

/-- What a set of values leaves to a task in a column: the canonical form of what is stated last
for it, or what has been there, if anything. -/
inductive Store.HoldsAfter (env : Surroundings) (s : Store) (t : Task) (schema : BoardSchema)
    (fields : Fields) (c : BoardColumn) : Option Json → Prop
  | stated {raw v : Json} (hraw : schema.StatesLast fields c raw) (hv : c.Takes env raw v) :
    HoldsAfter env s t schema fields c (some v)
  | kept (h : ∀ p ∈ fields, ¬ schema.Names p.1 c) :
    HoldsAfter env s t schema fields c (s.value? t.id c.id)

section Sets

variable {env : Surroundings} {schema : BoardSchema} {fields : Fields} {checks : List KeyCheck}
  {s s' : Store} {t : Task} {c : BoardColumn}

theorem BoardSchema.exists_statesLast : {fields : Fields} →
    (∃ p ∈ fields, schema.Names p.1 c) → ∃ raw, schema.StatesLast fields c raw
  | [], ⟨_, hp, _⟩ => absurd hp List.not_mem_nil
  | p :: fields, h => by
    by_cases hlater : ∃ q ∈ fields, schema.Names q.1 c
    · obtain ⟨raw, before, key, after, rfl, hlast⟩ := exists_statesLast hlater
      exact ⟨raw, p :: before, key, after, rfl, hlast⟩
    · obtain ⟨q, hq, hnames⟩ := h
      rcases List.mem_cons.1 hq with rfl | hq
      · exact ⟨q.2, [], q.1, fields, rfl, hnames, fun r hr hc => hlater ⟨r, hr, hc⟩⟩
      · exact absurd ⟨q, hq, hnames⟩ hlater

theorem BoardSchema.Names.mem {key : String} (h : schema.Names key c) : c ∈ schema.columns :=
  mem_of_find? (find?_eq_some.2 h)

theorem BoardSchema.Names.eq {key : String} {c' : BoardColumn} (h : schema.Names key c)
    (h' : schema.Names key c') : c' = c :=
  Option.some.inj ((find?_eq_some.2 h').symm.trans (find?_eq_some.2 h))

theorem setValues_of_checks (hne : fields ≠ [])
    (hchecks : fields.mapM (fun p => checkKey env schema p.1 p.2) = .ok checks) :
    setValues env s t schema (.obj fields) = match rejectedKeys checks with
      | [] => .ok (writeChecked s t checks)
      | keys => .error (.values keys) := by
  cases fields with
  | nil => exact absurd rfl hne
  | cons f rest =>
    rw [setValues, hchecks]
    rfl

/-- If a key is rejected, the set is refused with all keys that are. -/
theorem setValues_rejected (hne : fields ≠ []) (hdecides : schema.Decides env fields)
    (h : ∃ p ∈ fields, ∃ problem, schema.Rejects env p.1 p.2 problem) :
    ∃ keys, setValues env s t schema (.obj fields) = .error (.values keys)
      ∧ (keys.map (·.1)).Sublist (fields.map (·.1))
      ∧ ∀ key problem, (key, problem) ∈ keys
        ↔ ∃ raw, (key, raw) ∈ fields ∧ schema.Rejects env key raw problem := by
  obtain ⟨checks, hchecks⟩ := exists_checks hdecides
  have hmem (key : String) (problem : KeyProblem) : (key, problem) ∈ rejectedKeys checks
      ↔ ∃ raw, (key, raw) ∈ fields ∧ schema.Rejects env key raw problem := by
    rw [mem_rejectedKeys, mem_of_mapM_eq_ok hchecks]
    constructor
    · rintro ⟨⟨key', raw⟩, hp, hcheck⟩
      obtain ⟨rfl, hrejects⟩ := checkKey_eq_rejected.1 hcheck
      exact ⟨raw, hp, hrejects⟩
    · rintro ⟨raw, hp, hrejects⟩
      exact ⟨_, hp, checkKey_eq_rejected.2 ⟨rfl, hrejects⟩⟩
  obtain ⟨p, hp, problem, hrejects⟩ := h
  have hkey := (hmem p.1 problem).2 ⟨p.2, hp, hrejects⟩
  refine ⟨rejectedKeys checks, ?_, rejectedKeys_sublist fields hchecks, hmem⟩
  rw [setValues_of_checks hne hchecks]
  rcases hkeys : rejectedKeys checks with _ | ⟨k, ks⟩
  · rw [hkeys] at hkey
    exact absurd hkey List.not_mem_nil
  · rfl

/-- If no key is rejected, the set is written. -/
theorem setValues_accepted (hs : s.UniqueRows) (hids : (schema.columns.map (·.id)).Nodup)
    (hne : fields ≠ []) (hdecides : schema.Decides env fields)
    (h : ∀ p ∈ fields, ∀ problem, ¬ schema.Rejects env p.1 p.2 problem) :
    ∃ s', setValues env s t schema (.obj fields) = .ok s'
      ∧ s.WritesTo env t schema fields s' := by
  obtain ⟨checks, hchecks⟩ := exists_checks hdecides
  have hnone : rejectedKeys checks = [] := by
    refine List.eq_nil_iff_forall_not_mem.2 fun ⟨key, problem⟩ hkey => ?_
    obtain ⟨⟨key', raw⟩, hp, hcheck⟩ :=
      (mem_of_mapM_eq_ok hchecks).1 (mem_rejectedKeys.1 hkey)
    exact h _ hp problem (checkKey_eq_rejected.1 hcheck).2
  refine ⟨writeChecked s t checks, ?_, ?frame, ?named, ?others⟩
  · rw [setValues_of_checks hne hchecks, hnone]
  case frame =>
    refine writeChecked_preserves (P := fun s₁ => s₁ = { s with values := s₁.values }) checks
      (fun c v _ s₁ hs₁ => ?_) rfl
    rw [hs₁, Store.putValue]
    split_ifs <;> rfl
  case named =>
    intro p hp c hc
    obtain ⟨raw, before, key, after, rfl, hnames, hlast⟩ :=
      BoardSchema.exists_statesLast ⟨p, hp, hc⟩
    have hkey : (key, raw) ∈ before ++ (key, raw) :: after := by simp
    obtain ⟨c', v, hc', hv⟩ := (checkKey_decided hdecides hkey).resolve_right
      fun ⟨problem, hproblem⟩ => h _ hkey problem hproblem
    obtain rfl := hnames.eq hc'
    refine ⟨raw, v, ⟨before, key, after, rfl, hnames, hlast⟩, hv, ?_⟩
    simp only [List.mapM_append, List.mapM_cons, bind_eq_ok, pure_eq_ok] at hchecks
    obtain ⟨first, -, _, ⟨check, hcheck, rest, hrest, rfl⟩, rfl⟩ := hchecks
    obtain rfl := Except.ok.inj (hcheck.symm.trans (checkKey_eq_accepted.2 ⟨hnames, hv⟩))
    refine rowsAt_writeChecked_last hs fun c₂ w hw hid => ?_
    obtain ⟨q, hq, hcheck₂⟩ := (mem_of_mapM_eq_ok hrest).1 hw
    have hnames₂ := (checkKey_eq_accepted.1 hcheck₂).1
    obtain rfl := List.inj_on_of_nodup_map hids hnames₂.mem hnames.mem hid
    exact hlast q hq hnames₂
  case others =>
    intro taskId columnId hother
    refine rowsAt_writeChecked fun htask c v hcv => ?_
    obtain ⟨p, hp, hcheck⟩ := (mem_of_mapM_eq_ok hchecks).1 hcv
    exact hother htask p hp c (checkKey_eq_accepted.1 hcheck).1

/-- What a task has in a column after a set of values has been written for it. -/
theorem Store.WritesTo.holdsAfter (h : s.WritesTo env t schema fields s')
    (hids : (schema.columns.map (·.id)).Nodup) (hc : c ∈ schema.columns) :
    s.HoldsAfter env t schema fields c (s'.value? t.id c.id) := by
  by_cases hnamed : ∃ p ∈ fields, schema.Names p.1 c
  · obtain ⟨p, hp, hnames⟩ := hnamed
    obtain ⟨raw, v, hraw, hv, hrow⟩ := h.named p hp c hnames
    rw [value?_eq_rowsAt, hrow]
    exact .stated hraw hv
  · have hrows : s'.rowsAt t.id c.id = s.rowsAt t.id c.id := by
      refine h.others _ _ fun _ p hp c' hc' hid => hnamed ⟨p, hp, ?_⟩
      rwa [← List.inj_on_of_nodup_map hids hc'.mem hc hid]
    rw [value?_eq_rowsAt, hrows, ← value?_eq_rowsAt]
    exact .kept fun p hp hnames => hnamed ⟨p, hp, hnames⟩

end Sets

/-! ## Requests -/

/-- Whether a request is to write a set of values for a task. -/
structure Request.PutsValues (r : Request) (task : String) (fields : Fields) : Prop where
  route : Route.ofSegments? r.segments = some (.fieldValues task)
  method : r.method = "PUT"
  values : bodyField r "values" = .ok (.obj fields)

/-- Whether a request is for the values of a task. -/
structure Request.ReadsValues (r : Request) (task : String) : Prop where
  route : Route.ofSegments? r.segments = some (.fieldValues task)
  method : r.method = "GET"

/-- The values of a task in columns, as an answer tells them. -/
def Reply.ofValues (columns : List BoardColumn) (left : BoardColumn → Option Json) : Reply :=
  .data (.arr (columns.map fun c => .obj [("column_id", .str c.id), ("column", .str c.name),
    ("type", .str c.typeName), ("value", (left c).getD .null)]))

/-- The reply to a set of which some keys are rejected. -/
def Reply.ofRejectedKeys (keys : List (String × KeyProblem)) : Reply :=
  .json 422 [("error", .str "Invalid field values"),
    ("errors", .obj (keys.map fun k => (k.1, .ofStrings k.2.messages)))]

section Requests

variable {config : Settings} {now : Moment} {s : Store} {b : Board} {t : Task} {r : Request}
  {u : User} {task : String} {fields : Fields}

theorem handle_fieldValues (hroute : Route.ofSegments? r.segments = some (.fieldValues task))
    (hmethod : r.method = "GET" ∨ r.method = "PUT") (htask : s.task? task = some t)
    (hboard : s.board? t.boardId = some b) (hu : authorize s r b = .ok u) :
    handle config now s r = (if r.method == "PUT" then handlePutValues now s r t b
      else handleFieldValues s t).settle s := by
  have haccepts : (Route.fieldValues task).accepts r.method = true := by
    rcases hmethod with hmethod | hmethod <;> rw [hmethod] <;> rfl
  have hoptions : (r.method == "OPTIONS") = false := by
    rcases hmethod with hmethod | hmethod <;> rw [hmethod] <;> decide
  have hhead : (r.method == "HEAD") = false := by
    rcases hmethod with hmethod | hmethod <;> rw [hmethod] <;> decide
  have hact : handleRoute config now s r (.fieldValues task)
      = if r.method == "PUT" then handlePutValues now s r t b else handleFieldValues s t := by
    rw [handleRoute, onTask, taskOrReply, htask]
    simp only [boardOrReply, hboard, Except.map, ok_bind, hoptions, hu]
    rfl
  simp only [handle, hroute, haccepts, if_true, hact, hhead]
  rfl

theorem handle_readsValues (hr : r.ReadsValues task) (htask : s.task? task = some t)
    (hboard : s.board? t.boardId = some b) (hu : authorize s r b = .ok u) :
    handle config now s r
      = (.ofValues (s.columnsOf t.boardId) fun c => s.value? t.id c.id, s) := by
  rw [handle_fieldValues hr.route (.inl hr.method) htask hboard hu, hr.method]
  rfl

theorem handle_putsValues (hr : r.PutsValues task fields) (htask : s.task? task = some t)
    (hboard : s.board? t.boardId = some b) (hu : authorize s r b = .ok u) :
    handle config now s r
      = match setValues (s.surroundings now) s t (s.schema b) (.obj fields) with
        | .ok s' => (.ofValues (s'.columnsOf t.boardId) fun c => s'.value? t.id c.id, s')
        | .error e => (.ofRefusal 400 e, s) := by
  rw [handle_fieldValues hr.route (.inr hr.method) htask hboard hu, hr.method]
  simp only [beq_self_eq_true, if_true, handlePutValues, hr.values, ok_bind]
  rcases setValues (s.surroundings now) s t (s.schema b) (.obj fields) with e | s' <;> rfl

theorem nodup_schema (b : Board) (hids : (s.columns.map (·.id)).Nodup) :
    ((s.schema b).columns.map (·.id)).Nodup :=
  ((List.mergeSort_perm _ _).map _).nodup_iff.2 (hids.sublist (List.filter_sublist.map _))

/-- The columns of a board are in the order of their positions. -/
theorem schema_pairwise (s : Store) (b : Board) :
    (s.schema b).columns.Pairwise fun c c' => c.position ≤ c'.position := by
  have hsorted := @List.pairwise_mergeSort _ (fun c c' : BoardColumn => c.position ≤ c'.position)
    (fun _ _ _ => by simpa using Int.le_trans) (fun _ _ => by simpa using Int.le_total ..)
    (s.columns.filter (·.boardId == b.id))
  exact hsorted.imp of_decide_eq_true

/-- If a key of a set is rejected, the answer tells every key that is, and nothing changes.
Otherwise each column that is named holds what is stated last for it, no other row changes, and the
task is read with these values, in the order of the columns. -/
theorem values_all_or_nothing (config : Settings) (hs : s.UniqueRows)
    (hids : (s.columns.map (·.id)).Nodup) (htask : s.task? task = some t)
    (hboard : s.board? t.boardId = some b) (hr : r.PutsValues task fields)
    (hu : authorize s r b = .ok u) (hne : fields ≠ [])
    (hdecides : (s.schema b).Decides (s.surroundings now) fields) :
    ((∃ p ∈ fields, ∃ problem, (s.schema b).Rejects (s.surroundings now) p.1 p.2 problem) →
      ∃ keys, setValues (s.surroundings now) s t (s.schema b) (.obj fields) = .error (.values keys)
        ∧ (keys.map (·.1)).Sublist (fields.map (·.1))
        ∧ (∀ key problem, (key, problem) ∈ keys
          ↔ ∃ raw, (key, raw) ∈ fields
            ∧ (s.schema b).Rejects (s.surroundings now) key raw problem)
        ∧ handle config now s r = (.ofRejectedKeys keys, s))
    ∧ ((∀ p ∈ fields, ∀ problem, ¬ (s.schema b).Rejects (s.surroundings now) p.1 p.2 problem) →
      ∃ s' left, s.WritesTo (s.surroundings now) t (s.schema b) fields s'
        ∧ (s.schema b).columns.Pairwise (fun c c' => c.position ≤ c'.position)
        ∧ (∀ c ∈ (s.schema b).columns,
          s.HoldsAfter (s.surroundings now) t (s.schema b) fields c (left c))
        ∧ handle config now s r = (.ofValues (s.schema b).columns left, s')
        ∧ ∀ config' later r' u', r'.ReadsValues task → authorize s' r' b = .ok u' →
          handle config' later s' r' = (.ofValues (s.schema b).columns left, s')) := by
  refine ⟨fun hrejected => ?rejected, fun haccepted => ?accepted⟩
  case rejected =>
    obtain ⟨keys, hset, hsublist, hkeys⟩ := setValues_rejected hne hdecides hrejected
    refine ⟨keys, hset, hsublist, hkeys, ?_⟩
    rw [handle_putsValues hr htask hboard hu, hset]
    rfl
  case accepted =>
    have hcolumns := nodup_schema b hids
    obtain ⟨s', hset, hwrites⟩ := setValues_accepted (t := t) hs hcolumns hne hdecides haccepted
    have hplaced : b.id = t.boardId := by simpa using List.find?_some hboard
    have hsame : s'.columnsOf t.boardId = (s.schema b).columns := by
      rw [hwrites.frame, ← hplaced]
      rfl
    refine ⟨s', fun c => s'.value? t.id c.id, hwrites, schema_pairwise s b,
      fun c hc => hwrites.holdsAfter hcolumns hc, ?_, fun config' later r' u' hr' hu' => ?_⟩
    · rw [handle_putsValues hr htask hboard hu, hset]
      dsimp only
      rw [hsame]
    · have htask' : s'.task? task = some t := by
        rw [hwrites.frame]
        exact htask
      have hboard' : s'.board? t.boardId = some b := by
        rw [hwrites.frame]
        exact hboard
      rw [handle_readsValues hr' htask' hboard' hu', hsame]

end Requests

namespace Sample

def estimate : BoardColumn :=
  { column "Estimate" .number [] with id := "c1" }

def notes : BoardColumn :=
  { column "Notes" .text [] with id := "c2", position := 1 }

/-- The board with an estimate and notes for its task, which has notes. -/
def estimates : Store :=
  { store estimate [task "t"] [] with
    users := [⟨"u", "u@example.com", none, "token", true⟩]
    members := [⟨"u", board.workspaceId⟩]
    columns := [estimate, notes]
    values := [⟨"t", notes.id, .str "none"⟩] }

/-- The request to write a set of values for the task. -/
def valuesRequest (fields : Fields) : Request where
  method := "PUT"
  path := "/api/tasks/t/field-values"
  authorization := some "Bearer token"
  query := []
  body := .document (.obj [("values", .obj fields)])

/-- Two values for the estimate. -/
def twoEstimates : Fields :=
  [("c1", .str "3"), ("estimate", .str " 8 ")]

/-- A value that is no number, and one for a column that is not there. -/
def noEstimate : Fields :=
  [("notes", .str "none"), ("Estimate", .str "many"), ("due", .null)]

theorem mem_columns_estimates {c : BoardColumn} :
    c ∈ (estimates.schema board).columns ↔ c = estimate ∨ c = notes := by
  have hfilter : estimates.columns.filter (·.boardId == board.id) = [estimate, notes] := rfl
  simp [Store.schema, Store.columnsOf, List.mem_mergeSort, hfilter]

theorem valuesRequest_puts {fields : Fields} : (valuesRequest fields).PutsValues "t" fields := by
  have hroute : Route.ofSegments? (valuesRequest []).segments = some (.fieldValues "t") := by
    decide +kernel
  exact ⟨hroute, rfl, rfl⟩

theorem authorize_valuesRequest (fields : Fields) :
    ∃ u, authorize estimates (valuesRequest fields) board = .ok u := by
  have hok : (authorize estimates (valuesRequest []) board).isOk = true := by decide +kernel
  exact exists_eq_ok hok

theorem estimates_takes {c : BoardColumn} {p : String × Json} (hp : p ∈ twoEstimates)
    (hc : c ∈ (estimates.schema board).columns) :
    ∃ v, c.Takes (estimates.surroundings Moment.first) p.2 v := by
  simp only [twoEstimates, List.mem_cons, List.not_mem_nil, or_false] at hp
  rcases hp with rfl | rfl <;> rcases mem_columns_estimates.1 hc with rfl | rfl
  · obtain ⟨v, hv⟩ : ∃ v, validate (estimates.surroundings Moment.first) .number
        (estimate.effectiveOptions .number) (.str "3") = .ok v := exists_eq_ok (by decide +kernel)
    exact ⟨v, .number, rfl, hv⟩
  · exact ⟨_, .text, rfl, rfl⟩
  · obtain ⟨v, hv⟩ : ∃ v, validate (estimates.surroundings Moment.first) .number
        (estimate.effectiveOptions .number) (.str " 8 ") = .ok v := exists_eq_ok (by decide +kernel)
    exact ⟨v, .number, rfl, hv⟩
  · exact ⟨_, .text, rfl, rfl⟩

theorem twoEstimates_decides :
    (estimates.schema board).Decides (estimates.surroundings Moment.first) twoEstimates :=
  fun _ hp _ hc => .inl (estimates_takes hp hc.mem)

theorem twoEstimates_accepted {p : String × Json} (hp : p ∈ twoEstimates) (problem : KeyProblem) :
    ¬ (estimates.schema board).Rejects (estimates.surroundings Moment.first) p.1 p.2 problem := by
  rintro (hlacks | ⟨hc, hrejects⟩)
  · have hestimate := hlacks estimate (mem_columns_estimates.2 (.inl rfl))
    simp only [twoEstimates, List.mem_cons, List.not_mem_nil, or_false] at hp
    rcases hp with rfl | rfl
    · exact hestimate.1 rfl
    · exact hestimate.2.2 (by decide +kernel)
  · obtain ⟨v, hv⟩ := estimates_takes hp hc.mem
    exact hv.not_rejects hrejects

theorem noEstimate_decides :
    (estimates.schema board).Decides (estimates.surroundings Moment.first) noEstimate := by
  intro p hp c hc
  simp only [noEstimate, List.mem_cons, List.not_mem_nil, or_false] at hp
  rcases hp with rfl | rfl | rfl <;> rcases mem_columns_estimates.1 hc.mem with rfl | rfl
  · exact .inr ⟨_, .number, rfl, rfl⟩
  · exact .inl ⟨_, .text, rfl, rfl⟩
  · exact .inr ⟨_, .number, rfl, rfl⟩
  · exact .inl ⟨_, .text, rfl, rfl⟩
  · exact .inl ⟨_, .number, rfl, rfl⟩
  · exact .inl ⟨_, .text, rfl, rfl⟩

theorem noEstimate_rejected : (estimates.schema board).Rejects
    (estimates.surroundings Moment.first) "due" .null .unknownColumn := by
  refine .unknownColumn fun c hc => ?_
  rcases mem_columns_estimates.1 hc with rfl | rfl <;> decide +kernel

end Sample

section Example

open Sample

/-- One set is refused, for a key that names no column, and the other one is written. -/
theorem values_all_or_nothing_estimates :
    (∃ keys, ("due", .unknownColumn) ∈ keys
      ∧ handle .usual Moment.first estimates (valuesRequest noEstimate)
        = (.ofRejectedKeys keys, estimates))
    ∧ ∃ s' left, estimates.WritesTo (estimates.surroundings Moment.first) (task "t")
        (estimates.schema board) twoEstimates s'
      ∧ handle .usual Moment.first estimates (valuesRequest twoEstimates)
        = (.ofValues (estimates.schema board).columns left, s') := by
  have hrows : estimates.UniqueRows := by decide
  have hids : (estimates.columns.map (·.id)).Nodup := by decide
  constructor
  · obtain ⟨u, hu⟩ := authorize_valuesRequest noEstimate
    have hdue : ("due", .null) ∈ noEstimate := by simp [noEstimate]
    obtain ⟨keys, -, -, hkeys, hreply⟩ := (values_all_or_nothing .usual hrows hids rfl rfl
      valuesRequest_puts hu (by simp [noEstimate]) noEstimate_decides).1
      ⟨_, hdue, _, noEstimate_rejected⟩
    exact ⟨keys, (hkeys _ _).2 ⟨_, hdue, noEstimate_rejected⟩, hreply⟩
  · obtain ⟨u, hu⟩ := authorize_valuesRequest twoEstimates
    obtain ⟨s', left, hwrites, -, -, hreply, -⟩ := (values_all_or_nothing .usual hrows hids rfl rfl
      valuesRequest_puts hu (by simp [twoEstimates]) twoEstimates_decides).2
      fun p hp => twoEstimates_accepted hp
    exact ⟨s', left, hwrites, hreply⟩

end Example

end BoardQuery
