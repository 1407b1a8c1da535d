import BoardQuery.Proofs.Filter.Faults
import BoardQuery.Proofs.Filter.SharedIssues
import BoardQuery.Proofs.Query.StaleFilters
import BoardQuery.Proofs.Query.WrittenValues
import BoardQuery.Proofs.Service.OneTask
import BoardQuery.Query.Order

/-!
# Columns that are picked

The column picker shows the columns of a board with their types, options and operators. Building,
selecting and sorting look the id of an entry up again, among the names of attributes and the ids
and names of all columns. As long as columns can be addressed by their ids, an id stands for what
its entry describes, whatever other columns are called (`resolve_of_mem`). So what the picker offers
is what a filter and an order may ask for, and nothing else is (`availableColumns_honoured`).
-/

namespace BoardQuery

open FilterBuilder

/-! ## Entries -/

/-- Whether the columns of a board can be addressed by their ids: the ids differ, each may stand in
a condition, and none is the name of an attribute. -/
structure BoardSchema.Addressable (s : BoardSchema) : Prop where
  distinct : (s.columns.map (·.id)).Nodup
  named : ∀ c ∈ s.columns, c.id ≠ ""
  short : ∀ c ∈ s.columns, c.id.length ≤ maxColumnName
  free : ∀ c ∈ s.columns, ∀ a : Attribute, a.name ≠ c.id

/-- The entry that describes an attribute or a column. -/
def Resolved.entry : Resolved → PickerEntry
  | .native a => ⟨a.name, a.name, a.label, a.columnType, a.options, true⟩
  | .column c t => ⟨c.id, c.name, c.name, t, c.effectiveOptions t, false⟩

/-- Where the values of an attribute or a column are kept. -/
def Resolved.key : Resolved → OrderKey
  | .native a => .native a
  | .column c _ => .column c.id

namespace PickerEntry

variable {e : PickerEntry}

/-- What the picker shows of an entry under a name. -/
def shown (e : PickerEntry) (name : String) : Json :=
  Fields.get e.toJson.fields name

theorem shown_id : e.shown "id" = .str e.id := by
  simp [shown, toJson, Json.fields, Fields.get]

theorem shown_type : e.shown "type" = .str e.columnType.name := by
  simp [shown, toJson, Json.fields, Fields.get, List.lookup_cons]

theorem shown_operators : e.shown "operators" = e.columnType.operatorNames := by
  simp [shown, toJson, Json.fields, Fields.get, List.lookup_cons]

theorem shown_options : e.shown "options" = .obj e.options := by
  simp [shown, toJson, Json.fields, Fields.get, List.lookup_cons]

theorem shown_sortable : e.shown "sortable" = .bool e.columnType.sortable := by
  simp [shown, toJson, Json.fields, Fields.get, List.lookup_cons]

theorem shown_isNative : e.shown "is_native" = .bool e.native := by
  simp [shown, toJson, Json.fields, Fields.get, List.lookup_cons]

/-- Whether an entry shows that values are kept in a certain place: in an attribute of tasks, or
under the id of a column. -/
inductive KeptIn (e : PickerEntry) : OrderKey → Prop
  | native {a : Attribute} (hid : e.shown "id" = .str a.name)
    (hnative : e.shown "is_native" = .bool true) : KeptIn e (.native a)
  | column {id : String} (hid : e.shown "id" = .str id)
    (hnative : e.shown "is_native" = .bool false) : KeptIn e (.column id)

/-- Whether a value is among the operators that an entry shows. -/
def Offers (e : PickerEntry) (operator : Json) : Prop :=
  ∃ operators, e.shown "operators" = .arr operators ∧ operator ∈ operators

theorem offers_iff {v : Json} : e.Offers v ↔ ∃ op ∈ e.columnType.operators, v = .str op.name := by
  simp [Offers, shown_operators, ColumnType.operatorNames, Json.ofStrings, eq_comm]

end PickerEntry

theorem Resolved.entry_columnType (r : Resolved) : r.entry.columnType = r.columnType := by
  cases r <;> rfl

theorem Resolved.entry_options (r : Resolved) : r.entry.options = r.options := by
  cases r <;> rfl

theorem Resolved.keptIn_key (r : Resolved) : r.entry.KeptIn r.key := by
  cases r with
  | native a => exact .native PickerEntry.shown_id PickerEntry.shown_isNative
  | column c t => exact .column PickerEntry.shown_id PickerEntry.shown_isNative

section Resolution

variable {s : BoardSchema} {e : PickerEntry} {c : BoardColumn}

theorem Attribute.ofName?_eq_none {name : String} :
    Attribute.ofName? name = none ↔ ∀ a : Attribute, a.name ≠ name := by
  have hevery (a : Attribute) : a ∈ Attribute.every := by cases a <;> decide
  simp [Attribute.ofName?, List.find?_eq_none, hevery]

theorem Attribute.ofName?_name (a : Attribute) : Attribute.ofName? a.name = some a := by
  cases a <;> decide

theorem BoardSchema.Addressable.find?_id (hs : s.Addressable) (hc : c ∈ s.columns) :
    s.find? c.id = some c := by
  rw [BoardSchema.find?, Store.find?_key (·.id) hs.distinct hc]
  rfl

/-- The id of an entry stands for what the entry describes. -/
theorem resolve_of_mem (hs : s.Addressable) (he : e ∈ availableColumns s) :
    ∃ r, resolve (some s) e.id = some r ∧ r.entry = e := by
  rcases List.mem_append.1 he with he | he
  · obtain ⟨a, -, rfl⟩ := List.mem_map.1 he
    exact ⟨.native a, by simp only [resolve, Attribute.ofName?_name], rfl⟩
  · obtain ⟨c, hc, he⟩ := List.mem_filterMap.1 he
    obtain ⟨t, ht, rfl⟩ := Option.map_eq_some_iff.1 he
    have hfree := Attribute.ofName?_eq_none.2 (hs.free c hc)
    exact ⟨.column c t, resolve_id hfree (hs.find?_id hc) ht, rfl⟩

/-- A column whose name is not its id. -/
def namesake (id name : String) (t : ColumnType) : BoardColumn :=
  { Sample.column id t [] with name }

/-- Two columns: the first is called by the id of the second, and the second like an attribute. -/
def namesakes : BoardSchema :=
  ⟨Sample.board.id, Sample.board.workspaceId,
    [namesake "a" "b" .text, namesake "b" "title" .labels]⟩

theorem addressable_namesakes : namesakes.Addressable where
  distinct := by decide
  named := by decide
  short := by decide
  free := by
    simp only [namesakes, List.forall_mem_cons]
    refine ⟨?_, ?_, List.forall_mem_nil _⟩ <;> rintro (_ | _) <;> decide

example : (resolve (some namesakes) "b").map (·.name) = some "title" := by decide

/-- The id of an entry may stand in a condition. -/
theorem columnName_of_mem (hs : s.Addressable) (he : e ∈ availableColumns s) :
    e.id ≠ "" ∧ e.id.length ≤ maxColumnName := by
  rcases List.mem_append.1 he with he | he
  · obtain ⟨a, -, rfl⟩ := List.mem_map.1 he
    cases a <;> decide
  · obtain ⟨c, hc, he⟩ := List.mem_filterMap.1 he
    obtain ⟨t, -, rfl⟩ := Option.map_eq_some_iff.1 he
    exact ⟨hs.named c hc, hs.short c hc⟩

end Resolution

/-! ## Conditions on an entry -/

/-- Whether a reading ends in issues, of which one has a property. -/
def Reports {α : Type} (r : Except FilterError α) (p : Issue → Prop) : Prop :=
  ∃ list, r = .error (.issues list) ∧ ∃ i ∈ list, p i

/-- Whether fields are those of a condition on an entry, in the type that it shows. -/
structure PickerEntry.IsOn (e : PickerEntry) (fields : Fields) : Prop where
  column : Fields.get fields "column" = e.shown "id"
  columnType : Fields.get fields "column_type" = e.shown "type"

/-- What may be found wrong with a condition on an entry: its operator is left out or is not among
those that the entry shows, its logic is unknown, or its operand does not suit. -/
inductive PickerEntry.Finds (e : PickerEntry) (path : String) (fields : Fields) : Issue → Prop
  | noOperator (h : isLeftOut (Fields.get fields "operator") = true) :
    Finds e path fields ⟨path ++ ".operator", .missingField "operator"⟩
  | operator (hnot : ¬ e.Offers (Fields.get fields "operator")) : Finds e path fields
      ⟨path ++ ".operator", .badOperator (Fields.get fields "operator") e.columnType⟩
  | logic : Finds e path fields ⟨path ++ ".logic", .unknownLogic⟩
  | operand {suffix : String} {p : FilterProblem} (hp : p.kind = .value) :
    Finds e path fields ⟨path ++ ".value" ++ suffix, p⟩

section Conditions

variable {ctx : BuildContext} {path : String} {fields : Fields} {e : PickerEntry} {r : Resolved}
  {v : Json}

theorem presenceProblem?_kind {t : ColumnType} {op : Operator} {p : FilterProblem}
    (h : presenceProblem? t op v = .ok (some p)) : p.kind = .value := by
  unfold presenceProblem? at h
  split_ifs at h
  · cases h
  · cases h
    rfl
  · split at h <;> cases h
    · rfl
    · rfl
  · obtain ⟨n, -, h⟩ := bind_eq_ok.1 h
    split_ifs at h
    · cases h
      rfl
    · cases h
  · cases h

/-- What is wrong with an operand is told at its path or below. -/
theorem readOperandAt_issues {env : Surroundings} {t : ColumnType} {op : Operator} {o : Options}
    {list : List Issue} (h : readOperandAt env path t op o v = .error (.issues list)) (i : Issue)
    (hi : i ∈ list) : ∃ suffix p, i = ⟨path ++ suffix, p⟩ ∧ p.kind = .value := by
  unfold readOperandAt at h
  split at h
  · cases h
  · rename_i p hp
    obtain rfl := FilterError.issues.inj (Except.error.inj h)
    obtain rfl := List.mem_singleton.1 hi
    exact ⟨"", p, by rw [String.append_empty], presenceProblem?_kind hp⟩
  · obtain ⟨e, -, he⟩ := mapError_eq_error.1 h
    cases e with
    | fault f => cases he
    | complaints complaints =>
      obtain rfl := FilterError.issues.inj he
      obtain ⟨c, -, rfl⟩ := List.mem_map.1 hi
      exact ⟨c.suffix, _, rfl, rfl⟩

theorem columnName?_of_isOn (hon : e.IsOn fields) (hid : e.id.length ≤ maxColumnName) :
    columnName? (Fields.get fields "column") = some e.id :=
  columnName?_eq_some.2 ⟨hon.column.trans PickerEntry.shown_id, hid⟩

theorem columnType_of_isOn (hon : e.IsOn fields) :
    (Fields.get fields "column_type").str?.bind ColumnType.ofName? = some e.columnType := by
  rw [hon.columnType, PickerEntry.shown_type]
  exact e.columnType.ofName?_name

theorem not_offers_of_isLeftOut (h : isLeftOut v = true) : ¬ e.Offers v := by
  rw [PickerEntry.offers_iff]
  rintro ⟨op, -, rfl⟩
  simp [isLeftOut, Json.isNull, Json.str?, op.name_ne_empty] at h

/-- The operators that an entry shows are those of its type. -/
theorem readOperator_isOk_iff :
    (∃ op, readOperator path e.columnType v = .ok op) ↔ e.Offers v := by
  rw [PickerEntry.offers_iff]
  refine exists_congr fun op => ?_
  rw [readOperator_eq_ok, str?_bind_eq_some fun _ => Operator.ofName?_eq_some, and_comm]

theorem readOperator_eq_error {t : ColumnType} {err : FilterError}
    (h : readOperator path t v = .error err) :
    err = .issues [⟨path ++ ".operator", .badOperator v t⟩] := by
  unfold readOperator at h
  split at h
  · cases h
  · exact (Except.error.inj h).symm

/-- With its column and its type as shown, only the operator and the logic of a condition can be
wrong in structure. -/
theorem finds_of_headIssues (hon : e.IsOn fields) (hid : e.id ≠ "" ∧ e.id.length ≤ maxColumnName)
    (i : Issue) (hi : i ∈ headIssues path fields) : e.Finds path fields i := by
  have hcolumn := columnName?_of_isOn hon hid.2
  have htype := columnType_of_isOn hon
  simp only [headIssues, hcolumn, htype, Option.isSome_some, Bool.or_true, if_true, List.append_nil,
    List.mem_append, List.mem_map, List.mem_filter, requiredFields, List.mem_cons,
    List.not_mem_nil, or_false] at hi
  rcases hi with ⟨name, ⟨rfl | rfl | rfl, hout⟩, rfl⟩ | hi
  · rw [(isLeftOut_of_columnName? hcolumn).2 hid.1] at hout
    cases hout
  · rw [isLeftOut_of_columnType htype] at hout
    cases hout
  · have hpath : path ++ "." ++ "operator" = path ++ ".operator" := by rw [String.append_assoc]; rfl
    exact hpath ▸ .noOperator hout
  · rcases readLogic_cases (Fields.get fields "logic") with ⟨l, h⟩ | h
    · rw [h] at hi
      cases hi
    · rw [h] at hi
      obtain rfl := List.mem_singleton.1 hi
      exact .logic

/-- A condition on an entry is compared in the type that is shown, under the options shown. -/
theorem adopt_of_entry (hlookup : ctx.lookup e.id = some r) (hr : r.entry = e) :
    adopt ctx path e.id e.columnType = .ok (r.columnType, r.options) := by
  refine adopt_eq_ok.2 (.known hlookup ?_)
  rw [← hr, r.entry_columnType]

theorem head_of_isOn (hon : e.IsOn fields) (hid : e.id.length ≤ maxColumnName) {head : Head}
    (h : readHead path fields = .ok head) : head.column = e.id ∧ head.columnType = e.columnType
      ∧ head.operator = Fields.get fields "operator" := by
  obtain ⟨hcolumn, -, htype, -, hoperator, -⟩ := readHead_eq_ok.1 h
  rw [columnName?_of_isOn hon hid] at hcolumn
  rw [columnType_of_isOn hon] at htype
  exact ⟨(Option.some.inj hcolumn).symm, (Option.some.inj htype).symm, hoperator⟩

/-- Nothing else is found wrong with a condition on an entry, its type least of all. -/
theorem finds_of_buildLeaf (hon : e.IsOn fields) (hid : e.id ≠ "" ∧ e.id.length ≤ maxColumnName)
    (hlookup : ctx.lookup e.id = some r) (hr : r.entry = e) {list : List Issue}
    (h : buildLeaf ctx path fields = .error (.issues list)) (i : Issue) (hi : i ∈ list) :
    e.Finds path fields i := by
  rcases bind_eq_error.1 h with hhead | ⟨head, hhead, h⟩
  · obtain rfl := FilterError.issues.inj (readHead_eq_error hhead).1
    exact finds_of_headIssues hon hid i hi
  · obtain ⟨hcolumn, htype, hoperator⟩ := head_of_isOn hon hid.2 hhead
    rw [hcolumn, htype, hoperator] at h
    rcases bind_eq_error.1 h with hop | ⟨op, hop, h⟩
    · have hnot : ¬ e.Offers (Fields.get fields "operator") := by
        rw [← readOperator_isOk_iff]
        rintro ⟨op, hop'⟩
        cases hop.symm.trans hop'
      obtain rfl := FilterError.issues.inj (readOperator_eq_error hop)
      obtain rfl := List.mem_singleton.1 hi
      exact .operator hnot
    · rw [adopt_of_entry hlookup hr, ok_bind] at h
      rcases bind_eq_error.1 h with hread | ⟨v, -, h⟩
      · obtain ⟨suffix, p, rfl, hp⟩ := readOperandAt_issues hread i hi
        exact .operand hp
      · cases h

/-- The problem of an operator that an entry does not show. -/
def PickerEntry.operatorProblem (e : PickerEntry) (v : Json) : FilterProblem :=
  if isLeftOut v then .missingField "operator" else .badOperator v e.columnType

/-- An operator that the entry does not show is the one issue, if the logic is known. -/
theorem buildLeaf_of_not_offers (hon : e.IsOn fields)
    (hid : e.id ≠ "" ∧ e.id.length ≤ maxColumnName) {l : Logic}
    (hlogic : readLogic path (Fields.get fields "logic") = .ok l)
    (hnot : ¬ e.Offers (Fields.get fields "operator")) :
    buildLeaf ctx path fields = .error (.issues
      [⟨path ++ ".operator", e.operatorProblem (Fields.get fields "operator")⟩]) := by
  have hcolumn := columnName?_of_isOn hon hid.2
  have htype := columnType_of_isOn hon
  rcases hout : isLeftOut (Fields.get fields "operator") with _ | _
  · have hhead : readHead path fields
        = .ok ⟨e.id, e.columnType, Fields.get fields "operator", l⟩ :=
      readHead_eq_ok.2 ⟨hcolumn, hid.1, htype, hout, rfl, hlogic⟩
    rcases hop : readOperator path e.columnType (Fields.get fields "operator") with err | op
    · rw [buildLeaf, hhead, ok_bind, hop, error_bind, readOperator_eq_error hop,
        PickerEntry.operatorProblem, hout]
      rfl
    · exact absurd (readOperator_isOk_iff.1 ⟨op, hop⟩) hnot
  · have hissues : headIssues path fields = [⟨path ++ ".operator", .missingField "operator"⟩] := by
      simp [headIssues, hcolumn, htype, readLogic_at hlogic, requiredFields, hout,
        (isLeftOut_of_columnName? hcolumn).2 hid.1, isLeftOut_of_columnType htype,
        String.append_assoc]
    have hhead : readHead path fields
        = .error (.issues [⟨path ++ ".operator", .missingField "operator"⟩]) := by
      simp only [readHead, hissues]
    rw [buildLeaf, hhead, error_bind, PickerEntry.operatorProblem, hout]
    rfl

theorem PickerEntry.Finds.not_offers {i : Issue} (h : e.Finds path fields i)
    (hpath : i.path = path ++ ".operator" ∨ i.problem.kind = .operator) :
    ¬ e.Offers (Fields.get fields "operator") := by
  cases h with
  | noOperator hout => exact not_offers_of_isLeftOut hout
  | operator hnot => exact hnot
  | logic =>
    rcases hpath with hpath | hkind
    · simp [← String.toList_inj] at hpath
    · cases hkind
  | operand hp =>
    rcases hpath with hpath | hkind
    · simp [← String.toList_inj] at hpath
    · cases hp.symm.trans hkind

theorem PickerEntry.Finds.path_ne {i : Issue} (h : e.Finds path fields i) :
    i.path ≠ path ++ ".column_type" := by
  cases h <;> simp [← String.toList_inj]

end Conditions

/-! ## Entries that are honoured -/

/-- Whether a condition was accepted on an entry of the picker. Where stale conditions are kept, it
was in the type that is shown. -/
def Leaf.Accepted (s : BoardSchema) (l : Leaf String Operand) : Prop :=
  ∃ e ∈ availableColumns s, ∃ env stale path fields,
    Fields.get fields "column" = e.shown "id"
      ∧ (stale = true → Fields.get fields "column_type" = e.shown "type")
      ∧ buildLeaf ⟨env, resolve (some s), stale⟩ path fields = .ok l

/-- Whether a board follows what the picker shows of an entry: what its id stands for is as shown;
of a condition on it, the operator is an issue exactly if it is not shown, and the type is none; and
tasks are ordered by it, without a warning, exactly if it shows that they can be. -/
structure PickerEntry.Honoured (s : BoardSchema) (e : PickerEntry) : Prop where
  resolved : ∃ r, resolveValue (some s) (e.shown "id") = some r
    ∧ e.shown "type" = .str r.columnType.name ∧ e.shown "options" = .obj r.options ∧ e.KeptIn r.key
  operator : ∀ env stale path fields, e.IsOn fields →
    (∃ l, readLogic path (Fields.get fields "logic") = .ok l) →
    (Reports (buildLeaf ⟨env, resolve (some s), stale⟩ path fields) (·.path = path ++ ".operator")
      ↔ ¬ e.Offers (Fields.get fields "operator"))
  operatorKind : ∀ env stale path fields, e.IsOn fields →
    (∃ l, readLogic path (Fields.get fields "logic") = .ok l) →
    isLeftOut (Fields.get fields "operator") = false →
    (Reports (buildLeaf ⟨env, resolve (some s), stale⟩ path fields) (·.problem.kind = .operator)
      ↔ ¬ e.Offers (Fields.get fields "operator"))
  columnType : ∀ env stale path fields, e.IsOn fields →
    ¬ Reports (buildLeaf ⟨env, resolve (some s), stale⟩ path fields)
      (·.path = path ++ ".column_type")
  sorted : ∀ missing direction descending, statedDescending direction = .ok descending →
    ∃ o w, chooseOrder missing s (e.shown "id") direction = .ok (o, w)
      ∧ (w = none ↔ e.shown "sortable" = .bool true)
      ∧ (w = none → e.shown "id" = .str o.sortBy ∧ e.KeptIn o.key ∧ o.descending = descending
        ∧ o.missing = missing)

section Honoured

variable {s : BoardSchema} {e : PickerEntry}

theorem resolved_of_mem (hs : s.Addressable) (he : e ∈ availableColumns s) :
    ∃ r, resolveValue (some s) (e.shown "id") = some r ∧ e.shown "type" = .str r.columnType.name
      ∧ e.shown "options" = .obj r.options ∧ e.KeptIn r.key := by
  obtain ⟨r, hr, rfl⟩ := resolve_of_mem hs he
  refine ⟨r, ?_, ?_, ?_, r.keptIn_key⟩
  · rw [PickerEntry.shown_id]
    exact hr
  · rw [PickerEntry.shown_type, r.entry_columnType]
  · rw [PickerEntry.shown_options, r.entry_options]

/-- What can be wrong with the operator of a condition on an entry is that it is not shown. -/
theorem reports_of_mem (hs : s.Addressable) (he : e ∈ availableColumns s) {env : Surroundings}
    {stale : Bool} {path : String} {fields : Fields} (hon : e.IsOn fields)
    (hlogic : ∃ l, readLogic path (Fields.get fields "logic") = .ok l) {p : Issue → Prop}
    (hp : ∀ i, p i → i.path = path ++ ".operator" ∨ i.problem.kind = .operator)
    (hfound : p ⟨path ++ ".operator", e.operatorProblem (Fields.get fields "operator")⟩) :
    Reports (buildLeaf ⟨env, resolve (some s), stale⟩ path fields) p
      ↔ ¬ e.Offers (Fields.get fields "operator") := by
  have hid := columnName_of_mem hs he
  obtain ⟨r, hr, hentry⟩ := resolve_of_mem hs he
  constructor
  · rintro ⟨list, hlist, i, hi, hpi⟩
    exact (finds_of_buildLeaf hon hid hr hentry hlist i hi).not_offers (hp i hpi)
  · intro hnot
    obtain ⟨l, hl⟩ := hlogic
    exact ⟨_, buildLeaf_of_not_offers hon hid hl hnot, _, List.mem_cons_self, hfound⟩

theorem chooseOrder_of_mem (hs : s.Addressable) (he : e ∈ availableColumns s)
    (missing : MissingPolicy) {direction : Json} {descending : Bool}
    (hdirection : statedDescending direction = .ok descending) :
    ∃ o w, chooseOrder missing s (e.shown "id") direction = .ok (o, w)
      ∧ (w = none ↔ e.shown "sortable" = .bool true)
      ∧ (w = none → e.shown "id" = .str o.sortBy ∧ e.KeptIn o.key ∧ o.descending = descending
        ∧ o.missing = missing) := by
  have hne := (columnName_of_mem hs he).1
  obtain ⟨r, hr, rfl⟩ := resolve_of_mem hs he
  have hstated : (Json.str r.entry.id).orElse (.str Attribute.position.name) = .str r.entry.id := by
    rw [Json.orElse, if_pos]
    exact bne_iff_ne.2 hne
  have hresolve : resolveValue (some s) (.str r.entry.id) = some r := hr
  rw [PickerEntry.shown_sortable, r.entry_columnType, PickerEntry.shown_id]
  simp only [chooseOrder, hstated, hdirection, ok_bind, hresolve, Json.bool.injEq]
  split_ifs with hsortable
  · refine ⟨_, none, rfl, iff_of_true rfl hsortable, fun _ => ⟨rfl, ?_, rfl, rfl⟩⟩
    cases r <;> exact Resolved.keptIn_key _
  · exact ⟨_, _, rfl, iff_of_false (by simp) hsortable, by simp⟩

/-- A condition on an entry that stands is not stale, unless stale conditions are kept and it is of
another family. -/
theorem fresh_of_stands (hs : s.Addressable) (he : e ∈ availableColumns s)
    {l : Leaf String Operand} (hid : e.shown "id" = .str l.column) {env : Surroundings}
    {stale : Bool} (hl : l.Stands ⟨env, resolve (some s), stale⟩)
    (hfamily : stale = true → l.columnType.family = e.columnType.family) : l.isStale s = false := by
  obtain ⟨r, hr, rfl⟩ := resolve_of_mem hs he
  rw [PickerEntry.shown_id, Json.str.injEq] at hid
  rw [hid] at hr
  obtain ⟨o, hadopted, -⟩ := hl
  rw [adopted_of_some hr] at hadopted
  rw [Leaf.isStale, hr, Option.all_some, bne_eq_false_iff_eq]
  split_ifs at hadopted with h
  · exact h
  · rw [hfamily hadopted.1, r.entry_columnType]

theorem Leaf.Accepted.fresh (hs : s.Addressable) {l : Leaf String Operand} (h : l.Accepted s) :
    l.isStale s = false := by
  obtain ⟨e, he, env, stale, path, fields, hcolumn, htype, hbuilt⟩ := h
  obtain ⟨head, t, o, hhead, -, hadopted, -, hnamed, rfl, -⟩ := buildLeaf_eq_ok.1 hbuilt
  obtain ⟨hname, -, hasked, -⟩ := readHead_eq_ok.1 hhead
  refine fresh_of_stands hs he ?_ (buildLeaf_sound hbuilt).2 fun hstale => ?_
  · rw [hnamed, ← hcolumn, (columnName?_eq_some.1 hname).1]
  · rw [htype hstale, PickerEntry.shown_type] at hasked
    have hsame : e.columnType = head.columnType :=
      Option.some.inj (e.columnType.ofName?_name.symm.trans hasked)
    rw [hadopted.family_eq, hsame]

/-- A filter without stale conditions is followed without a warning. -/
theorem warnings_of_fresh {t : BuiltFilter} (ht : ∀ l ∈ t.leaves, l.isStale s = false) :
    (Selection.ofFilter s t).warnings = [] := by
  have hnone : t.leaves.filter (·.isStale s) = [] :=
    List.filter_eq_nil_iff.2 fun l hl => by simp [ht l hl]
  rw [Selection.warnings_ofFilter, hnone, List.map_nil]

end Honoured

/-- On a board whose columns can be addressed by their ids, what the picker shows is honoured, and a
filter of accepted conditions on what it shows is followed without a warning, whether it was put
together from them or built from a document. -/
theorem availableColumns_honoured (s : BoardSchema) (hs : s.Addressable) :
    (∀ e ∈ availableColumns s, e.Honoured s)
      ∧ (∀ t : BuiltFilter, (∀ l ∈ t.leaves, l.Accepted s) →
        (Selection.ofFilter s t).warnings = [])
      ∧ ∀ env raw t, build ⟨env, resolve (some s), false⟩ raw = .ok t →
        (∀ l ∈ t.leaves, ∃ e ∈ availableColumns s, e.shown "id" = .str l.column) →
        (Selection.ofFilter s t).warnings = [] := by
  refine ⟨fun e he => ?_, fun t ht => warnings_of_fresh fun l hl => (ht l hl).fresh hs,
    fun env raw t hbuilt ht => warnings_of_fresh fun l hl => ?_⟩
  · have hid := columnName_of_mem hs he
    obtain ⟨r, hr, hentry⟩ := resolve_of_mem hs he
    constructor
    case resolved => exact resolved_of_mem hs he
    case operator =>
      exact fun env stale path fields hon hlogic =>
        reports_of_mem hs he hon hlogic (fun i h => .inl h) rfl
    case operatorKind =>
      intro env stale path fields hon hlogic hstated
      refine reports_of_mem hs he hon hlogic (fun i h => .inr h) ?_
      rw [PickerEntry.operatorProblem, hstated]
      rfl
    case columnType =>
      rintro env stale path fields hon ⟨list, hlist, i, hi, hpath⟩
      exact (finds_of_buildLeaf hon hid hr hentry hlist i hi).path_ne hpath
    case sorted => exact fun missing direction descending h => chooseOrder_of_mem hs he missing h
  · obtain ⟨e, he, hid⟩ := ht l hl
    exact fresh_of_stands hs he hid ((build_sound hbuilt).2 l hl) (by simp)

section Example

def onNamesake : Leaf String Operand :=
  ⟨"a", .text, .equals, .text "x", .all⟩

theorem buildLeaf_onNamesake : buildLeaf ⟨atFirst, resolve (some namesakes), false⟩ "filters.0"
    (equalsFields "a" .text (.str "x")) = .ok onNamesake := rfl

theorem availableColumns_honoured_namesakes :
    namesakes.Addressable ∧ (∀ e ∈ availableColumns namesakes, e.Honoured namesakes)
      ∧ (Selection.ofFilter namesakes (.leaf onNamesake)).warnings = [] := by
  have hs := addressable_namesakes
  obtain ⟨hentries, htrees, -⟩ := availableColumns_honoured namesakes hs
  refine ⟨hs, hentries, htrees (.leaf onNamesake) fun l hl => ?_⟩
  obtain rfl := List.mem_singleton.1 hl
  refine ⟨(Resolved.column (namesake "a" "b" .text) .text).entry,
    List.mem_append_right _ List.mem_cons_self, atFirst, false, "filters.0", _, ?_, by simp,
    buildLeaf_onNamesake⟩
  rw [PickerEntry.shown_id]
  rfl

end Example

end BoardQuery
