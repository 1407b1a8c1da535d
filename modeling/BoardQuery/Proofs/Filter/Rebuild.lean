import BoardQuery.Proofs.Filter.Operands

/-!
# Filters that are built again

A built filter is sound: none of its groups is empty, and each of its conditions has a name, an
operator of its type and a canonical operand (`build_sound`). Each condition also stands against
what it was built against: its column lends it the type it has, and allows its operand. Building
the written form of a sound filter yields the filter itself exactly if all its conditions stand
(`buildNode_toJson`), so what has been built once is built again without change.
-/

namespace BoardQuery

open FilterBuilder

/-! ## Readings one after another -/

section Readings

variable {α β : Type} {a : Except FilterError α} {b : Except FilterError β}

@[simp]
theorem alongside_eq_ok {p : α × β} : alongside a b = .ok p ↔ a = .ok p.1 ∧ b = .ok p.2 := by
  obtain ⟨x, y⟩ := p
  rcases a with (_ | _) | x' <;> rcases b with (_ | _) | y' <;> simp [alongside]

theorem gather_eq_ok {xs : List α} {rs : List (Except FilterError α)} :
    gather rs = .ok xs ↔ rs = xs.map .ok := by
  induction rs generalizing xs with
  | nil => cases xs <;> simp [gather]
  | cons r rest ih =>
    simp only [gather, map_eq_ok, alongside_eq_ok, Prod.exists]
    constructor
    · rintro ⟨x, ys, ⟨rfl, hrest⟩, rfl⟩
      rw [ih.1 hrest]
      rfl
    · intro h
      cases xs with
      | nil => exact absurd h (by simp)
      | cons x ys =>
        obtain ⟨rfl, hrest⟩ := List.cons.inj h
        exact ⟨x, ys, ⟨rfl, ih.2 hrest⟩, rfl⟩

end Readings

/-! ## Names -/

theorem ColumnType.ofName?_name (t : ColumnType) : ColumnType.ofName? t.name = some t := by
  cases t <;> decide

theorem Operator.ofName?_name (op : Operator) : Operator.ofName? op.name = some op := by
  cases op <;> decide

theorem Operator.name_ne_empty (op : Operator) : op.name ≠ "" := by
  cases op <;> decide

theorem Logic.ofName?_upper_name (l : Logic) : Logic.ofName? (Text.upper l.name) = some l := by
  cases l <;> decide

theorem readLogic_name (path : String) (l : Logic) : readLogic path (.str l.name) = .ok l := by
  simp only [readLogic, Logic.ofName?_upper_name]

/-! ## The parts of a condition -/

section Parts

variable {ctx : BuildContext} {path path' column : String} {fields : Fields} {head : Head}
  {t : ColumnType} {op : Operator} {v : Json}

/-- Reading a logic succeeds at any path or at none. -/
theorem readLogic_at {l : Logic} (h : readLogic path v = .ok l) : readLogic path' v = .ok l := by
  unfold readLogic at h ⊢
  split at h
  · exact h
  · split at h <;> first | exact h | exact absurd h (by simp)
  · exact absurd h (by simp)

theorem isLeftOut_of_columnName? {name : String} (h : columnName? v = some name) :
    isLeftOut v = false ↔ name ≠ "" := by
  cases v with
  | str s =>
    obtain ⟨hs, -⟩ := Option.filter_eq_some_iff.1 h
    obtain rfl := Option.some.inj hs
    simp [isLeftOut, Json.isNull, Json.str?]
  | _ => exact absurd h (by simp [columnName?, Json.str?])

theorem isLeftOut_of_columnType (h : v.str?.bind ColumnType.ofName? = some t) :
    isLeftOut v = false := by
  cases v with
  | str s =>
    have hs : s ≠ "" := by
      rintro rfl
      have hnone : ColumnType.ofName? "" = none := by decide
      exact absurd (hnone.symm.trans h) (by simp)
    simp [isLeftOut, Json.isNull, Json.str?, hs]
  | _ => exact absurd h (by simp [Json.str?])

/-- With a column name, a column type and a logic, only a field left out is an issue. -/
theorem headIssues_eq_nil {l : Logic}
    (hcolumn : columnName? (Fields.get fields "column") = some column)
    (htype : (Fields.get fields "column_type").str?.bind ColumnType.ofName? = some t)
    (hlogic : readLogic path' (Fields.get fields "logic") = .ok l) :
    headIssues path fields = []
      ↔ column ≠ "" ∧ isLeftOut (Fields.get fields "operator") = false := by
  simp only [headIssues, hcolumn, htype, readLogic_at hlogic, Option.isSome_some, Bool.or_true,
    if_true,
    List.append_nil, List.map_eq_nil_iff, List.filter_eq_nil_iff, requiredFields,
    List.forall_mem_cons,
    isLeftOut_of_columnType htype, ← isLeftOut_of_columnName? hcolumn, Bool.not_eq_true]
  simp

/-- The structure of a condition is right if it has a column name, a column type and an operator,
and no logic but a known one. -/
theorem readHead_eq_ok : readHead path fields = .ok head ↔
    columnName? (Fields.get fields "column") = some head.column ∧ head.column ≠ ""
    ∧ (Fields.get fields "column_type").str?.bind ColumnType.ofName? = some head.columnType
    ∧ isLeftOut (Fields.get fields "operator") = false
    ∧ head.operator = Fields.get fields "operator"
    ∧ readLogic path (Fields.get fields "logic") = .ok head.logic := by
  obtain ⟨column, columnType, operator, logic⟩ := head
  constructor
  · intro h
    unfold readHead at h
    split at h
    · rename_i hissues hcolumn htype hlogic
      simp only [Except.ok.injEq, Head.mk.injEq] at h
      obtain ⟨rfl, rfl, rfl, rfl⟩ := h
      obtain ⟨hne, hoperator⟩ := (headIssues_eq_nil hcolumn htype hlogic).1 hissues
      exact ⟨hcolumn, hne, htype, hoperator, rfl, hlogic⟩
    · exact absurd h (by simp)
  · rintro ⟨hcolumn, hne, htype, hoperator, rfl, hlogic⟩
    have hissues : headIssues path fields = [] :=
      (headIssues_eq_nil hcolumn htype hlogic).2 ⟨hne, hoperator⟩
    simp only [readHead, hissues, hcolumn, htype, hlogic]

theorem readOperator_eq_ok : readOperator path t v = .ok op ↔
    v.str?.bind Operator.ofName? = some op ∧ op ∈ t.operators := by
  unfold readOperator
  split
  · rename_i op' hop
    obtain ⟨hname, hmem⟩ := Option.filter_eq_some_iff.1 hop
    rw [hname, Except.ok.injEq, Option.some.injEq]
    constructor
    · rintro rfl
      exact ⟨rfl, by simpa using hmem⟩
    · exact fun h => h.1
  · rename_i hnone
    simp only [reduceCtorEq, false_iff]
    rintro ⟨hname, hmem⟩
    exact absurd (hnone ▸ Option.filter_eq_some_iff.2 ⟨hname, by simpa using hmem⟩) (by simp)

/-- The type in which a condition of type `t` on a column is compared, and the options that its
operand is read under: those of the column, or the defaults of `t` where there is no such column or
a stale condition is kept. -/
inductive Adopted (ctx : BuildContext) (column : String) (t : ColumnType) :
    ColumnType → Options → Prop
  | unknown (h : ctx.lookup column = none) : Adopted ctx column t t t.defaultOptions
  | known {r : Resolved} (h : ctx.lookup column = some r)
    (hfamily : r.columnType.family = t.family) : Adopted ctx column t r.columnType r.options
  | stale {r : Resolved} (h : ctx.lookup column = some r)
    (hfamily : r.columnType.family ≠ t.family) (hstale : ctx.staleOk = true) :
    Adopted ctx column t t t.defaultOptions

theorem adopt_eq_ok {t' : ColumnType} {o : Options} :
    adopt ctx path column t = .ok (t', o) ↔ Adopted ctx column t t' o := by
  unfold adopt
  split
  · rename_i hnone
    constructor
    · intro h
      obtain ⟨rfl, rfl⟩ := Prod.mk.inj (Except.ok.inj h)
      exact .unknown hnone
    · intro h
      cases h with
      | unknown => rfl
      | known h | stale h => exact absurd (hnone.symm.trans h) (by simp)
  · rename_i r hr
    simp only [beq_iff_eq]
    constructor
    · intro h
      split_ifs at h with hfamily hstale
      · obtain ⟨rfl, rfl⟩ := Prod.mk.inj (Except.ok.inj h)
        exact .known hr hfamily
      · obtain ⟨rfl, rfl⟩ := Prod.mk.inj (Except.ok.inj h)
        exact .stale hr hfamily hstale
    · intro h
      cases h with
      | unknown h => exact absurd (hr.symm.trans h) (by simp)
      | known h hfamily =>
        obtain rfl := Option.some.inj (hr.symm.trans h)
        exact if_pos hfamily
      | stale h hfamily hstale =>
        obtain rfl := Option.some.inj (hr.symm.trans h)
        rw [if_neg hfamily, if_pos hstale]

theorem adopted_iff {t' : ColumnType} {o : Options} :
    Adopted ctx column t t' o ↔ adopt ctx "" column t = .ok (t', o) :=
  adopt_eq_ok.symm

theorem adopted_of_none {t' : ColumnType} {o : Options} (h : ctx.lookup column = none) :
    Adopted ctx column t t' o ↔ t' = t ∧ o = t.defaultOptions := by
  rw [adopted_iff, adopt, h, Except.ok.injEq, Prod.mk.injEq, eq_comm,
    eq_comm (a := o)]

theorem adopted_of_some {t' : ColumnType} {o : Options} {r : Resolved}
    (h : ctx.lookup column = some r) : Adopted ctx column t t' o ↔
      if r.columnType.family = t.family then t' = r.columnType ∧ o = r.options
      else ctx.staleOk = true ∧ t' = t ∧ o = t.defaultOptions := by
  rw [adopted_iff, adopt, h]
  simp only [beq_iff_eq]
  split_ifs with hfamily hstale
  · rw [Except.ok.injEq, Prod.mk.injEq, eq_comm, eq_comm (a := o)]
  · rw [Except.ok.injEq, Prod.mk.injEq, eq_comm, eq_comm (a := o), and_iff_right hstale]
  · simp [hstale]

theorem Adopted.functional {t₁ t₂ : ColumnType} {o₁ o₂ : Options} (h₁ : Adopted ctx column t t₁ o₁)
    (h₂ : Adopted ctx column t t₂ o₂) : t₁ = t₂ ∧ o₁ = o₂ :=
  Prod.mk.inj (Except.ok.inj ((adopted_iff.1 h₁).symm.trans (adopted_iff.1 h₂)))

theorem Adopted.family_eq {t' : ColumnType} {o : Options} (h : Adopted ctx column t t' o) :
    t'.family = t.family := by
  cases h with
  | unknown | stale => rfl
  | known _ hfamily => exact hfamily

/-- A condition of the type that was adopted adopts it again. -/
theorem Adopted.again {t' : ColumnType} {o : Options} (h : Adopted ctx column t t' o) :
    Adopted ctx column t' t' o := by
  cases h with
  | unknown h => exact .unknown h
  | known h => exact .known h rfl
  | stale h hfamily hstale => exact .stale h hfamily hstale

end Parts

/-! ## Sound filters -/

/-- A condition as building leaves it: named, with an operator of its type and an operand of their
form. -/
structure Leaf.WellFormed (l : Leaf String Operand) : Prop where
  named : l.column ≠ ""
  short : l.column.length ≤ maxColumnName
  operator : l.operator ∈ l.columnType.operators
  operand : l.operand.Formed l.columnType l.operator

/-- Whether a condition keeps its type in a context, and its operand is allowed there. -/
def Leaf.Stands (ctx : BuildContext) (l : Leaf String Operand) : Prop :=
  ∃ o, Adopted ctx l.column l.columnType l.columnType o
    ∧ l.operand.Allowed ctx.surroundings l.columnType o

/-- Whether a condition can only be built with the type it has. -/
def Leaf.Keeps (ctx : BuildContext) (l : Leaf String Operand) : Prop :=
  ∀ t o, Adopted ctx l.column l.columnType t o → t = l.columnType

theorem Leaf.Stands.keeps {ctx : BuildContext} {l : Leaf String Operand} (h : l.Stands ctx) :
    l.Keeps ctx := by
  obtain ⟨o, ho, -⟩ := h
  exact fun t o' h' => (h'.functional ho).1

section Leaves

variable {ctx : BuildContext} {path : String} {fields : Fields} {l l' : Leaf String Operand}

theorem columnName?_eq_some {v : Json} {name : String} :
    columnName? v = some name ↔ v = .str name ∧ name.length ≤ maxColumnName := by
  cases v <;> simp [columnName?, Json.str?, Option.filter_eq_some_iff]

theorem buildLeaf_eq_ok : buildLeaf ctx path fields = .ok l ↔ ∃ head t' o,
    readHead path fields = .ok head
    ∧ readOperator path head.columnType head.operator = .ok l.operator
    ∧ Adopted ctx head.column head.columnType t' o
    ∧ readOperandAt ctx.surroundings (path ++ ".value") t' l.operator o (Fields.get fields "value")
      = .ok l.operand
    ∧ l.column = head.column ∧ l.columnType = t' ∧ l.logic = head.logic := by
  obtain ⟨column, columnType, operator, operand, logic⟩ := l
  simp only [buildLeaf, bind_eq_ok, pure_eq_ok, Leaf.mk.injEq, Prod.exists, adopt_eq_ok]
  constructor
  · rintro ⟨head, hhead, op, hop, t', o, hadopted, v, hv, rfl, rfl, rfl, rfl, rfl⟩
    exact ⟨head, _, o, hhead, hop, hadopted, hv, rfl, rfl, rfl⟩
  · rintro ⟨head, t', o, hhead, hop, hadopted, hv, rfl, rfl, rfl⟩
    exact ⟨head, hhead, _, hop, _, o, hadopted, _, hv, rfl, rfl, rfl, rfl, rfl⟩

theorem buildLeaf_sound (h : buildLeaf ctx path fields = .ok l) : l.WellFormed ∧ l.Stands ctx := by
  obtain ⟨head, t', o, hhead, hop, hadopted, hv, hcolumn, rfl, -⟩ := buildLeaf_eq_ok.1 h
  obtain ⟨hname, hne, -⟩ := readHead_eq_ok.1 hhead
  obtain ⟨-, hmem⟩ := readOperator_eq_ok.1 hop
  obtain ⟨hformed, hallowed⟩ := formed_of_readOperandAt hv
  -- operators belong to the family, which adopting a type keeps
  have hmem' : l.operator ∈ l.columnType.operators := by
    rwa [ColumnType.operators, hadopted.family_eq]
  rw [← hcolumn] at hname hne hadopted
  exact ⟨⟨hne, (columnName?_eq_some.1 hname).2, hmem', hformed⟩, o, hadopted.again, hallowed⟩

/-- The fields of a condition, as they are written. -/
def Leaf.written (l : Leaf String Operand) : Fields :=
  (RawFilter.leafJson (l.map Json.str Operand.toJson)).fields

theorem Leaf.get_written (l : Leaf String Operand) :
    Fields.get l.written "column" = .str l.column
    ∧ Fields.get l.written "column_type" = .str l.columnType.name
    ∧ Fields.get l.written "operator" = .str l.operator.name
    ∧ Fields.get l.written "value" = l.operand.toJson
    ∧ Fields.get l.written "logic" = .str l.logic.name := by
  simp [written, RawFilter.leafJson, Leaf.map, Json.fields, Fields.get, List.lookup_cons]

theorem readHead_written (hl : l.WellFormed) : readHead path l.written
    = .ok ⟨l.column, l.columnType, .str l.operator.name, l.logic⟩ := by
  obtain ⟨hcolumn, htype, hoperator, -, hlogic⟩ := l.get_written
  have hnotLeftOut : isLeftOut (.str l.operator.name) = false := by
    simp [isLeftOut, Json.isNull, Json.str?, l.operator.name_ne_empty]
  simp only [readHead_eq_ok, hcolumn, htype, hoperator, hlogic, columnName?_eq_some, Json.str?,
    Option.bind_some, ColumnType.ofName?_name, readLogic_name, hnotLeftOut, and_true]
  exact ⟨⟨trivial, hl.short⟩, hl.named⟩

/-- What is left to build of a written condition: its type and its operand. -/
theorem buildLeaf_written_eq (hl : l.WellFormed) : buildLeaf ctx path l.written = (do
    let (t, o) ← adopt ctx path l.column l.columnType
    let v ← readOperandAt ctx.surroundings (path ++ ".value") t l.operator o l.operand.toJson
    return ⟨l.column, t, l.operator, v, l.logic⟩) := by
  obtain ⟨-, -, -, hvalue, -⟩ := l.get_written
  have hop : readOperator path l.columnType (.str l.operator.name) = .ok l.operator := by
    rw [readOperator_eq_ok, Json.str?, Option.bind_some, Operator.ofName?_name]
    exact ⟨rfl, hl.operator⟩
  simp only [buildLeaf, readHead_written hl, ok_bind, hop, hvalue]

/-- The written form of a condition is built into the condition itself, exactly if it stands. -/
theorem buildLeaf_written (hl : l.WellFormed) (hkeeps : l.Keeps ctx) :
    buildLeaf ctx path l.written = .ok l' ↔ l' = l ∧ l.Stands ctx := by
  simp only [buildLeaf_written_eq hl, bind_eq_ok, pure_eq_ok, Prod.exists, adopt_eq_ok]
  constructor
  · rintro ⟨t, o, hadopted, v, hv, rfl⟩
    obtain rfl := hkeeps t o hadopted
    obtain ⟨rfl, hallowed⟩ := (readOperandAt_toJson hl.operator hl.operand).1 hv
    exact ⟨rfl, o, hadopted, hallowed⟩
  · rintro ⟨rfl, o, hadopted, hallowed⟩
    exact ⟨_, o, hadopted, _,
      (readOperandAt_toJson hl.operator hl.operand).2 ⟨rfl, hallowed⟩, rfl⟩

end Leaves

/-! ## Filters -/

namespace Filter

variable {Name Value : Type}

mutual

/-- Whether no group of a filter is empty. -/
def solid : Filter Name Value → Bool
  | .leaf _ => true
  | .group _ members => !members.isEmpty && membersSolid members

def membersSolid : List (Filter Name Value) → Bool
  | [] => true
  | m :: rest => solid m && membersSolid rest

end

end Filter

/-- A filter as building leaves it: without empty groups, and every condition well formed. -/
structure BuiltFilter.Sound (t : BuiltFilter) : Prop where
  solid : t.solid = true
  leaves : ∀ l ∈ t.leaves, l.WellFormed

theorem membersOf_eq_some {fields : Fields} {items : List Json}
    {h : sizeOf items < sizeOf fields} :
    membersOf fields = some ⟨items, h⟩ ↔ fields.lookup "filters" = some (.arr items) := by
  unfold membersOf
  split
  · rename_i items' h'
    simp only [h', Option.some.injEq, Subtype.mk.injEq, Json.arr.injEq]
  · rename_i hne
    simp only [reduceCtorEq, false_iff]
    exact hne items

/-- The readings of the members of a group. -/
theorem buildMembers_eq_ok {ctx : BuildContext} {path : String} {items : List Json}
    {ms : List BuiltFilter} : buildMembers ctx path items = .ok ms ↔
      items ≠ [] ∧ buildItems ctx path 0 items = ms.map .ok := by
  rw [buildMembers]
  split_ifs with hempty
  · simp [List.isEmpty_iff.1 hempty]
  · rw [gather_eq_ok, and_iff_right (by simpa using hempty)]

theorem members_ne_nil {ctx : BuildContext} {path : String} {items : List Json}
    {ms : List BuiltFilter} (h : buildMembers ctx path items = .ok ms) : ms ≠ [] := by
  obtain ⟨hne, hbuilt⟩ := buildMembers_eq_ok.1 h
  rintro rfl
  cases items with
  | nil => exact hne rfl
  | cons v rest => exact absurd hbuilt (by simp [buildItems])

/-- A node is built from its fields: a group from its logic and members, or a condition. -/
theorem buildNode_eq_ok {ctx : BuildContext} {path : String} {raw : Json} {t : BuiltFilter} :
    buildNode ctx path raw = .ok t ↔ ∃ fields, raw = .obj fields
      ∧ isNodeType (Fields.get fields "type") = true
      ∧ if (Fields.get fields "type").str? = some "group" ∨ Fields.has fields "filters" = true then
          ∃ items logic ms, fields.lookup "filters" = some (.arr items)
            ∧ readLogic (path ++ ".logic") (Fields.get fields "logic") = .ok logic
            ∧ buildMembers ctx (path ++ ".filters") items = .ok ms ∧ t = .group logic ms
        else ∃ l, buildLeaf ctx path fields = .ok l ∧ t = .leaf l := by
  cases raw with
  | obj fields =>
    rw [buildNode]
    simp only [Json.obj.injEq, exists_eq_left', ite_error_eq_ok, Bool.not_eq_true',
      Bool.not_eq_false,
      Bool.or_eq_true, beq_iff_eq]
    refine and_congr_right fun _ => ?_
    split_ifs with hgroup
    · simp only [map_eq_ok, alongside_eq_ok, Prod.exists]
      constructor
      · rintro ⟨logic, ms, ⟨hlogic, hmembers⟩, rfl⟩
        split at hmembers
        · rename_i items hlt hitems
          exact ⟨items, logic, ms, membersOf_eq_some.1 hitems, hlogic, hmembers, rfl⟩
        · exact absurd hmembers (by simp)
      · rintro ⟨items, logic, ms, hitems, hlogic, hmembers, rfl⟩
        have hlt : sizeOf items < sizeOf fields := by
          have := sizeOf_lookup_lt hitems
          simp at this
          omega
        refine ⟨logic, ms, ⟨hlogic, ?_⟩, rfl⟩
        rw [(membersOf_eq_some (h := hlt)).2 hitems]
        exact hmembers
    · simp only [map_eq_ok]
      exact exists_congr fun l => and_congr_right fun _ => eq_comm
  | _ => simp [buildNode]

section Trees

variable {ctx : BuildContext}

mutual

/-- By recursion over the document, as building goes. -/
theorem buildNode_sound (path : String) (raw : Json) {t : BuiltFilter}
    (h : buildNode ctx path raw = .ok t) :
    t.solid = true ∧ ∀ l ∈ t.leaves, l.WellFormed ∧ l.Stands ctx := by
  obtain ⟨fields, hraw, -, h⟩ := buildNode_eq_ok.1 h
  split_ifs at h with hgroup
  · obtain ⟨items, logic, ms, hitems, -, hmembers, rfl⟩ := h
    obtain ⟨-, hbuilt⟩ := buildMembers_eq_ok.1 hmembers
    have hsize : sizeOf items < sizeOf raw := by
      have := sizeOf_lookup_lt hitems
      simp only [hraw, Json.arr.sizeOf_spec, Json.obj.sizeOf_spec] at this ⊢
      omega
    obtain ⟨hsolid, hleaves⟩ := buildItems_sound _ 0 items hbuilt
    exact ⟨by simpa [Filter.solid, members_ne_nil hmembers] using hsolid, hleaves⟩
  · obtain ⟨l, hl, rfl⟩ := h
    refine ⟨rfl, fun l' hl' => ?_⟩
    obtain rfl := List.mem_singleton.1 hl'
    exact buildLeaf_sound hl
termination_by sizeOf raw

theorem buildItems_sound (path : String) (index : Nat) (items : List Json) {ms : List BuiltFilter}
    (h : buildItems ctx path index items = ms.map .ok) :
    Filter.membersSolid ms = true ∧ ∀ l ∈ Filter.membersLeaves ms, l.WellFormed ∧ l.Stands ctx := by
  cases items with
  | nil =>
    rw [buildItems, eq_comm, List.map_eq_nil_iff] at h
    subst h
    exact ⟨rfl, fun l hl => absurd hl List.not_mem_nil⟩
  | cons v rest =>
    cases ms with
    | nil => exact absurd h (by simp [buildItems])
    | cons m ms =>
      rw [buildItems, List.map_cons, List.cons.injEq] at h
      obtain ⟨hsolid, hleaves⟩ := buildNode_sound _ v h.1
      obtain ⟨hsolids, hrest⟩ := buildItems_sound _ _ rest h.2
      refine ⟨by simp [Filter.membersSolid, hsolid, hsolids], fun l hl => ?_⟩
      rcases List.mem_append.1 hl with hl | hl
      · exact hleaves l hl
      · exact hrest l hl
termination_by sizeOf items

end

theorem toJson_leaf (l : Leaf String Operand) :
    RawFilter.toJson (BuiltFilter.toRaw (.leaf l)) = .obj l.written := by
  simp [BuiltFilter.toRaw, Filter.map, RawFilter.toJson, Leaf.written, RawFilter.leafJson,
    Json.fields]

theorem Leaf.written_type (l : Leaf String Operand) :
    isNodeType (Fields.get l.written "type") = true
      ∧ ¬ ((Fields.get l.written "type").str? = some "group"
        ∨ Fields.has l.written "filters" = true) := by
  simp [Leaf.written, RawFilter.leafJson, Leaf.map, Json.fields, Fields.get, Fields.has,
    isNodeType, Json.isNull, Json.str?]

/-- The fields of a written group. -/
def groupFields (logic : Logic) (items : List Json) : Fields :=
  [("type", .str "group"), ("logic", .str logic.name), ("filters", .arr items)]

theorem toJson_group (logic : Logic) (members : List BuiltFilter) :
    RawFilter.toJson (BuiltFilter.toRaw (.group logic members)) = .obj (groupFields logic
      (RawFilter.membersJson (Filter.mapMembers Json.str Operand.toJson members))) := by
  simp only [BuiltFilter.toRaw, Filter.map, RawFilter.toJson, groupFields]

theorem toDocument_group (logic : Logic) (members : List BuiltFilter) :
    RawFilter.toDocument (BuiltFilter.toRaw (.group logic members))
      = .obj [("logic", .str logic.name), ("filters", .arr (RawFilter.membersJson
        (Filter.mapMembers Json.str Operand.toJson members)))] := by
  simp only [RawFilter.toDocument, BuiltFilter.toRaw, Filter.map, Filter.asGroup]

theorem get_groupFields (path : String) (logic : Logic) (items : List Json) :
    isNodeType (Fields.get (groupFields logic items) "type") = true
    ∧ readLogic (path ++ ".logic") (Fields.get (groupFields logic items) "logic") = .ok logic
    ∧ (groupFields logic items).lookup "filters" = some (.arr items) := by
  simp [groupFields, Fields.get, List.lookup_cons, isNodeType, Json.str?, readLogic_name]

theorem membersJson_ne_nil {members : List BuiltFilter} (h : members ≠ []) :
    RawFilter.membersJson (Filter.mapMembers Json.str Operand.toJson members) ≠ [] := by
  obtain ⟨m, ms, rfl⟩ := List.exists_cons_of_ne_nil h
  simp [Filter.mapMembers, RawFilter.membersJson]

mutual

/-- Building the written form of a filter: it yields the filter itself, exactly if all its
conditions stand. -/
theorem buildNode_toJson (path : String) {t' : BuiltFilter} : (t : BuiltFilter) → t.solid = true →
    (∀ l ∈ t.leaves, l.WellFormed ∧ l.Keeps ctx) →
    (buildNode ctx path (RawFilter.toJson t.toRaw) = .ok t' ↔ t' = t ∧ ∀ l ∈ t.leaves, l.Stands ctx)
  | .leaf l, _, hleaves => by
    obtain ⟨hl, hkeeps⟩ := hleaves l (List.mem_singleton_self l)
    obtain ⟨htype, hsingle⟩ := l.written_type
    simp only [buildNode_eq_ok, toJson_leaf, Json.obj.injEq, exists_eq_left', htype, true_and]
    rw [if_neg hsingle]
    simp only [buildLeaf_written hl hkeeps, Filter.leaves, List.forall_mem_singleton]
    constructor
    · rintro ⟨l', ⟨rfl, hstands⟩, rfl⟩
      exact ⟨rfl, hstands⟩
    · rintro ⟨rfl, hstands⟩
      exact ⟨l, ⟨rfl, hstands⟩, rfl⟩
  | .group logic members, hsolid, hleaves => by
    simp only [Filter.solid, Bool.and_eq_true, Bool.not_eq_true', List.isEmpty_eq_false_iff]
      at hsolid
    simp only [buildNode_eq_ok, toJson_group, Json.obj.injEq, exists_eq_left']
    rw [if_pos (by simp [groupFields, Fields.get, Json.str?])]
    have hmembers (ms' : List BuiltFilter) :
        buildMembers ctx (path ++ ".filters")
          (RawFilter.membersJson (Filter.mapMembers Json.str Operand.toJson members)) = .ok ms'
          ↔ ms' = members ∧ ∀ l ∈ Filter.membersLeaves members, l.Stands ctx := by
      rw [buildMembers_eq_ok, and_iff_right (membersJson_ne_nil hsolid.1)]
      exact buildItems_membersJson _ 0 members hsolid.2 hleaves
    obtain ⟨hnode, hlogic, hfilters⟩ := get_groupFields path logic
      (RawFilter.membersJson (Filter.mapMembers Json.str Operand.toJson members))
    simp only [hnode, hlogic, hfilters, true_and, Option.some.injEq, Json.arr.injEq,
      Except.ok.injEq, exists_and_left, exists_eq_left', hmembers, Filter.leaves]
    constructor
    · rintro ⟨ms', ⟨rfl, hstand⟩, rfl⟩
      exact ⟨rfl, hstand⟩
    · rintro ⟨rfl, hstand⟩
      exact ⟨members, ⟨rfl, hstand⟩, rfl⟩

theorem buildItems_membersJson (path : String) (index : Nat) {ms' : List BuiltFilter} :
    (ms : List BuiltFilter) → Filter.membersSolid ms = true →
    (∀ l ∈ Filter.membersLeaves ms, l.WellFormed ∧ l.Keeps ctx) →
    (buildItems ctx path index
        (RawFilter.membersJson (Filter.mapMembers Json.str Operand.toJson ms)) = ms'.map .ok
      ↔ ms' = ms ∧ ∀ l ∈ Filter.membersLeaves ms, l.Stands ctx)
  | [], _, _ => by
    simp [Filter.mapMembers, RawFilter.membersJson, buildItems, Filter.membersLeaves, eq_comm]
  | m :: ms, hsolid, hleaves => by
    simp only [Filter.membersSolid, Bool.and_eq_true] at hsolid
    simp only [Filter.membersLeaves, List.mem_append, or_imp, forall_and] at hleaves ⊢
    simp only [Filter.mapMembers, RawFilter.membersJson, buildItems]
    cases ms' with
    | nil => simp
    | cons m' ms' =>
      rw [List.map_cons, List.cons.injEq, List.cons.injEq]
      have hm := fun l hl => And.intro (hleaves.1.1 l hl) (hleaves.2.1 l hl)
      have hms := fun l hl => And.intro (hleaves.1.2 l hl) (hleaves.2.2 l hl)
      rw [buildItems_membersJson path (index + 1) ms hsolid.2 hms]
      have hnode : buildNode ctx (path ++ "." ++ toString index)
          (RawFilter.toJson (Filter.map Json.str Operand.toJson m)) = .ok m'
          ↔ m' = m ∧ ∀ l ∈ m.leaves, l.Stands ctx := buildNode_toJson _ m hsolid.1 hm
      rw [hnode]
      tauto

end

/-- The root of what building yields. -/
theorem build_eq_group {raw : Json} {t : BuiltFilter} (h : build ctx raw = .ok t) :
    ∃ logic members, t = .group logic members := by
  unfold build at h
  split at h
  · obtain ⟨ms, -, rfl⟩ := map_eq_ok.1 h
    exact ⟨_, ms, rfl⟩
  · split_ifs at h
    · obtain ⟨p, -, rfl⟩ := map_eq_ok.1 h
      exact ⟨p.1, p.2, rfl⟩
    · obtain ⟨node, -, rfl⟩ := map_eq_ok.1 h
      cases node with
      | leaf l => exact ⟨_, _, rfl⟩
      | group logic members => exact ⟨logic, members, rfl⟩
  · exact absurd h (by simp)

theorem buildMembers_sound {path : String} {items : List Json} {ms : List BuiltFilter}
    {logic : Logic}
    (h : buildMembers ctx path items = .ok ms) :
    BuiltFilter.Sound (.group logic ms)
      ∧ ∀ l ∈ (Filter.group logic ms).leaves, l.Stands ctx := by
  obtain ⟨hsolid, hleaves⟩ := buildItems_sound path 0 items (buildMembers_eq_ok.1 h).2
  exact ⟨⟨by simpa [Filter.solid, members_ne_nil h] using hsolid, fun l hl => (hleaves l hl).1⟩,
    fun l hl => (hleaves l hl).2⟩

/-- A built filter is sound, and its conditions stand against what it was built against. -/
theorem build_sound {raw : Json} {t : BuiltFilter} (h : build ctx raw = .ok t) :
    t.Sound ∧ ∀ l ∈ t.leaves, l.Stands ctx := by
  unfold build at h
  split at h
  · obtain ⟨ms, hms, rfl⟩ := map_eq_ok.1 h
    exact buildMembers_sound hms
  · split_ifs at h
    · obtain ⟨p, hp, rfl⟩ := map_eq_ok.1 h
      obtain ⟨-, hp⟩ := alongside_eq_ok.1 hp
      unfold buildTop at hp
      split at hp
      · exact buildMembers_sound hp
      · exact absurd hp (by simp)
    · obtain ⟨node, hnode, rfl⟩ := map_eq_ok.1 h
      obtain ⟨hsolid, hleaves⟩ := buildNode_sound _ _ hnode
      cases node with
      | leaf l => exact ⟨⟨rfl, fun l hl => (hleaves l hl).1⟩, fun l hl => (hleaves l hl).2⟩
      | group logic members =>
        exact ⟨⟨hsolid, fun l hl => (hleaves l hl).1⟩, fun l hl => (hleaves l hl).2⟩
  · exact absurd h (by simp)

/-- Building the members of a sound group: it yields the members themselves, exactly if all their
conditions stand. -/
theorem buildMembers_membersJson {path : String} {logic : Logic} {members ms : List BuiltFilter}
    (hsound : BuiltFilter.Sound (.group logic members))
    (hkeeps : ∀ l ∈ Filter.membersLeaves members, l.Keeps ctx) :
    buildMembers ctx path
        (RawFilter.membersJson (Filter.mapMembers Json.str Operand.toJson members)) = .ok ms
      ↔ ms = members ∧ ∀ l ∈ Filter.membersLeaves members, l.Stands ctx := by
  have hsolid := hsound.solid
  simp only [Filter.solid, Bool.and_eq_true, Bool.not_eq_true', List.isEmpty_eq_false_iff] at hsolid
  rw [buildMembers_eq_ok, and_iff_right (membersJson_ne_nil hsolid.1)]
  exact buildItems_membersJson _ 0 members hsolid.2 fun l hl => ⟨hsound.leaves l hl, hkeeps l hl⟩

theorem build_document (ctx : BuildContext) (logic : Json) (items : List Json) :
    build ctx (.obj [("logic", logic), ("filters", .arr items)])
      = (alongside (readLogic "logic" logic) (buildMembers ctx "filters" items)).map
        fun p => .group p.1 p.2 := rfl

/-- Building the document of a sound group: it yields the group itself, exactly if all its
conditions stand. -/
theorem build_toDocument {logic : Logic} {members : List BuiltFilter} {t : BuiltFilter}
    (hsound : BuiltFilter.Sound (.group logic members))
    (hkeeps : ∀ l ∈ Filter.membersLeaves members, l.Keeps ctx) :
    build ctx (RawFilter.toDocument (BuiltFilter.toRaw (.group logic members))) = .ok t
      ↔ t = .group logic members ∧ ∀ l ∈ Filter.membersLeaves members, l.Stands ctx := by
  rw [toDocument_group, build_document]
  simp only [map_eq_ok, alongside_eq_ok, readLogic_name, Prod.exists, Except.ok.injEq,
    buildMembers_membersJson hsound hkeeps]
  constructor
  · rintro ⟨_, _, ⟨rfl, rfl, hstand⟩, rfl⟩
    exact ⟨rfl, hstand⟩
  · rintro ⟨rfl, hstand⟩
    exact ⟨_, _, ⟨rfl, rfl, hstand⟩, rfl⟩

/-- Building the wire form of a sound group, likewise. -/
theorem build_toJson {logic : Logic} {members : List BuiltFilter} {t : BuiltFilter}
    (hsound : BuiltFilter.Sound (.group logic members))
    (hkeeps : ∀ l ∈ Filter.membersLeaves members, l.Keeps ctx) :
    build ctx (RawFilter.toJson (BuiltFilter.toRaw (.group logic members))) = .ok t
      ↔ t = .group logic members ∧ ∀ l ∈ Filter.membersLeaves members, l.Stands ctx := by
  have hnode (node : BuiltFilter) :
      buildNode ctx "filters.0" (RawFilter.toJson (BuiltFilter.toRaw (.group logic members)))
        = .ok node
        ↔ node = .group logic members ∧ ∀ l ∈ Filter.membersLeaves members, l.Stands ctx :=
    buildNode_toJson _ _ hsound.solid fun l hl => ⟨hsound.leaves l hl, hkeeps l hl⟩
  rw [toJson_group] at hnode ⊢
  have hroot : (Fields.has (groupFields logic (RawFilter.membersJson
      (Filter.mapMembers Json.str Operand.toJson members))) "type") = true := by
    simp [groupFields, Fields.has]
  simp only [build, hroot, Bool.not_true, Bool.and_false, Bool.false_eq_true, if_false, map_eq_ok,
    hnode]
  constructor
  · rintro ⟨node, ⟨rfl, hstand⟩, rfl⟩
    exact ⟨rfl, hstand⟩
  · rintro ⟨rfl, hstand⟩
    exact ⟨.group logic members, ⟨rfl, hstand⟩, rfl⟩

end Trees

/-- The same context at another moment. -/
def BuildContext.atMoment (ctx : BuildContext) (now : Moment) : BuildContext :=
  { ctx with surroundings := { ctx.surroundings with now } }

/-- The present moment has no part in what a condition stands against. -/
theorem Leaf.Stands.atMoment {ctx : BuildContext} {l : Leaf String Operand} (h : l.Stands ctx)
    (now : Moment) : l.Stands (ctx.atMoment now) := by
  obtain ⟨o, hadopted, hallowed⟩ := h
  refine ⟨o, ?_, ⟨hallowed.choices, hallowed.users, hallowed.bounds⟩⟩
  rw [adopted_iff] at hadopted ⊢
  exact hadopted

/-- What has been built is built again without change, from its document and from its wire form,
at any later moment. -/
theorem build_fixed {ctx : BuildContext} {raw : Json} {t : BuiltFilter} (h : build ctx raw = .ok t)
    (now : Moment) :
    build (ctx.atMoment now) t.toRaw.toDocument = .ok t
      ∧ build (ctx.atMoment now) (RawFilter.toJson t.toRaw) = .ok t := by
  obtain ⟨hsound, hstands⟩ := build_sound h
  obtain ⟨logic, members, rfl⟩ := build_eq_group h
  have hagain (l : Leaf String Operand) (hl : l ∈ Filter.membersLeaves members) :
      l.Stands (ctx.atMoment now) := (hstands l hl).atMoment now
  exact ⟨(build_toDocument hsound fun l hl => (hagain l hl).keeps).2 ⟨rfl, hagain⟩,
    (build_toJson hsound fun l hl => (hagain l hl).keeps).2 ⟨rfl, hagain⟩⟩

section Example

/-- The document of a title within blanks, or a day that is asked for as a moment. -/
def twoConditions : Json :=
  .obj [("logic", .str "or"), ("filters", .arr [
    .obj [("column", .str "title"), ("column_type", .str "long_text"), ("operator", .str "equals"),
      ("value", .str "  Report ")],
    .obj [("column", .str "due_date"), ("column_type", .str "datetime"),
      ("operator", .str "less_than"), ("value", .str " 2024-02-29 ")]])]

def leapDay : Date := ⟨2024, 2, 29, by decide, by decide, by decide, by decide⟩

/-- The filter that is built from it, in the types of the attributes. -/
def twoConditionsBuilt : BuiltFilter :=
  .group .any [.leaf ⟨"title", .text, .equals, .text "Report", .all⟩,
    .leaf ⟨"due_date", .date, .lessThan, .day leapDay, .all⟩]

/-- Building without a board, and without a list of users. -/
def boardless : BuildContext := ⟨⟨Moment.first, none⟩, resolve none, false⟩

theorem build_twoConditions : build boardless twoConditions = .ok twoConditionsBuilt := by
  rw [twoConditions, build_document]
  simp only [buildMembers, buildItems, buildNode]
  rfl

theorem build_fixed_two_conditions :
    build boardless twoConditions = .ok twoConditionsBuilt
      ∧ build (boardless.atMoment (.midnight leapDay)) twoConditionsBuilt.toRaw.toDocument
        = .ok twoConditionsBuilt
      ∧ build (boardless.atMoment (.midnight leapDay)) (RawFilter.toJson twoConditionsBuilt.toRaw)
        = .ok twoConditionsBuilt :=
  ⟨build_twoConditions, build_fixed build_twoConditions (.midnight leapDay)⟩

end Example

end BoardQuery
