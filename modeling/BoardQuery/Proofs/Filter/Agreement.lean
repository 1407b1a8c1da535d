import BoardQuery.Proofs.Filter.WireForm

/-!
# Building and reading agree

There are two ways from a document to a filter: building one, and reading its structure alone. They
tell groups from conditions, find members and fields and fold the letter case of logics each in its
own way. What is built is also read, at any path, and the two filters are alike: they have the same
groups, and the same conditions but for canonical operands and adopted types (`build_agrees`).
The induction is mutual, over a node and over the members of a group, as building is.
-/

namespace BoardQuery

open FilterBuilder

/-- Whether two filters have the same groups, of the same logics, around conditions that are related
one by one, in order. -/
inductive Filter.Alike {Name Value Name' Value' : Type}
    (R : Leaf Name Value → Leaf Name' Value' → Prop) :
    Filter Name Value → Filter Name' Value' → Prop
  | leaf {l : Leaf Name Value} {l' : Leaf Name' Value'} (h : R l l') : Alike R (.leaf l) (.leaf l')
  | group {logic : Logic} {ms : List (Filter Name Value)} {ms' : List (Filter Name' Value')}
    (h : List.Forall₂ (Alike R) ms ms') : Alike R (.group logic ms) (.group logic ms')

/-- Whether a condition is one as written with its operand in canonical form, for a type of the same
family: its own, or the one that the column lends it. -/
structure Leaf.Canonizes (ctx : BuildContext) (l : Leaf Json Json) (l' : Leaf String Operand) :
    Prop where
  column : l.column = .str l'.column
  family : l'.columnType.family = l.columnType.family
  operator : l'.operator = l.operator
  operand : ∃ o, Adopted ctx l'.column l.columnType l'.columnType o
    ∧ readOperand ctx.surroundings l'.columnType l.operator o l.operand = .ok l'.operand
  logic : l'.logic = l.logic

/-- The filter as a group; a lone condition becomes the only member of one. -/
def RawFilter.rooted (t : RawFilter) : RawFilter :=
  .group t.asGroup.1 t.asGroup.2

/-! ## Conditions -/

section Conditions

variable {ctx : BuildContext} {path : String} {fields : Fields} {v : Json}

/-- The two readings of a logic fold letter case alike. -/
theorem wireLogic_of_readLogic {l : Logic} (h : readLogic path v = .ok l) :
    wireLogic v = .ok l := by
  cases v with
  | null =>
    obtain rfl := Except.ok.inj h
    rfl
  | str s =>
    have hname : Logic.ofName? (Text.upper s) = some l := by
      simp only [readLogic] at h
      rcases hname : Logic.ofName? (Text.upper s) with _ | l' <;> rw [hname] at h
      · exact absurd h (by simp)
      · exact congrArg some (Except.ok.inj h)
    have hne : s ≠ "" := by
      rintro rfl
      have hnone : Logic.ofName? (Text.upper "") = none := by decide
      exact absurd (hnone.symm.trans hname) (by simp)
    have htruthy : (Json.str s).truthy = true := bne_iff_ne.2 hne
    rw [wireLogic, Json.orElse, if_pos htruthy]
    simp only [Json.display, hname]
  | _ => exact absurd h (by simp [readLogic])

theorem Fields.get?_of_get {name : String} (h : Fields.get fields name = v) (hv : v ≠ .null) :
    Fields.get? fields name = some v := by
  rw [Fields.get] at h
  rw [Fields.get?]
  rcases hlookup : fields.lookup name with _ | w
  · rw [hlookup] at h
    exact absurd h.symm hv
  · rw [hlookup] at h
    exact congrArg some h

theorem readOperand_of_readOperandAt {env : Surroundings} {t : ColumnType} {op : Operator}
    {o : Options} {w : Operand} (h : readOperandAt env path t op o v = .ok w) :
    readOperand env t op o v = .ok w := by
  unfold readOperandAt at h
  split at h
  · exact absurd h (by simp)
  · exact absurd h (by simp)
  · exact mapError_eq_ok.1 h

theorem isNull_of_str?_bind {α : Type} {f : String → Option α} {a : α}
    (h : v.str?.bind f = some a) : v ≠ .null := by
  rintro rfl
  exact absurd h (by simp [Json.str?])

/-- A condition that is built is read from the same fields. -/
theorem wireLeaf_of_buildLeaf (path' : String) {l' : Leaf String Operand}
    (h : buildLeaf ctx path fields = .ok l') :
    wireLogic (Fields.get fields "logic") = .ok l'.logic
      ∧ ∃ l, wireLeaf path' fields l'.logic = .ok l ∧ l.Canonizes ctx l' := by
  obtain ⟨head, t', o, hhead, hop, hadopted, hv, hcolumn, rfl, hlogic⟩ := buildLeaf_eq_ok.1 h
  obtain ⟨hname, -, htype, -, hoperator, hread⟩ := readHead_eq_ok.1 hhead
  obtain ⟨hopname, -⟩ := readOperator_eq_ok.1 hop
  obtain ⟨hname, -⟩ := columnName?_eq_some.1 hname
  rw [hoperator] at hopname
  rw [← hcolumn] at hname hadopted
  refine ⟨hlogic ▸ wireLogic_of_readLogic hread,
    ⟨.str l'.column, head.columnType, l'.operator, Fields.get fields "value", l'.logic⟩, ?_,
    ⟨rfl, hadopted.family_eq, rfl, ⟨o, hadopted, readOperand_of_readOperandAt hv⟩, rfl⟩⟩
  have hcolumnField := Fields.get?_of_get hname (by simp)
  have htypeField := Fields.get?_of_get rfl (isNull_of_str?_bind htype)
  have hopField := Fields.get?_of_get rfl (isNull_of_str?_bind hopname)
  simp only [wireLeaf, wireField, hcolumnField, htypeField, hopField, ok_bind, ColumnType.ofJson,
    htype, Operator.ofJson, hopname, atNode, Except.mapError]
  rfl

end Conditions

/-! ## Filters -/

section Filters

variable {ctx : BuildContext} {raw : Json}

mutual

/-- A node that is built is read, wherever it stands. By recursion over the document. -/
theorem ofJson_of_buildNode (path path' : String) (raw : Json) {t : BuiltFilter}
    (h : buildNode ctx path raw = .ok t) :
    ∃ r, RawFilter.ofJson path' raw = .ok r ∧ Filter.Alike (Leaf.Canonizes ctx) r t := by
  obtain ⟨fields, hraw, -, h⟩ := buildNode_eq_ok.1 h
  split_ifs at h with hgroup
  · obtain ⟨items, logic, ms, hitems, hlogic, hmembers, rfl⟩ := h
    have hsize : sizeOf items < sizeOf raw := by
      have := sizeOf_lookup_lt hitems
      simp only [hraw, Json.arr.sizeOf_spec, Json.obj.sizeOf_spec] at this ⊢
      omega
    obtain ⟨rs, hrs, halike⟩ := membersOfJson_of_buildItems _ (path' ++ ".filters") 0 0 items
      (buildMembers_eq_ok.1 hmembers).2
    refine ⟨.group logic rs, ?_, .group halike⟩
    rw [hraw, RawFilter.ofJson_group path' (wireLogic_of_readLogic hlogic) hitems, hrs]
    rfl
  · obtain ⟨l', hl', rfl⟩ := h
    obtain ⟨hlogic, l, hl, hcanonizes⟩ := wireLeaf_of_buildLeaf path' hl'
    refine ⟨.leaf l, ?_, .leaf hcanonizes⟩
    rw [hraw, RawFilter.ofJson, hlogic]
    simp only [Bool.or_eq_true, beq_iff_eq, hgroup, if_false, hl]
    rfl
termination_by sizeOf raw

theorem membersOfJson_of_buildItems (path path' : String) (index index' : Nat) (items : List Json)
    {ms : List BuiltFilter} (h : buildItems ctx path index items = ms.map .ok) :
    ∃ rs, RawFilter.membersOfJson path' index' items = .ok rs
      ∧ List.Forall₂ (Filter.Alike (Leaf.Canonizes ctx)) rs ms := by
  cases items with
  | nil =>
    rw [buildItems, eq_comm, List.map_eq_nil_iff] at h
    subst h
    rw [RawFilter.membersOfJson]
    exact ⟨[], rfl, .nil⟩
  | cons v rest =>
    cases ms with
    | nil => exact absurd h (by simp [buildItems])
    | cons m ms =>
      rw [buildItems, List.map_cons, List.cons.injEq] at h
      obtain ⟨r, hr, halike⟩ := ofJson_of_buildNode _ (path' ++ "." ++ toString index') v h.1
      obtain ⟨rs, hrs, hrest⟩ :=
        membersOfJson_of_buildItems _ path' _ (index' + 1) rest h.2
      refine ⟨r :: rs, ?_, .cons halike hrest⟩
      rw [RawFilter.membersOfJson, hr, ok_bind, hrs, ok_bind]
      rfl
termination_by sizeOf items

end

/-- The members that are built of an array are read from it. -/
theorem ofJson_of_buildMembers (path' : String) {path : String} {items : List Json}
    {ms : List BuiltFilter} (h : buildMembers ctx path items = .ok ms) :
    ∃ rs, RawFilter.membersOfJson path' 0 items = .ok rs
      ∧ List.Forall₂ (Filter.Alike (Leaf.Canonizes ctx)) rs ms :=
  membersOfJson_of_buildItems _ path' 0 0 items (buildMembers_eq_ok.1 h).2

theorem rooted_alike {r : RawFilter} {t : BuiltFilter}
    (h : Filter.Alike (Leaf.Canonizes ctx) r t) :
    Filter.Alike (Leaf.Canonizes ctx) r.rooted (.group t.asGroup.1 t.asGroup.2) := by
  cases h with
  | leaf h => exact .group (.cons (.leaf h) .nil)
  | group h => exact .group h

/-- Whatever a filter is built from can also be read, at any path, and the filter that is built is
the one that is read, with a group around a lone condition, with canonical operands and with types
of the same families. -/
theorem build_agrees {t : BuiltFilter} (h : build ctx raw = .ok t) (path : String) :
    ∃ r, RawFilter.ofJson path raw = .ok r ∧ Filter.Alike (Leaf.Canonizes ctx) r.rooted t := by
  unfold build at h
  split at h
  · obtain ⟨ms, hms, rfl⟩ := map_eq_ok.1 h
    obtain ⟨rs, hrs, halike⟩ := ofJson_of_buildMembers path hms
    refine ⟨.group .all rs, ?_, .group halike⟩
    rw [RawFilter.ofJson, hrs]
    rfl
  · rename_i fields
    split_ifs at h with hdocument
    · obtain ⟨⟨logic, ms⟩, hp, rfl⟩ := map_eq_ok.1 h
      obtain ⟨hlogic, hmembers⟩ := alongside_eq_ok.1 hp
      unfold buildTop at hmembers
      split at hmembers
      · rename_i items hitems
        obtain ⟨rs, hrs, halike⟩ := ofJson_of_buildMembers (path ++ ".filters") hmembers
        refine ⟨.group logic rs, ?_, .group halike⟩
        rw [RawFilter.ofJson_group path (wireLogic_of_readLogic hlogic)
          (Fields.get?_of_get hitems (by simp)), hrs]
        rfl
      · exact absurd hmembers (by simp)
    · obtain ⟨node, hnode, rfl⟩ := map_eq_ok.1 h
      obtain ⟨r, hr, halike⟩ := ofJson_of_buildNode _ path _ hnode
      have hrooted := rooted_alike halike
      refine ⟨r, hr, ?_⟩
      cases node <;> exact hrooted
  · exact absurd h (by simp)

/-- A filter of two conditions, under a logic in lower case, is read as it is built. -/
theorem build_agrees_two : build boardless twoConditions = .ok twoConditionsBuilt
    ∧ ∃ r, RawFilter.ofJson "filters" twoConditions = .ok r
      ∧ Filter.Alike (Leaf.Canonizes boardless) r.rooted twoConditionsBuilt :=
  ⟨build_twoConditions, build_agrees build_twoConditions "filters"⟩

end Filters

end BoardQuery
