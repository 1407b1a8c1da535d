import BoardQuery.Proofs.Filter.Rebuild

/-!
# Filters are read back from what was written

The wire form of a filter is read back as that filter, at any path: nothing of it gets lost, and no
operand is taken for a part of the filter around it. A node is told by its own fields alone. The
fields of a condition hold no `filters`, whatever its operand holds, and a group names its type.
The induction is mutual, over a filter and over the members of a group, as the wire form is.
-/

namespace BoardQuery

/-- The logic of a node is read back from its name. -/
theorem wireLogic_name (l : Logic) : wireLogic (.str l.name) = .ok l := by
  cases l <;> rfl

theorem ColumnType.ofJson_name (t : ColumnType) : ColumnType.ofJson (.str t.name) = .ok t := by
  simp only [ColumnType.ofJson, Json.str?, Option.bind_some, ColumnType.ofName?_name]

theorem Operator.ofJson_name (op : Operator) : Operator.ofJson (.str op.name) = .ok op := by
  simp only [Operator.ofJson, Json.str?, Option.bind_some, Operator.ofName?_name]

namespace RawFilter

/-! ## One node -/

/-- A condition is read from its own fields. -/
theorem wireLeaf_written (path : String) (l : Leaf Json Json) (logic : Logic) :
    wireLeaf path (leafJson l).fields logic = .ok { l with logic } := by
  simp [wireLeaf, leafJson, Json.fields, wireField, Fields.get, Fields.get?, List.lookup_cons,
    ColumnType.ofJson_name, Operator.ofJson_name, atNode, Except.mapError]

/-- The wire form of a condition is not that of a group, whatever its operand is. -/
theorem ofJson_leafJson (path : String) (l : Leaf Json Json) :
    ofJson path (leafJson l) = .ok (.leaf l) := by
  have hlogic : Fields.get (leafJson l).fields "logic" = .str l.logic.name := by
    simp [leafJson, Json.fields, Fields.get, List.lookup_cons]
  have hgroup : ((Fields.get (leafJson l).fields "type").str? == some "group"
      || Fields.has (leafJson l).fields "filters") = false := by
    simp [leafJson, Json.fields, Fields.get, Fields.has, Json.str?]
  have hobj : leafJson l = .obj (leafJson l).fields := rfl
  rw [hobj, ofJson, hlogic, wireLogic_name]
  simp only [hgroup, Bool.false_eq_true, if_false, wireLeaf_written]
  rfl

/-- An object with members is read by reading them, under the logic that it states. -/
theorem ofJson_group (path : String) {fields : Fields} {logic : Logic} {items : List Json}
    (hlogic : wireLogic (Fields.get fields "logic") = .ok logic)
    (hfilters : fields.lookup "filters" = some (.arr items)) :
    ofJson path (.obj fields)
      = (membersOfJson (path ++ ".filters") 0 items).map (.group logic) := by
  have hsize : sizeOf items < sizeOf fields := by
    have := sizeOf_lookup_lt hfilters
    simp only [Json.arr.sizeOf_spec] at this
    omega
  have hhas : Fields.has fields "filters" = true := by
    obtain ⟨before, after, rfl, -⟩ := List.lookup_eq_some_iff.1 hfilters
    simp [Fields.has]
  rw [ofJson, hlogic]
  simp only [hhas, Bool.or_true, if_true, (membersOf_eq_some (h := hsize)).2 hfilters]

/-- A group of these items is read by reading its items, in its wire form and in its document. -/
theorem ofJson_of_logic_filters (path : String) {fields : Fields} {logic : Logic}
    {items : List Json} (hlogic : Fields.get fields "logic" = .str logic.name)
    (hfilters : fields.lookup "filters" = some (.arr items)) :
    ofJson path (.obj fields)
      = (membersOfJson (path ++ ".filters") 0 items).map (.group logic) :=
  ofJson_group path (by rw [hlogic, wireLogic_name]) hfilters

/-! ## Whole filters -/

mutual

theorem ofJson_toJson (path : String) : (t : RawFilter) → ofJson path t.toJson = .ok t
  | .leaf l => by
    rw [toJson, ofJson_leafJson]
  | .group logic members => by
    rw [toJson, ofJson_of_logic_filters path rfl rfl, membersOfJson_membersJson]
    rfl

/-- The members of a group are read back one by one, whatever the index of the first one is. -/
theorem membersOfJson_membersJson (path : String) (index : Nat) :
    (members : List RawFilter) → membersOfJson path index (membersJson members) = .ok members
  | [] => by
    rw [membersJson, membersOfJson]
  | m :: rest => by
    rw [membersJson, membersOfJson, ofJson_toJson _ m, ok_bind, membersOfJson_membersJson _ _ rest,
      ok_bind]
    rfl

end

/-- Reading undoes writing: the wire form of any filter, the document of any group, and the bare
array of the members of a group of the logic `and`. -/
theorem ofJson_undoes_writing (path : String) :
    (∀ t : RawFilter, ofJson path t.toJson = .ok t)
      ∧ (∀ (logic : Logic) (members : List RawFilter),
          ofJson path (toDocument (.group logic members)) = .ok (.group logic members))
      ∧ ∀ members : List RawFilter,
          ofJson path (.arr (membersJson members)) = .ok (.group .all members) := by
  refine ⟨ofJson_toJson path, fun logic members => ?document, fun members => ?array⟩
  case document =>
    rw [toDocument, ofJson_of_logic_filters path rfl rfl, membersOfJson_membersJson]
    rfl
  case array =>
    rw [ofJson, membersOfJson_membersJson]
    rfl

end RawFilter

end BoardQuery
