import BoardQuery.Proofs.Filter.SharedIssues

/-!
# Issues node by node

What a node comes to depends neither on where it stands nor on what stands beside it: its path only
comes before the paths of its issues (`buildNode_below`). So the issues of a list of nodes are those
of the single nodes one after another, each at the place of its node, and the issues of a group are
those of its logic and of its members (`issues_node_by_node`), also where all nodes share one list
of issues (`collect_eq_build`). The induction is mutual, over a node and over the members of a
group, as building is.
-/

namespace BoardQuery

open FilterBuilder

/-! ## Readings below a path -/

/-- An issue of a part, as one of the whole that has the part at a path. -/
def Issue.below (path : String) (i : Issue) : Issue :=
  { i with path := path ++ i.path }

def FilterError.below (path : String) : FilterError → FilterError
  | .issues list => .issues (list.map (Issue.below path))
  | .fault f => .fault f

section Readings

variable {ε ε' α β : Type} {p : String}

theorem mapError_map {x : Except ε α} {f : α → β} {g : ε → ε'} :
    (x.map f).mapError g = (x.mapError g).map f := by
  rcases x with e | a <;> rfl

/-- Steps that come to the same but for their errors. -/
theorem bind_eq_mapError_bind {x : Except ε α} {x' : Except ε' α} {f : α → Except ε β}
    {f' : α → Except ε' β} {g : ε → ε'} (hx : x' = x.mapError g)
    (hf : ∀ a, f' a = (f a).mapError g) : (x' >>= f') = (x >>= f).mapError g := by
  subst hx
  rcases x with e | a
  · rfl
  · exact hf a

theorem alongside_below {a : Except FilterError α} {b : Except FilterError β} :
    alongside (a.mapError (.below p)) (b.mapError (.below p))
      = (alongside a b).mapError (.below p) := by
  rcases a with (list | f) | x <;> rcases b with (more | f') | y <;>
    simp [alongside, Except.mapError, FilterError.below]

theorem gather_below (rs : List (Except FilterError α)) :
    gather (rs.map fun r => r.mapError (.below p)) = (gather rs).mapError (.below p) := by
  induction rs with
  | nil => rfl
  | cons r rest ih => rw [List.map_cons, gather, gather, ih, alongside_below, mapError_map]

end Readings

/-! ## Nodes below a path -/

section Nodes

variable {ctx : BuildContext} {p q : String} {fields : Fields} {v : Json}

theorem readLogic_below : readLogic (p ++ q) v = (readLogic q v).mapError (.below p) := by
  rcases readLogic_cases v with ⟨l, h⟩ | h <;> rw [h, h] <;> rfl

theorem headIssues_below :
    headIssues (p ++ q) fields = (headIssues q fields).map (Issue.below p) := by
  have hlogic : readLogic (p ++ q ++ ".logic") (Fields.get fields "logic")
      = (readLogic (q ++ ".logic") (Fields.get fields "logic")).mapError (.below p) := by
    rw [String.append_assoc, readLogic_below]
  simp only [headIssues, hlogic, List.map_append, List.map_map]
  congr 1
  · congr 1
    · congr 1
      · simp [Issue.below, String.append_assoc]
      · split_ifs <;> simp [Issue.below, String.append_assoc]
    · split_ifs <;> simp [Issue.below, String.append_assoc]
  · rcases readLogic (q ++ ".logic") (Fields.get fields "logic") with (list | f) | l <;> rfl

theorem readHead_below : readHead (p ++ q) fields = (readHead q fields).mapError (.below p) := by
  have hlogic := readLogic_cases (Fields.get fields "logic")
  rw [readHead, readHead, headIssues_below]
  rcases hissues : headIssues q fields with _ | ⟨i, rest⟩
  · rcases columnName? (Fields.get fields "column") with _ | column
    · rfl
    · rcases (Fields.get fields "column_type").str?.bind ColumnType.ofName? with _ | t
      · rfl
      · rcases hlogic with ⟨l, h⟩ | h <;> rw [h, h] <;> rfl
  · rfl

theorem readOperator_below {t : ColumnType} :
    readOperator (p ++ q) t v = (readOperator q t v).mapError (.below p) := by
  unfold readOperator
  split
  · rfl
  · simp [Except.mapError, FilterError.below, Issue.below, String.append_assoc]

theorem adopt_below {column : String} {t : ColumnType} :
    adopt ctx (p ++ q) column t = (adopt ctx q column t).mapError (.below p) := by
  unfold adopt
  split
  · rfl
  · split_ifs
    · rfl
    · rfl
    · simp [Except.mapError, FilterError.below, Issue.below, String.append_assoc]

theorem readOperandAt_below {env : Surroundings} {t : ColumnType} {op : Operator} {o : Options} :
    readOperandAt env (p ++ q) t op o v = (readOperandAt env q t op o v).mapError (.below p) := by
  unfold readOperandAt
  split
  · rfl
  · rfl
  · rcases readOperand env t op o v with (list | f) | w
    · simp [Except.mapError, FilterError.below, Issue.below, String.append_assoc]
    · rfl
    · rfl

theorem buildLeaf_below :
    buildLeaf ctx (p ++ q) fields = (buildLeaf ctx q fields).mapError (.below p) :=
  bind_eq_mapError_bind readHead_below fun _ =>
    bind_eq_mapError_bind readOperator_below fun _ =>
      bind_eq_mapError_bind adopt_below fun _ =>
        bind_eq_mapError_bind (by rw [String.append_assoc, readOperandAt_below]) fun _ => rfl

mutual

/-- A node is built at any path as it is elsewhere, and the path comes before those of its issues.
By recursion over the document, as building goes. -/
theorem buildNode_below (p q : String) (raw : Json) :
    buildNode ctx (p ++ q) raw = (buildNode ctx q raw).mapError (.below p) := by
  cases raw with
  | obj fields =>
    rw [buildNode, buildNode]
    split_ifs
    · simp [Except.mapError, FilterError.below, Issue.below, String.append_assoc]
    · have hlogic : readLogic (p ++ q ++ ".logic") (Fields.get fields "logic")
          = (readLogic (q ++ ".logic") (Fields.get fields "logic")).mapError (.below p) := by
        rw [String.append_assoc, readLogic_below]
      dsimp only
      rw [hlogic, mapError_map, ← alongside_below]
      congr 2
      split
      · rename_i items hlt hitems
        rw [String.append_assoc, buildMembers_below p _ items]
      · simp [Except.mapError, FilterError.below, Issue.below, String.append_assoc]
    · rw [buildLeaf_below, mapError_map]
  | _ =>
    rw [buildNode, buildNode]
    · rfl
    · exact fun _ => Json.noConfusion
    · exact fun _ => Json.noConfusion
termination_by (sizeOf raw, 0)

theorem buildMembers_below (p q : String) (items : List Json) :
    buildMembers ctx (p ++ q) items = (buildMembers ctx q items).mapError (.below p) := by
  rw [buildMembers, buildMembers]
  split_ifs
  · rfl
  · rw [buildItems_below p q 0 items, gather_below]
termination_by (sizeOf items, 1)

theorem buildItems_below (p q : String) (index : Nat) (items : List Json) :
    buildItems ctx (p ++ q) index items
      = (buildItems ctx q index items).map fun r => r.mapError (.below p) := by
  cases items with
  | nil => simp only [buildItems, List.map_nil]
  | cons v rest =>
    rw [buildItems, buildItems, List.map_cons, buildItems_below p q (index + 1) rest,
      String.append_assoc, String.append_assoc, buildNode_below p _ v, ← String.append_assoc]
termination_by (sizeOf items, 0)

end

end Nodes

/-! ## The issues of several nodes -/

/-- An issue whose path has a leading part replaced. One that does not begin with it stays. -/
def Issue.moved (old new : String) (i : Issue) : Issue :=
  if old.toList.isPrefixOf i.path.toList then
    { i with path := new ++ String.ofList (i.path.toList.drop old.length) }
  else i

/-- Whether a value states a logic: it is left out, or the name of one in any letter case. -/
def Json.statesLogic : Json → Bool
  | .null => true
  | .str s => Text.upper s == "AND" || Text.upper s == "OR"
  | _ => false

/-- What is wrong with the logic of a node at a path. -/
def logicIssues (path : String) (fields : Fields) : List Issue :=
  if (Fields.get fields "logic").statesLogic then [] else [⟨path ++ ".logic", .unknownLogic⟩]

/-- The issues that each of several nodes has by itself, moved to its place among them. -/
def placeIssues (lists : List (List Issue)) : List Issue :=
  lists.zipIdx.flatMap fun p => p.1.map (Issue.moved "filters.0" ("filters." ++ toString p.2))

section Reports

variable {ctx : BuildContext} {α β : Type} {path old new : String} {fields : Fields} {v : Json}

theorem Issue.moved_below (i : Issue) : (i.below old).moved old new = i.below new := by
  have hdrop : (old.toList ++ i.path.toList).drop old.length = i.path.toList := by
    rw [← String.length_toList, List.drop_left]
  simp [moved, below, List.isPrefixOf_iff_prefix, hdrop]

theorem Issue.prefix_below (i : Issue) : old.toList <+: (i.below old).path.toList := by
  simp [below]

theorem issuesFound_map {r : Except FilterError α} {f : α → β} :
    issuesFound (r.map f) = issuesFound r := by
  rcases r with (list | f) | a <;> rfl

theorem issuesFound_below {r : Except FilterError α} :
    issuesFound (r.mapError (.below path)) = (issuesFound r).map (·.map (Issue.below path)) := by
  rcases r with (list | f) | a <;> rfl

theorem issuesFound_alongside {a : Except FilterError α} {b : Except FilterError β} :
    issuesFound (alongside a b)
      = (issuesFound a).bind fun list => (issuesFound b).map (list ++ ·) := by
  rcases a with (list | f) | x <;> rcases b with (more | f') | y <;> simp [alongside, issuesFound]

theorem issuesFound_gather {rs : List (Except FilterError α)} {lists : List (List Issue)}
    (h : rs.map issuesFound = lists.map some) : issuesFound (gather rs) = some lists.flatten := by
  induction rs generalizing lists with
  | nil =>
    obtain rfl : lists = [] := by simpa using h.symm
    rfl
  | cons r rest ih =>
    cases lists with
    | nil => exact absurd h (by simp)
    | cons list lists =>
      obtain ⟨hr, hrest⟩ := List.cons.inj h
      rw [gather, issuesFound_map, issuesFound_alongside, hr, ih hrest]
      rfl

theorem issuesFound_readLogic : issuesFound (readLogic path v)
    = some (if v.statesLogic then [] else [⟨path, .unknownLogic⟩]) := by
  cases v with
  | str s =>
    simp only [readLogic, Logic.ofName?, Json.statesLogic]
    by_cases hall : Text.upper s = "AND"
    · simp [hall, issuesFound]
    · by_cases hany : Text.upper s = "OR"
      · simp [hany, issuesFound]
      · simp [hall, hany, issuesFound]
  | _ => rfl

theorem buildItems_eq_map (path : String) (index : Nat) (items : List Json) :
    buildItems ctx path index items
      = (items.zipIdx index).map fun p => buildNode ctx (path ++ "." ++ toString p.2) p.1 := by
  induction items generalizing index with
  | nil => rw [buildItems, List.zipIdx_nil, List.map_nil]
  | cons v rest ih => rw [buildItems, ih, List.zipIdx_cons, List.map_cons]

/-- A node by itself. -/
theorem build_single (v : Json) : build ctx (.arr [v])
    = ((buildNode ctx "" v).mapError (.below "filters.0")).map fun m => .group .all [m] := by
  have hpath : "filters" ++ "." ++ toString 0 = "filters.0" ++ "" := by decide
  rw [build, buildMembers, if_neg (by simp), buildItems, buildItems, hpath, buildNode_below]
  rcases (buildNode ctx "" v).mapError (FilterError.below "filters.0") with (list | f) | m <;> rfl

theorem build_array (cs : List Json) : build ctx (.arr cs)
    = ((buildMembers ctx "" cs).mapError (.below "filters")).map (.group .all) := by
  rw [build, ← buildMembers_below, String.append_empty]

/-- Several nodes: each is built as it is by itself, below its own place. -/
theorem build_several {nodes : List Json} (hne : nodes ≠ []) : build ctx (.arr nodes)
    = (gather (nodes.zipIdx.map fun p =>
        (buildNode ctx "" p.1).mapError (.below ("filters." ++ toString p.2)))).map
      (.group .all) := by
  have hempty : ¬ nodes.isEmpty = true := by simpa using hne
  rw [build, buildMembers, if_neg hempty, buildItems_eq_map]
  congr 3
  funext p
  have hpath : "filters" ++ "." ++ toString p.2 = "filters." ++ toString p.2 ++ "" := by
    rw [String.append_empty]
    rfl
  rw [hpath, buildNode_below]

/-- What a node by itself is found to have, told at another place. -/
theorem issuesFound_single (v : Json) (new : String) :
    issuesFound ((buildNode ctx "" v).mapError (.below new))
      = (issuesFound (build ctx (.arr [v]))).map (·.map (Issue.moved "filters.0" new)) := by
  rw [build_single, issuesFound_map, issuesFound_below, issuesFound_below, Option.map_map]
  simp only [Function.comp_def, List.map_map, Issue.moved_below]

theorem issuesFound_several {nodes : List Json} {lists : List (List Issue)} (hne : nodes ≠ [])
    (hlists : nodes.map (fun v => issuesFound (build ctx (.arr [v]))) = lists.map some) :
    issuesFound (build ctx (.arr nodes)) = some (placeIssues lists) := by
  rw [build_several hne, issuesFound_map, placeIssues, List.flatMap_def]
  refine issuesFound_gather ?_
  have hzip := congrArg List.zipIdx hlists
  rw [List.zipIdx_map, List.zipIdx_map] at hzip
  have htold := congrArg (List.map fun p : Option (List Issue) × Nat =>
    p.1.map (·.map (Issue.moved "filters.0" ("filters." ++ toString p.2)))) hzip
  simpa [Function.comp_def, issuesFound_single] using htold

theorem prefix_of_issuesFound_below {r : Except FilterError α} {list : List Issue}
    (h : issuesFound (r.mapError (.below path)) = some list) :
    ∀ i ∈ list, path.toList <+: i.path.toList := by
  rw [issuesFound_below, Option.map_eq_some_iff] at h
  obtain ⟨list, -, rfl⟩ := h
  exact List.forall_mem_map.2 fun i _ => i.prefix_below

/-- What is never refused without an issue is refused exactly if issues were found. -/
theorem refused_iff {r : Except FilterError α} {list : List Issue} (h : issuesFound r = some list)
    (hsilent : r ≠ .error (.issues [])) : (∃ all, r = .error (.issues all)) ↔ list ≠ [] := by
  rcases r with (all | f) | a
  · obtain rfl := Option.some.inj h
    exact iff_of_true ⟨_, rfl⟩ fun hnil => hsilent (hnil ▸ rfl)
  · exact absurd h (by simp [issuesFound])
  · obtain rfl := Option.some.inj h
    simp

theorem placeIssues_eq_nil {lists : List (List Issue)} :
    placeIssues lists = [] ↔ ∀ list ∈ lists, list = [] := by
  have hlists := List.zipIdx_map_fst 0 lists
  conv_rhs => rw [← hlists]
  simp only [placeIssues, List.flatMap_eq_nil_iff, List.map_eq_nil_iff, List.forall_mem_map]

/-- Several nodes are refused if one of them is by itself. -/
theorem refused_several {nodes : List Json} {lists : List (List Issue)} (hne : nodes ≠ [])
    (hlists : nodes.map (fun v => issuesFound (build ctx (.arr [v]))) = lists.map some) :
    (∃ list, build ctx (.arr nodes) = .error (.issues list))
      ↔ ∃ v ∈ nodes, ∃ list, build ctx (.arr [v]) = .error (.issues list) := by
  rw [refused_iff (issuesFound_several hne hlists) build_ne_silent, ne_eq, placeIssues_eq_nil]
  have hsingle : (∀ v ∈ nodes, issuesFound (build ctx (.arr [v])) = some [])
      ↔ ∀ list ∈ lists, list = [] := by
    have hforall : (∀ r ∈ nodes.map (fun v => issuesFound (build ctx (.arr [v]))), r = some [])
        ↔ ∀ r ∈ lists.map some, r = some [] := by rw [hlists]
    simpa only [List.forall_mem_map, Option.some.injEq] using hforall
  rw [← hsingle, not_forall₂]
  refine exists_congr fun v => ?_
  rw [exists_prop]
  refine and_congr_right fun hv => ?_
  have hmem : issuesFound (build ctx (.arr [v])) ∈ lists.map some :=
    hlists ▸ List.mem_map_of_mem hv
  obtain ⟨list, -, hlist⟩ := List.mem_map.1 hmem
  rw [refused_iff hlist.symm build_ne_silent, ← hlist, Option.some.injEq]

/-- A node that is built by itself is built anywhere. -/
theorem buildNode_of_single {t : BuiltFilter} (h : build ctx (.arr [v]) = .ok t) :
    ∃ m, t = .group .all [m] ∧ ∀ path, buildNode ctx path v = .ok m := by
  rw [build_single, map_eq_ok] at h
  obtain ⟨m, hm, rfl⟩ := h
  rw [mapError_eq_ok] at hm
  refine ⟨m, rfl, fun path => ?_⟩
  rw [← String.append_empty (s := path), buildNode_below, mapError_eq_ok]
  exact hm

theorem buildItems_of_singles (path : String) (index : Nat) :
    {nodes : List Json} → {ts : List BuiltFilter} →
    nodes.map (fun v => build ctx (.arr [v])) = ts.map .ok →
    buildItems ctx path index nodes = (ts.flatMap fun t => t.asGroup.2).map .ok
  | [], ts, h => by
    obtain rfl : ts = [] := by simpa using h.symm
    rw [buildItems]
    rfl
  | v :: nodes, [], h => absurd h (by simp)
  | v :: nodes, t :: ts, h => by
    obtain ⟨hv, hnodes⟩ := List.cons.inj h
    obtain ⟨m, rfl, hm⟩ := buildNode_of_single hv
    rw [buildItems, hm, buildItems_of_singles path (index + 1) hnodes]
    rfl

theorem build_of_singles {nodes : List Json} {ts : List BuiltFilter} (hne : nodes ≠ [])
    (hsingles : nodes.map (fun v => build ctx (.arr [v])) = ts.map .ok) :
    build ctx (.arr nodes) = .ok (.group .all (ts.flatMap fun t => t.asGroup.2)) := by
  rw [build, map_eq_ok]
  exact ⟨_, buildMembers_eq_ok.2 ⟨hne, buildItems_of_singles _ 0 hsingles⟩, rfl⟩

theorem issuesFound_group {cs : List Json} (htype : isNodeType (Fields.get fields "type") = true)
    (hmembers : fields.lookup "filters" = some (.arr cs)) :
    issuesFound (buildNode ctx path (.obj fields)) = (issuesFound (build ctx (.arr cs))).map
      fun list => logicIssues path fields
        ++ list.map (Issue.moved "filters" (path ++ ".filters")) := by
  have hgroup : Fields.IsGroup fields := by
    obtain ⟨before, after, rfl, -⟩ := List.lookup_eq_some_iff.1 hmembers
    exact .inr (by simp [Fields.has])
  have hbelow : buildMembers ctx (path ++ ".filters") cs
      = (buildMembers ctx "" cs).mapError (.below (path ++ ".filters")) := by
    rw [← buildMembers_below, String.append_empty]
  rw [buildNode_of_group htype hgroup hmembers, issuesFound_map, issuesFound_alongside,
    issuesFound_readLogic, hbelow, build_array, issuesFound_map, issuesFound_below,
    issuesFound_below, Option.bind_some, Option.map_map, Option.map_map]
  simp only [Function.comp_def, List.map_map, Issue.moved_below, logicIssues]

/-- One list of issues that all nodes share comes to what building does. The issues of several nodes
are those of the single nodes in order, each moved to the place of its node. Several nodes are
refused exactly if one of them is by itself, and if none is, the members of what is built are those
of the single results in order. The issues of a group are that of its logic, if it states none, and
those of its members, moved to the place of the group. -/
theorem issues_node_by_node (ctx : BuildContext) :
    (∀ raw, collect ctx raw = (build ctx raw).map some)
    ∧ (∀ (nodes : List Json) (lists : List (List Issue)), nodes ≠ [] →
      nodes.map (fun v => issuesFound (build ctx (.arr [v]))) = lists.map some →
      issuesFound (build ctx (.arr nodes)) = some (placeIssues lists)
        ∧ (∀ list ∈ lists, ∀ i ∈ list, "filters.0".toList <+: i.path.toList)
        ∧ ((∃ list, build ctx (.arr nodes) = .error (.issues list))
          ↔ ∃ v ∈ nodes, ∃ list, build ctx (.arr [v]) = .error (.issues list))
        ∧ ∀ ts : List BuiltFilter, nodes.map (fun v => build ctx (.arr [v])) = ts.map .ok →
          build ctx (.arr nodes) = .ok (.group .all (ts.flatMap fun t => t.asGroup.2)))
    ∧ ∀ (path : String) (fields : Fields) (cs : List Json),
      isNodeType (Fields.get fields "type") = true → fields.lookup "filters" = some (.arr cs) →
      issuesFound (buildNode ctx path (.obj fields)) = (issuesFound (build ctx (.arr cs))).map
          (fun list => logicIssues path fields
            ++ list.map (Issue.moved "filters" (path ++ ".filters")))
        ∧ ∀ list, issuesFound (build ctx (.arr cs)) = some list →
          ∀ i ∈ list, "filters".toList <+: i.path.toList := by
  refine ⟨collect_eq_build ctx,
    fun nodes lists hne hlists => ⟨issuesFound_several hne hlists, fun list hlist => ?single,
      refused_several hne hlists, fun ts => build_of_singles hne⟩,
    fun path fields cs htype hmembers => ⟨issuesFound_group htype hmembers, fun list hlist => ?all⟩⟩
  case single =>
    have hmem : some list ∈ nodes.map fun v => issuesFound (build ctx (.arr [v])) :=
      hlists ▸ List.mem_map_of_mem hlist
    obtain ⟨v, -, hv⟩ := List.mem_map.1 hmem
    rw [build_single, issuesFound_map] at hv
    exact prefix_of_issuesFound_below hv
  case all =>
    rw [build_array, issuesFound_map] at hlist
    exact prefix_of_issuesFound_below hlist

end Reports

/-! ## Three nodes -/

section Example

/-- A value that is no object, a condition on the title, and an object without fields. -/
def threeNodes : List Json :=
  [.int 1, .obj [("column", .str "title"), ("column_type", .str "text"),
    ("operator", .str "is_empty")], .obj []]

/-- The group of these nodes, of a logic that there is not. -/
def threeNodesGroup : Fields :=
  [("type", .str "group"), ("logic", .str "xor"), ("filters", .arr threeNodes)]

/-- The issues that each of the nodes has by itself. -/
def threeNodesIssues : List (List Issue) :=
  [[⟨"filters.0", .notObject⟩], [], [⟨"filters.0.column", .missingField "column"⟩,
    ⟨"filters.0.column_type", .missingField "column_type"⟩,
    ⟨"filters.0.operator", .missingField "operator"⟩]]

theorem issuesFound_threeNodes :
    threeNodes.map (fun v => issuesFound (build boardless (.arr [v])))
      = threeNodesIssues.map some := by
  simp only [threeNodes, List.map_cons, List.map_nil, build, buildMembers, buildItems, buildNode]
  rfl

/-- The first and the last of three nodes have issues, which the others neither hide nor move, in
an array and in a group. -/
theorem issues_node_by_node_three : threeNodes ≠ []
    ∧ threeNodes.map (fun v => issuesFound (build boardless (.arr [v])))
      = threeNodesIssues.map some
    ∧ issuesFound (build boardless (.arr threeNodes)) = some [⟨"filters.0", .notObject⟩,
      ⟨"filters.2.column", .missingField "column"⟩,
      ⟨"filters.2.column_type", .missingField "column_type"⟩,
      ⟨"filters.2.operator", .missingField "operator"⟩]
    ∧ isNodeType (Fields.get threeNodesGroup "type") = true
    ∧ threeNodesGroup.lookup "filters" = some (.arr threeNodes)
    ∧ issuesFound (buildNode boardless "filters.3" (.obj threeNodesGroup)) = some
      [⟨"filters.3.logic", .unknownLogic⟩, ⟨"filters.3.filters.0", .notObject⟩,
      ⟨"filters.3.filters.2.column", .missingField "column"⟩,
      ⟨"filters.3.filters.2.column_type", .missingField "column_type"⟩,
      ⟨"filters.3.filters.2.operator", .missingField "operator"⟩] := by
  obtain ⟨-, hseveral, hgroup⟩ := issues_node_by_node boardless
  obtain ⟨hall, -⟩ := hseveral threeNodes threeNodesIssues (by simp [threeNodes])
    issuesFound_threeNodes
  obtain ⟨hinside, -⟩ := hgroup "filters.3" threeNodesGroup threeNodes rfl rfl
  rw [hall] at hinside
  exact ⟨by simp [threeNodes], issuesFound_threeNodes, hall.trans rfl, rfl, rfl, hinside.trans rfl⟩

end Example

end BoardQuery
