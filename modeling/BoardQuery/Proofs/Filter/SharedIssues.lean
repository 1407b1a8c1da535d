import BoardQuery.Proofs.Filter.Faults

/-!
# Building with one list of issues

Issues can be collected in one list that all nodes share: each node adds to it what it finds, and a
condition goes on only as long as the list is no longer than where the condition began. This comes
to what `build` does, which puts the issues of the parts together (`collect_eq_build`). The
induction is over the document, and what it shows of a node is that the list is only added to
(`run_collectNode`): what stands in the list already has no part in how far a condition is read.
-/

namespace BoardQuery

namespace FilterBuilder

/-- A reading that adds the issues it finds to a list, and fails with a fault. -/
abbrev Collector := StateT (List Issue) (Except Fault)

def report (path : String) (p : FilterProblem) : Collector Unit :=
  modify fun issues => issues ++ [⟨path, p⟩]

def reportIf (wrong : Bool) (path : String) (p : FilterProblem) : Collector Unit :=
  if wrong then report path p else pure ()

def collectLogic (path : String) (v : Json) : Collector (Option Logic) :=
  match v with
  | .null => return some .all
  | .str s =>
    match Logic.ofName? (Text.upper s) with
    | some l => return some l
    | none => do
      report path .unknownLogic
      return none
  | _ => do
    report path .unknownLogic
    return none

/-- The checks of the structure of a condition, of which none depends on another. -/
def collectHead (path : String) (fields : Fields) : Collector (Option Logic) := do
  let column := Fields.get fields "column"
  let columnType := Fields.get fields "column_type"
  forM requiredFields fun name =>
    reportIf (isLeftOut (Fields.get fields name)) (path ++ "." ++ name) (.missingField name)
  reportIf (!isLeftOut column && (columnName? column).isNone) (path ++ ".column") .badColumnName
  reportIf (!isLeftOut columnType && (columnType.str?.bind ColumnType.ofName?).isNone)
    (path ++ ".column_type") (.unknownColumnType columnType)
  collectLogic (path ++ ".logic") (Fields.get fields "logic")

def collectOperator (path : String) (t : ColumnType) (v : Json) : Collector (Option Operator) :=
  match (v.str?.bind Operator.ofName?).filter t.operators.contains with
  | some op => return some op
  | none => do
    report (path ++ ".operator") (.badOperator v t)
    return none

def collectColumn (ctx : BuildContext) (path : String) (column : String) (t : ColumnType) :
    Collector (Option (ColumnType × Options)) :=
  match ctx.lookup column with
  | none => return some (t, t.defaultOptions)
  | some r =>
    if r.columnType.family == t.family then return some (r.columnType, r.options)
    else if ctx.staleOk then return some (t, t.defaultOptions)
    else do
      report (path ++ ".column_type") (.otherFamily column r.columnType t)
      return none

def collectPresence (path : String) (t : ColumnType) (op : Operator) (v : Json) :
    Collector Unit := do
  match ← presenceProblem? t op v with
  | some p => report path p
  | none => return

def collectOperand (env : Surroundings) (path : String) (t : ColumnType) (op : Operator)
    (o : Options) (v : Json) : Collector (Option Operand) :=
  match readOperand env t op o v with
  | .ok w => return some w
  | .error (.fault f) => throw f
  | .error (.complaints list) => do
    modify fun issues => issues ++ list.map fun c => ⟨path ++ c.suffix, .operand c.problem⟩
    return none

/-- The operand of a condition that began with a list of the length `found`. -/
def collectOperandAt (env : Surroundings) (found : Nat) (path : String) (t : ColumnType)
    (op : Operator) (o : Options) (v : Json) : Collector (Option Operand) := do
  collectPresence path t op v
  if found < (← get).length then return none
  collectOperand env path t op o v

/-- A condition from its fields, given up where the list is longer than where it began. -/
def collectLeaf (ctx : BuildContext) (path : String) (fields : Fields) :
    Collector (Option (Leaf String Operand)) := do
  let found := (← get).length
  let logic ← collectHead path fields
  if found < (← get).length then return none
  match columnName? (Fields.get fields "column"),
      (Fields.get fields "column_type").str?.bind ColumnType.ofName?, logic with
  | some column, some columnType, some logic =>
    let some op ← collectOperator path columnType (Fields.get fields "operator") | return none
    let some (t, o) ← collectColumn ctx path column columnType | return none
    let some v ← collectOperandAt ctx.surroundings found (path ++ ".value") t op o
      (Fields.get fields "value") | return none
    return some ⟨column, t, op, v, logic⟩
  | _, _, _ => return none

mutual

def collectNode (ctx : BuildContext) (path : String) (raw : Json) :
    Collector (Option BuiltFilter) :=
  match raw with
  | .obj fields =>
    let type := Fields.get fields "type"
    if !isNodeType type then do
      report (path ++ ".type") .unknownNodeType
      return none
    else if type.str? == some "group" || Fields.has fields "filters" then do
      let logic ← collectLogic (path ++ ".logic") (Fields.get fields "logic")
      match membersOf fields with
      | some ⟨items, _⟩ => collectMembers ctx logic (path ++ ".filters") items
      | none =>
        report (path ++ ".filters") .notMemberList
        return none
    else do
      let leaf ← collectLeaf ctx path fields
      return leaf.map .leaf
  | _ => do
    report path .notObject
    return none
termination_by (sizeOf raw, 0)

/-- A group, unless its logic or one of its members is wrong. -/
def collectMembers (ctx : BuildContext) (logic : Option Logic) (path : String)
    (items : List Json) : Collector (Option BuiltFilter) :=
  if items.isEmpty then do
    report path .emptyGroup
    return none
  else do
    let built ← collectItems ctx path 0 items
    match logic, built.mapM id with
    | some l, some members => return some (.group l members)
    | _, _ => return none
termination_by (sizeOf items, 1)

def collectItems (ctx : BuildContext) (path : String) (index : Nat) (items : List Json) :
    Collector (List (Option BuiltFilter)) :=
  match items with
  | [] => return []
  | v :: rest => do
    let node ← collectNode ctx (path ++ "." ++ toString index) v
    let nodes ← collectItems ctx path (index + 1) rest
    return node :: nodes
termination_by (sizeOf items, 0)

end

def collectRoot (ctx : BuildContext) (raw : Json) : Collector (Option BuiltFilter) :=
  match raw with
  | .arr items => collectMembers ctx (some .all) "filters" items
  | .obj fields =>
    if Fields.has fields "filters" && !Fields.has fields "type" then do
      let logic ← collectLogic "logic" (Fields.get fields "logic")
      match Fields.get fields "filters" with
      | .arr items => collectMembers ctx logic "filters" items
      | _ =>
        report "filters" .notMemberList
        return none
    else do
      let node ← collectNode ctx "filters.0" raw
      return node.map fun
        | .leaf l => .group .all [.leaf l]
        | g => g
  | _ => do
    report "filters" .notFilterList
    return none

/-- What a document comes to if all its nodes share one list of issues: the report of the list
unless it is empty, or else the root, if there is one. -/
def collect (ctx : BuildContext) (raw : Json) : Except FilterError (Option BuiltFilter) :=
  match (collectRoot ctx raw).run [] with
  | .error f => .error (.fault f)
  | .ok (root, []) => .ok root
  | .ok (_, issues) => .error (.issues issues)

/-! ## What is added to the list -/

/-- What a reading comes to with a list of issues to add to. -/
def added {α : Type} (issues : List Issue) :
    Except FilterError α → Except Fault (Option α × List Issue)
  | .ok a => .ok (some a, issues)
  | .error (.issues list) => .ok (none, issues ++ list)
  | .error (.fault f) => .error f

section Runs

variable {ctx : BuildContext} {path : String} {fields : Fields} {v : Json} {t : ColumnType}
  {op : Operator} {o : Options} {issues : List Issue} {α β γ : Type}

theorem run_bind {m : Collector α} {k : α → Collector β} :
    (m >>= k).run issues = m.run issues >>= fun p => (k p.1).run p.2 := rfl

theorem run_get_bind {k : List Issue → Collector α} :
    (get >>= k).run issues = (k issues).run issues := rfl

theorem run_reportIf {wrong : Bool} {p : FilterProblem} :
    (reportIf wrong path p).run issues = .ok ((), issues ++ if wrong then [⟨path, p⟩] else []) := by
  cases wrong
  · exact congrArg (fun list => Except.ok ((), list)) (List.append_nil issues).symm
  · rfl

theorem run_forM_reportIf {names : List String} {wrong : String → Bool} {place : String → String}
    {p : String → FilterProblem} :
    (forM names fun name => reportIf (wrong name) (place name) (p name)).run issues
      = .ok ((), issues ++ (names.filter wrong).map fun name => ⟨place name, p name⟩) := by
  induction names generalizing issues with
  | nil => exact congrArg (fun list => Except.ok ((), list)) (List.append_nil issues).symm
  | cons name rest ih =>
    rw [List.forM_cons, run_bind, run_reportIf, ok_bind, ih, List.append_assoc]
    cases h : wrong name <;> simp [h]

theorem run_collectLogic :
    (collectLogic path v).run issues = added issues (readLogic path v) := by
  cases v with
  | str s =>
    rw [collectLogic, readLogic]
    cases Logic.ofName? (Text.upper s) <;> rfl
  | _ => rfl

theorem ite_unread {leftOut : Bool} {read : Option α} {list : List Issue} :
    (if !leftOut && read.isNone then list else [])
      = if leftOut || read.isSome then [] else list := by
  cases leftOut <;> cases read <;> rfl

/-- Each check adds what `headIssues` lists for it. -/
theorem run_collectHead (path : String) (fields : Fields) (issues : List Issue) :
    ∃ logic : Option Logic,
      (collectHead path fields).run issues = .ok (logic, issues ++ headIssues path fields)
      ∧ ∀ l, readLogic path (Fields.get fields "logic") = .ok l → logic = some l := by
  simp only [collectHead, run_bind, run_forM_reportIf, run_reportIf, ok_bind, run_collectLogic,
    ite_unread, headIssues]
  rcases readLogic_cases (Fields.get fields "logic") with ⟨l, h⟩ | h
  · refine ⟨some l, ?_, fun l' hl' => ?_⟩
    · simp only [h, added, List.append_nil, List.append_assoc]
    · exact congrArg some (Except.ok.inj ((h path).symm.trans hl'))
  · refine ⟨none, ?_, fun l' hl' => ?_⟩
    · simp only [h, added, List.append_assoc]
    · exact absurd ((h path).symm.trans hl') (by simp)

theorem run_collectOperator :
    (collectOperator path t v).run issues = added issues (readOperator path t v) := by
  rw [collectOperator, readOperator]
  cases (v.str?.bind Operator.ofName?).filter t.operators.contains <;> rfl

theorem run_collectColumn {column : String} :
    (collectColumn ctx path column t).run issues = added issues (adopt ctx path column t) := by
  rw [collectColumn, adopt]
  cases ctx.lookup column with
  | none => rfl
  | some r =>
    dsimp only
    split_ifs <;> rfl

theorem run_collectPresence : (collectPresence path t op v).run issues
    = (presenceProblem? t op v).map fun p => ((), issues ++ (p.map (Issue.mk path)).toList) := by
  rw [collectPresence, run_bind]
  rcases presenceProblem? t op v with f | _ | p
  · rfl
  · exact congrArg (fun list => Except.ok ((), list)) (List.append_nil issues).symm
  · rfl

/-- An operand is read if its presence has added nothing to the list. -/
theorem run_collectOperandAt {env : Surroundings} :
    (collectOperandAt env issues.length path t op o v).run issues
      = added issues (readOperandAt env path t op o v) := by
  rw [collectOperandAt, readOperandAt, run_bind, run_collectPresence]
  rcases presenceProblem? t op v with f | _ | p
  · rfl
  · simp only [Except.map, ok_bind, run_get_bind, Option.map_none, Option.toList_none,
      List.append_nil, Nat.lt_irrefl, if_false]
    rw [collectOperand]
    rcases readOperand env t op o v with (f | list) | w <;> rfl
  · simp only [Except.map, ok_bind, run_get_bind, Option.map_some, Option.toList_some,
      List.length_append, List.length_singleton, Nat.lt_succ_self, if_true]
    rfl

/-- A reading that is given up where the one before it is. -/
theorem run_bind_some {m : Collector (Option α)} {k : Option α → Collector (Option β)}
    {r : Except FilterError α} {f : α → Except FilterError β} (hm : m.run issues = added issues r)
    (hnone : k none = pure none) (hk : ∀ a, (k (some a)).run issues = added issues (f a)) :
    (m >>= k).run issues = added issues (r >>= f) := by
  rw [run_bind, hm]
  rcases r with (list | f) | a
  · rw [added, ok_bind, hnone]
    rfl
  · rfl
  · exact hk a

theorem readHead_eq_error {e : FilterError} (h : readHead path fields = .error e) :
    e = .issues (headIssues path fields) ∧ headIssues path fields ≠ [] := by
  have he : e = .issues (headIssues path fields) := by
    unfold readHead at h
    split at h
    · exact absurd h ok_ne_error
    · exact (Except.error.inj h).symm
  exact ⟨he, fun hnil => readHead_ne_silent (by rw [h, he, hnil])⟩

/-- A condition is read as far as it adds nothing, whatever the list holds already. -/
theorem run_collectLeaf :
    (collectLeaf ctx path fields).run issues = added issues (buildLeaf ctx path fields) := by
  obtain ⟨logic, hhead, hlogic⟩ := run_collectHead path fields issues
  rw [collectLeaf, buildLeaf, run_get_bind, run_bind, hhead, ok_bind, run_get_bind]
  rcases hread : readHead path fields with e | head
  · obtain ⟨rfl, hne⟩ := readHead_eq_error hread
    have hlonger : issues.length < (issues ++ headIssues path fields).length := by
      simpa [List.length_pos_iff] using hne
    rw [if_pos hlonger]
    rfl
  · obtain ⟨hcolumn, hnamed, htype, hstated, hop, hread⟩ := readHead_eq_ok.1 hread
    have hclean : headIssues path fields = [] :=
      (headIssues_eq_nil hcolumn htype hread).2 ⟨hnamed, hstated⟩
    rw [hclean, List.append_nil, if_neg (Nat.lt_irrefl _)]
    simp only [hcolumn, htype, hlogic head.logic (readLogic_at hread), ← hop]
    refine run_bind_some run_collectOperator rfl fun op => ?_
    refine run_bind_some run_collectColumn rfl fun p => ?_
    exact run_bind_some run_collectOperandAt rfl fun v => rfl

/-- What a reading and one before it come to together: nothing, if one of them comes to nothing. -/
def addedNext (f : α → β → γ) (issues : List Issue) (first : Option α) (r : Except FilterError β) :
    Except Fault (Option γ × List Issue) :=
  (added issues r).map fun p => (first.bind fun a => p.1.map (f a), p.2)

theorem added_alongside {f : α → β → γ} {r : Except FilterError α} {r' : Except FilterError β} :
    (added issues r >>= fun p => addedNext f p.2 p.1 r')
      = added issues ((alongside r r').map fun p => f p.1 p.2) := by
  rcases r with (list | e) | a <;> rcases r' with (more | e') | b <;>
    simp [added, addedNext, alongside, Except.map, ok_bind, error_bind]

mutual

/-- A node adds to the list the issues that it is built with. By recursion over the document, as
collecting goes, for every list that the nodes before it may have left. -/
theorem run_collectNode (issues : List Issue) (path : String) (raw : Json) :
    (collectNode ctx path raw).run issues = added issues (buildNode ctx path raw) := by
  cases raw with
  | obj fields =>
    rw [collectNode, buildNode]
    split_ifs
    · rfl
    · rw [← added_alongside, run_bind, run_collectLogic]
      congr 1
      funext p
      rcases membersOf fields with _ | ⟨items, hlt⟩
      · cases p.1 <;> rfl
      · exact run_collectMembers p.2 p.1 _ items
    · rw [run_bind, run_collectLeaf]
      rcases buildLeaf ctx path fields with (list | f) | l <;> rfl
  | _ =>
    rw [collectNode, buildNode]
    · rfl
    · exact fun _ => Json.noConfusion
    · exact fun _ => Json.noConfusion
termination_by (sizeOf raw, 0)

theorem run_collectMembers (issues : List Issue) (logic : Option Logic) (path : String)
    (items : List Json) : (collectMembers ctx logic path items).run issues
      = addedNext .group issues logic (buildMembers ctx path items) := by
  rw [collectMembers, buildMembers]
  split_ifs
  · cases logic <;> rfl
  · rw [run_bind, addedNext, ← run_collectItems issues path 0 items]
    rcases (collectItems ctx path 0 items).run issues with f | ⟨built, all⟩
    · rfl
    · rcases hbuilt : built.mapM id with _ | members <;> cases logic <;>
        simp [Except.map, ok_bind, hbuilt]
termination_by (sizeOf items, 1)

theorem run_collectItems (issues : List Issue) (path : String) (index : Nat) (items : List Json) :
    ((collectItems ctx path index items).run issues).map (fun p => (p.1.mapM id, p.2))
      = added issues (gather (buildItems ctx path index items)) := by
  cases items with
  | nil =>
    rw [collectItems, buildItems]
    rfl
  | cons v rest =>
    rw [collectItems, buildItems, gather, run_bind, run_collectNode issues _ v, ← added_alongside]
    rcases added issues (buildNode ctx (path ++ "." ++ toString index) v) with f | ⟨node, found⟩
    · rfl
    · rw [ok_bind, ok_bind, addedNext, ← run_collectItems found path (index + 1) rest, run_bind]
      rcases (collectItems ctx path (index + 1) rest).run found with f | ⟨nodes, all⟩
      · rfl
      · cases node <;> rcases hnodes : nodes.mapM id with _ | members <;>
          simp [Except.map, hnodes]
termination_by (sizeOf items, 0)

end

theorem added_map {r : Except FilterError α} {f : α → β} :
    added issues (r.map f) = (added issues r).map fun p => (p.1.map f, p.2) := by
  rcases r with (list | e) | a <;> rfl

theorem run_collectRoot (raw : Json) :
    (collectRoot ctx raw).run issues = added issues (build ctx raw) := by
  cases raw with
  | arr items =>
    rw [collectRoot, build, run_collectMembers, addedNext, added_map]
    rfl
  | obj fields =>
    rw [collectRoot, build]
    split_ifs
    · rw [← added_alongside, run_bind, run_collectLogic]
      congr 1
      funext p
      unfold buildTop
      cases Fields.get fields "filters" with
      | arr items => exact run_collectMembers p.2 p.1 _ items
      | _ => cases p.1 <;> rfl
    · rw [run_bind, run_collectNode, added_map]
      rcases added issues (buildNode ctx "filters.0" (.obj fields)) with f | ⟨node, all⟩ <;> rfl
  | _ => rfl

/-- Sharing one list of issues comes to what building from the parts does, and always to a root or
to an issue, or to a fault. -/
theorem collect_eq_build (ctx : BuildContext) (raw : Json) :
    collect ctx raw = (build ctx raw).map some := by
  rw [collect, run_collectRoot]
  rcases h : build ctx raw with (list | f) | t
  · cases list with
    | nil => exact absurd h build_ne_silent
    | cons i rest => rfl
  · rfl
  · rfl

end Runs

end FilterBuilder

end BoardQuery
