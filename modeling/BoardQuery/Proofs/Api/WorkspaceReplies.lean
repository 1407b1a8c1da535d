import BoardQuery.Api.Handler
import BoardQuery.Proofs.Service.WorkspaceListings

/-!
# Answers in two runs

What it takes for two answers to be the same up to ids that the runs have given to filters
(`Reply.Alike`). Until an id has been given, they are the same (`Reply.Alike.eq`).
-/

namespace BoardQuery

mutual

/-- Whether two documents are the same but for ids of filters, for which the second has those that
stand for them. -/
inductive Json.Renamed (ids : List (String × String)) : Json → Json → Prop
  | same (v : Json) : Json.Renamed ids v v
  | text {x y : String} (h : (x, y) ∈ ids) (before after : String) :
    Json.Renamed ids (.str (before ++ x ++ after)) (.str (before ++ y ++ after))
  | arr {vs ws : List Json} (h : List.Forall₂ (Json.Renamed ids) vs ws) :
    Json.Renamed ids (.arr vs) (.arr ws)
  | obj {fs gs : Fields} (h : List.Forall₂ (Field.Renamed ids) fs gs) :
    Json.Renamed ids (.obj fs) (.obj gs)

inductive Field.Renamed (ids : List (String × String)) : String × Json → String × Json → Prop
  | named (name : String) {v w : Json} (h : Json.Renamed ids v w) :
    Field.Renamed ids (name, v) (name, w)

end

/-- Whether two answers are the same but for ids of filters. -/
structure Reply.Alike (ids : List (String × String)) (r₁ r₂ : Reply) : Prop where
  status : r₂.status = r₁.status
  body : Option.Rel (Json.Renamed ids) r₁.body r₂.body

section Documents

variable {ids : List (String × String)}

mutual

/-- Before an id has been given, documents that are the same but for ids are the same. -/
theorem Json.Renamed.eq : (v : Json) → {w : Json} → Json.Renamed [] v w → w = v
  | _, _, .same _ => rfl
  | _, _, .text h _ _ => absurd h List.not_mem_nil
  | .arr vs, _, .arr h => congrArg Json.arr (Json.Renamed.items_eq vs h)
  | .obj fs, _, .obj h => congrArg Json.obj (Json.Renamed.fields_eq fs h)

theorem Json.Renamed.items_eq : (vs : List Json) → {ws : List Json} →
    List.Forall₂ (Json.Renamed []) vs ws → ws = vs
  | [], _, .nil => rfl
  | v :: vs, _, .cons h hs => by
    rw [Json.Renamed.eq v h, Json.Renamed.items_eq vs hs]

theorem Json.Renamed.fields_eq : (fs : List (String × Json)) → {gs : List (String × Json)} →
    List.Forall₂ (Field.Renamed []) fs gs → gs = fs
  | [], _, .nil => rfl
  | (_, v) :: fs, _, .cons (.named _ h) hs => by
    rw [Json.Renamed.eq v h, Json.Renamed.fields_eq fs hs]

end

theorem Json.Renamed.fields_same (fs : Fields) : List.Forall₂ (Field.Renamed ids) fs fs :=
  List.forall₂_same.2 fun p _ => .named p.1 (.same p.2)

theorem Json.Renamed.sentence (before id after : String) :
    Json.Renamed ids (.str (before ++ id ++ after))
      (.str (before ++ counterpart ids id ++ after)) := by
  rcases counterpart_cases ids id with h | h
  · exact .text h before after
  · rw [h]
    exact .same _

theorem Json.Renamed.id (id : String) :
    Json.Renamed ids (.str id) (.str (counterpart ids id)) := by
  have h : Json.Renamed ids (.str ("" ++ id ++ "")) (.str ("" ++ counterpart ids id ++ "")) :=
    .sentence "" id ""
  simpa using h

theorem savedFilterJson_renamed (userId : String) (f : SavedFilter) :
    Json.Renamed ids (savedFilterJson userId f) (savedFilterJson userId (f.counterpart ids)) :=
  .obj (.cons (.named _ (.id f.id)) (Json.Renamed.fields_same _))

theorem Reply.Alike.same (r : Reply) : Reply.Alike ids r r := by
  refine ⟨rfl, ?_⟩
  rcases r.body with _ | v
  · exact .none
  · exact .some (.same v)

theorem Reply.Alike.eq {r₁ r₂ : Reply} (h : Reply.Alike [] r₁ r₂) : r₂ = r₁ := by
  obtain ⟨status, body⟩ := r₁
  obtain ⟨status₂, body₂⟩ := r₂
  obtain ⟨hstatus, hbody⟩ := h
  obtain rfl : status₂ = status := hstatus
  dsimp only at hbody
  cases hbody with
  | none => rfl
  | some h => rw [h.eq]

theorem Reply.Alike.json (status : Nat) {fs gs : Fields}
    (h : List.Forall₂ (Field.Renamed ids) fs gs) :
    Reply.Alike ids (.json status fs) (.json status gs) :=
  ⟨rfl, .some (.obj h)⟩

theorem Reply.Alike.data {v w : Json} (h : Json.Renamed ids v w) :
    Reply.Alike ids (.data v) (.data w) :=
  .json 200 (.cons (.named _ h) .nil)

theorem Reply.Alike.withoutBody {r₁ r₂ : Reply} (h : Reply.Alike ids r₁ r₂) :
    Reply.Alike ids { r₁ with body := none } { r₂ with body := none } :=
  ⟨h.status, .none⟩

theorem Reply.Alike.notFound (status : Nat) (id : String) :
    Reply.Alike ids (.ofRefusal status (.reason (.filterNotFound id)))
      (.ofRefusal status (.reason (.filterNotFound (counterpart ids id)))) :=
  .json status (.cons (.named _ (.sentence "Saved filter " id " not found.")) .nil)

end Documents

/-! ## What answers tell of a store -/

section Stores

open Store (Agree)

variable {s s₁ s₂ : Store} {W userId : String} {ids : List (String × String)} {t : Task}

theorem filterJson_renamed (h : Agree W ids s₁ s₂) (h₁ : s₁.Separated) (h₂ : s₂.Separated)
    {id : Option String} (hid : ∀ x ∈ id, s₁.HasFilter W x) :
    Json.Renamed ids (s₁.filterJson userId id)
      (s₂.filterJson userId (id.map (counterpart ids))) := by
  rcases id with _ | id
  · exact .same _
  · obtain ⟨f, hf, rfl⟩ := hid id rfl
    have hfind₁ : s₁.filter? f.id = some f := h₁.filter?_eq (Store.mem_filtersWithin.1 hf).1
    have hfind₂ : s₂.filter? (counterpart ids f.id) = some (f.counterpart ids) :=
      h₂.filter?_eq (Store.mem_filtersWithin.1 (h.counterpart_mem hf)).1
    simp only [Store.filterJson, Option.map_some, Option.bind_some, hfind₁, hfind₂,
      Option.getD_some]
    exact savedFilterJson_renamed userId f

theorem taskJson_within (hs : s.Separated) (htask : s.hasTask W t.id = true)
    (hboard : s.hasBoard W t.boardId = true) (inclusions : List Inclusion) :
    taskJson (s.within W) inclusions t = taskJson s inclusions t := by
  have hfields (i : Inclusion) : inclusionFields (s.within W) t i = inclusionFields s t i := by
    have huser (id : Option String) : (s.within W).userJson id = s.userJson id := rfl
    cases i <;> simp only [inclusionFields, Store.valuesOf_within htask, huser,
      hs.board?_within_of hboard]
  rw [taskJson, taskJson]
  exact congrArg (fun fs => Json.obj (_ ++ fs)) (List.flatMap_congr fun i _ => hfields i)

theorem taskJson_agree (h : Agree W ids s₁ s₂) (h₁ : s₁.Separated) (h₂ : s₂.Separated)
    (htask : s₁.hasTask W t.id = true) (hboard : s₁.hasBoard W t.boardId = true)
    (inclusions : List Inclusion) : taskJson s₂ inclusions t = taskJson s₁ inclusions t := by
  have htask₂ : s₂.hasTask W t.id = true := by
    rw [h.hasTask_eq, htask]
  rw [← taskJson_within h₁ htask hboard, ← taskJson_within h₂ htask₂ (h.hasBoard hboard), h.within]

theorem listingReply_alike (h : Agree W ids s₁ s₂) (h₁ : s₁.Separated) (h₂ : s₂.Separated)
    {q : TaskQuery} {l : Listing}
    (hitems : ∀ t ∈ l.page.items, s₁.hasTask W t.id = true ∧ s₁.hasBoard W t.boardId = true)
    (happlied : ∀ x ∈ l.appliedFilter, s₁.HasFilter W x)
    (hsaved : ∀ x ∈ l.savedFilter, s₁.HasFilter W x) (earlier : List (String × String)) :
    Reply.Alike ids (listingReply s₁ userId q l)
      (listingReply s₂ userId (q.counterpart earlier) (l.counterpart ids)) := by
  have htasks : l.page.items.map (taskJson s₂ q.inclusions)
      = l.page.items.map (taskJson s₁ q.inclusions) :=
    List.map_congr_left fun t ht =>
      taskJson_agree h h₁ h₂ (hitems t ht).1 (hitems t ht).2 q.inclusions
  have hpage : (l.counterpart ids).page = l.page := rfl
  have hinclusions : (q.counterpart earlier).inclusions = q.inclusions := rfl
  unfold listingReply
  rw [hpage, hinclusions, htasks]
  refine .json 200 (.cons (.named _ (.same _)) (.cons (.named _ (.same _))
    (.cons (.named _ (.obj ?_)) .nil)))
  refine .cons (.named _ (.same _)) (.cons (.named _ (.same _)) (.cons (.named _ (.same _))
    (.cons (.named _ (.same _)) (.cons (.named _ (.same _)) (.cons (.named _ (.same _))
      (.cons (.named _ ?_) (.cons (.named _ ?_) .nil)))))))
  · exact filterJson_renamed h h₁ h₂ happlied
  · exact filterJson_renamed h h₁ h₂ hsaved

end Stores

end BoardQuery
