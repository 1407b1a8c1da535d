import BoardQuery.Proofs.Api.Requests

/-!
# Runs of requests

What every request keeps, any number of them keep (`serve_preserves`): the boards and their columns
(`serve_sameSchema`), and that ids name at most one task and positions are integers that the store
can hold (`serve_wellKeyed`).
-/

namespace BoardQuery

/-- The store after some requests, each at its own time. -/
def serve (c : Settings) (s : Store) (requests : List (Moment × Request)) : Store :=
  requests.foldl (fun s r => (handle c r.1 s r.2).2) s

/-- The replies to the requests. -/
def replies (c : Settings) : Store → List (Moment × Request) → List Reply
  | _, [] => []
  | s, r :: requests => (handle c r.1 s r.2).1 :: replies c (handle c r.1 s r.2).2 requests

theorem serve_cons (c : Settings) (s : Store) (r : Moment × Request)
    (requests : List (Moment × Request)) :
    serve c s (r :: requests) = serve c (handle c r.1 s r.2).2 requests :=
  List.foldl_cons ..

theorem serve_append (c : Settings) (s : Store) (before after : List (Moment × Request)) :
    serve c s (before ++ after) = serve c (serve c s before) after :=
  List.foldl_append

section Runs

variable {c : Settings} {P : Store → Prop}

/-- What changes of the saved filters, clearings of values and changes of tasks keep is kept by a
request. A task that is changed in bulk is one of the board. -/
theorem Effect.preserves {now : Moment} {s s' : Store} (h : Effect c now s s')
    (hfilters : ∀ fs n, P s → P { s with filters := fs, filtersWritten := n })
    (hclear : ∀ taskId columnId, P s → P (s.eraseValue taskId columnId))
    (hput : ∀ s₁ t b c raw v, c ∈ (s.schema b).columns →
      validateFor (s.surroundings now) c c.name raw = .ok v → P s₁ → P (s₁.putValue t c.id v))
    (happly : ∀ s₁ s₂ t b, t ∈ s.tasks → t.boardId = b.id → P s₁ →
      Applied s now b s₁ t s₂ → P s₂) (hs : P s) : P s' := by
  cases h with
  | filters fs n => exact hfilters fs n hs
  | @written t b _ _ _ _ h =>
    obtain ⟨checks, rfl, hchecks⟩ := setValues_eq_ok h
    refine writeChecked_preserves checks (fun c v hcv s₁ h₁ => ?_) hs
    obtain ⟨hc, raw, hv⟩ := hchecks c v hcv
    exact hput s₁ t.id b c raw v hc hv h₁
  | cleared h =>
    simp only [clearValue, refuse_bind, ite_refuse_eq_ok, bind_eq_ok, pure_eq_ok] at h
    obtain ⟨type, -, -, rfl⟩ := h
    exact hclear _ _ hs
  | @bulk b _ _ _ h => exact h.preserves (fun s₁ s₂ t => happly s₁ s₂ t b) hs

theorem serve_preserves (hstep : ∀ now s s', Effect c now s s' → P s → P s') :
    (requests : List (Moment × Request)) → {s : Store} → P s → P (serve c s requests)
  | [], _, h => h
  | r :: requests, s, h => by
    rw [serve_cons]
    exact serve_preserves hstep requests (hstep r.1 s _ (handle_effect c r.1 s r.2) h)

end Runs

/-! ## The boards and their columns -/

theorem Effect.sameSchema {c : Settings} {now : Moment} {s s' : Store} (h : Effect c now s s') :
    s.SameSchema s' :=
  h.preserves (fun _ _ _ => ⟨rfl, rfl, rfl, rfl⟩) (fun _ _ _ => ⟨rfl, rfl, rfl, rfl⟩)
    (fun _ _ _ _ _ _ _ _ hs => hs.trans (.putValue ..))
    (fun _ _ _ _ _ _ hs happlied => hs.trans happlied.sameSchema) (.refl s)

theorem serve_sameSchema (c : Settings) (s : Store) (requests : List (Moment × Request)) :
    s.SameSchema (serve c s requests) :=
  serve_preserves (fun _ _ _ heffect hs => hs.trans heffect.sameSchema) requests (.refl s)

/-! ## Ids and positions -/

/-- Whether every id names at most one task, and every position is an integer of 64 bits. -/
structure Store.WellKeyed (s : Store) : Prop where
  ids : (s.tasks.map (·.id)).Nodup
  positions : ∀ t ∈ s.tasks, fitsInteger t.position = true

namespace Store.WellKeyed

variable {s s' : Store}

theorem of_tasks (h : s.WellKeyed) (htasks : s'.tasks = s.tasks) : s'.WellKeyed :=
  ⟨htasks ▸ h.ids, htasks ▸ h.positions⟩

theorem putValue (h : s.WellKeyed) (taskId columnId : String) (v : Json) :
    (s.putValue taskId columnId v).WellKeyed :=
  h.of_tasks (s.tasks_putValue taskId columnId v)

theorem updateTask (h : s.WellKeyed) {now : Moment} {id : String} {change : Task → Task}
    (hid : ∀ t, (change t).id = t.id)
    (hposition : ∀ t, fitsInteger t.position = true → fitsInteger (change t).position = true) :
    (s.updateTask now id change).WellKeyed where
  ids := by
    rw [s.ids_updateTask hid]
    exact h.ids
  positions t ht := by
    obtain ⟨u, hu, rfl⟩ := List.mem_map.1 ht
    have hfits := h.positions u hu
    split_ifs
    · exact hposition u hfits
    · exact hfits

theorem eraseTask (h : s.WellKeyed) (id : String) : (s.eraseTask id).WellKeyed where
  ids := h.ids.sublist (List.filter_sublist.map _)
  positions t ht := h.positions t (List.mem_of_mem_filter ht)

end Store.WellKeyed

theorem Applied.wellKeyed {start : Store} {now : Moment} {b : Board} {s s' : Store} {t : Task}
    (h : Applied start now b s t s') (hs : s.WellKeyed) : s'.WellKeyed := by
  cases h with
  | updated change hid _ hposition =>
    exact hs.updateTask hid fun t ht => by rwa [hposition t]
  | moved target rows _ _ hposition =>
    have hreplaced : (s.replaceValues t.id (rows.filterMap id)).WellKeyed := hs.of_tasks rfl
    exact hreplaced.updateTask (fun _ => rfl) fun _ _ => hposition
  | erased => exact hs.eraseTask t.id
  | wrote => exact hs.putValue ..

theorem Effect.wellKeyed {c : Settings} {now : Moment} {s s' : Store} (h : Effect c now s s')
    (hs : s.WellKeyed) : s'.WellKeyed :=
  h.preserves (fun _ _ hs => hs.of_tasks rfl) (fun _ _ hs => hs.of_tasks rfl)
    (fun _ _ _ _ _ _ _ _ hs => hs.putValue ..)
    (fun _ _ _ _ _ _ hs happlied => happlied.wellKeyed hs) hs

theorem serve_wellKeyed {c : Settings} {s : Store} (requests : List (Moment × Request))
    (hs : s.WellKeyed) : (serve c s requests).WellKeyed :=
  serve_preserves (fun _ _ _ heffect => heffect.wellKeyed) requests hs

end BoardQuery
