import BoardQuery.Proofs.Service.WorkspaceListings

/-!
# Writes of saved filters

What the operations of a request can do to the saved filters (`FilterEffect`). They keep the names
and the defaults of every user in order (`FilterEffect.inOrder`), leave a filter as it was but for
its flag and the count of its uses (`FilterEffect.descends`), and take away, or make the default,
only what is its sender's own (`FilterEffect.spares`).
-/

namespace BoardQuery

open Store (defaulted noted keepsPlace_defaulted keepsPlace_noted)

/-- What operations have done to the saved filters, and the filters that they have used. What is
saved, made the default or deleted belongs to those who have sent the request. -/
inductive FilterEffect (sent : String → Prop) (now : Moment) : Store → List String → Store → Prop
  /-- The saved filters were left alone. -/
  | other {s s' : Store} (hfilters : s'.filters = s.filters)
    (hwritten : s'.filtersWritten = s.filtersWritten) : FilterEffect sent now s [] s'
  | used {s : Store} (id : String) : FilterEffect sent now s [id] (recordUse now s id)
  | saved {s : Store} (f : SavedFilter) (isDefault : Bool) (hid : f.id = s.nextFilterId)
    (howner : sent f.userId) (hname : f.name ≠ "") (hflag : f.isDefault = false)
    (hfresh : ∀ g ∈ s.filters, g.userId = f.userId → g.boardId = f.boardId → g.name ≠ f.name) :
    FilterEffect sent now s [] (s.saved f isDefault)
  | chosen {s : Store} {f : SavedFilter} (hf : f ∈ s.filters) (howner : sent f.userId) :
    FilterEffect sent now s [] (s.makeDefault f)
  | erased {s : Store} {f : SavedFilter} (hf : f ∈ s.filters) (howner : sent f.userId) :
    FilterEffect sent now s [] (s.eraseFilter f.id)
  | both {s s₁ s₂ : Store} {used used' : List String} (h : FilterEffect sent now s used s₁)
    (h' : FilterEffect sent now s₁ used' s₂) : FilterEffect sent now s (used ++ used') s₂

/-! ## Names and defaults -/

/-- Whether ids name one filter each, the ids to come are free, and every user has on a board one
filter of a name and one default at most. -/
structure Store.FiltersInOrder (s : Store) : Prop where
  ids : (s.filters.map (·.id)).Nodup
  unwritten : ∀ f ∈ s.filters, ∀ n, s.filtersWritten < n → f.id ≠ filterId n
  named : ∀ f ∈ s.filters, f.name ≠ ""
  names : ∀ f ∈ s.filters, ∀ g ∈ s.filters, f.userId = g.userId → f.boardId = g.boardId →
    f.name = g.name → f.id = g.id
  defaults : ∀ f ∈ s.filters, ∀ g ∈ s.filters, f.userId = g.userId → f.boardId = g.boardId →
    f.isDefault = true → g.isDefault = true → f.id = g.id

/-- Whether a change of filters leaves them their ids, owners, boards and names. -/
structure KeepsName (change : SavedFilter → SavedFilter) : Prop
    extends Store.KeepsPlace change where
  userId : ∀ f, (change f).userId = f.userId
  name : ∀ f, (change f).name = f.name

theorem keepsName_defaulted (f : SavedFilter) : KeepsName (defaulted f) := by
  refine ⟨keepsPlace_defaulted f, ?_, ?_⟩ <;>
  · intro g
    unfold defaulted
    split_ifs <;> rfl

theorem keepsName_noted (now : Moment) (id : String) : KeepsName (noted now id) := by
  refine ⟨keepsPlace_noted now id, ?_, ?_⟩ <;>
  · intro g
    unfold noted
    split_ifs <;> rfl

theorem isDefault_noted (now : Moment) (id : String) (g : SavedFilter) :
    (noted now id g).isDefault = g.isDefault := by
  unfold noted
  split_ifs <;> rfl

theorem isDefault_defaulted {f g : SavedFilter} (h : (defaulted f g).isDefault = true) :
    g.id = f.id ∨ g.isDefault = true ∧ ¬ (g.userId = f.userId ∧ g.boardId = f.boardId) := by
  unfold defaulted at h
  split_ifs at h with hid howner
  · exact .inl (beq_iff_eq.1 hid)
  · exact .inr ⟨h, by simpa using howner⟩

namespace Store.FiltersInOrder

variable {s : Store} {f : SavedFilter}

theorem map (hs : s.FiltersInOrder) {change : SavedFilter → SavedFilter} (h : KeepsName change)
    (hdefaults : ∀ f ∈ s.filters, ∀ g ∈ s.filters, f.userId = g.userId → f.boardId = g.boardId →
      (change f).isDefault = true → (change g).isDefault = true → f.id = g.id) :
    ({ s with filters := s.filters.map change } : Store).FiltersInOrder := by
  refine ⟨?_, ?_, ?_, ?_, ?_⟩
  · have hids : (s.filters.map change).map (·.id) = s.filters.map (·.id) := by
      rw [List.map_map]
      exact List.map_congr_left fun f _ => h.id f
    rw [hids]
    exact hs.ids
  · rw [List.forall_mem_map]
    intro f hf n hn
    rw [h.id]
    exact hs.unwritten f hf n hn
  · rw [List.forall_mem_map]
    intro f hf
    rw [h.name]
    exact hs.named f hf
  · simp only [List.forall_mem_map, h.id, h.userId, h.boardId, h.name]
    exact hs.names
  · simp only [List.forall_mem_map, h.id, h.userId, h.boardId]
    exact hdefaults

theorem id_ne {g : SavedFilter} (hs : s.FiltersInOrder) (hf : f ∈ s.filters) (hg : g ∈ s.filters)
    (h : f.userId ≠ g.userId) : f.id ≠ g.id := by
  intro hid
  exact h (by rw [List.inj_on_of_nodup_map hs.ids hf hg hid])

theorem recordUse (hs : s.FiltersInOrder) (now : Moment) (id : String) :
    (recordUse now s id).FiltersInOrder := by
  rw [recordUse_eq]
  refine hs.map (keepsName_noted now id) fun f hf g hg huser hboard hfd hgd => ?_
  rw [isDefault_noted] at hfd hgd
  exact hs.defaults f hf g hg huser hboard hfd hgd

theorem makeDefault (hs : s.FiltersInOrder) (hf : f ∈ s.filters) :
    (s.makeDefault f).FiltersInOrder := by
  refine hs.map (keepsName_defaulted f) fun g hg k hk huser hboard hgd hkd => ?_
  -- A default that is not the one chosen is another user's or on another board.
  rcases isDefault_defaulted hgd with hgf | ⟨hgd, hgf⟩ <;>
    rcases isDefault_defaulted hkd with hkf | ⟨hkd, hkf⟩
  · rw [hgf, hkf]
  · obtain rfl := List.inj_on_of_nodup_map hs.ids hg hf hgf
    exact absurd ⟨huser.symm, hboard.symm⟩ hkf
  · obtain rfl := List.inj_on_of_nodup_map hs.ids hk hf hkf
    exact absurd ⟨huser, hboard⟩ hgf
  · exact hs.defaults g hg k hk huser hboard hgd hkd

theorem addFilter (hs : s.FiltersInOrder) (hid : f.id = s.nextFilterId) (hname : f.name ≠ "")
    (hflag : f.isDefault = false)
    (hfresh : ∀ g ∈ s.filters, g.userId = f.userId → g.boardId = f.boardId → g.name ≠ f.name) :
    (s.addFilter f).FiltersInOrder := by
  have hne : ∀ g ∈ s.filters, g.id ≠ f.id := by
    intro g hg
    rw [hid]
    exact hs.unwritten g hg _ (Nat.lt_succ_self _)
  refine ⟨?_, ?_, ?_, ?_, ?_⟩
  · rw [Store.addFilter, List.map_append, List.nodup_append]
    refine ⟨hs.ids, List.nodup_singleton _, fun x hx y hy => ?_⟩
    obtain ⟨g, hg, rfl⟩ := List.mem_map.1 hx
    rw [List.mem_singleton.1 hy]
    exact hne g hg
  · intro g hg n hn
    rcases List.mem_append.1 hg with hg | hg
    · exact hs.unwritten g hg n (Nat.lt_of_succ_lt hn)
    · rw [List.mem_singleton.1 hg, hid]
      exact fun heq => absurd (filterId_inj.1 heq) (Nat.ne_of_lt hn)
  · intro g hg
    rcases List.mem_append.1 hg with hg | hg
    · exact hs.named g hg
    · rw [List.mem_singleton.1 hg]
      exact hname
  · intro g hg k hk huser hboard hgk
    rcases List.mem_append.1 hg with hg | hg <;> rcases List.mem_append.1 hk with hk | hk
    · exact hs.names g hg k hk huser hboard hgk
    · rw [List.mem_singleton.1 hk] at huser hboard hgk
      exact absurd hgk (hfresh g hg huser hboard)
    · rw [List.mem_singleton.1 hg] at huser hboard hgk
      exact absurd hgk.symm (hfresh k hk huser.symm hboard.symm)
    · rw [List.mem_singleton.1 hg, List.mem_singleton.1 hk]
  · intro g hg k hk huser hboard hgd hkd
    have hold {g : SavedFilter} (hg : g ∈ (s.addFilter f).filters) (hgd : g.isDefault = true) :
        g ∈ s.filters := by
      rcases List.mem_append.1 hg with hg | hg
      · exact hg
      · rw [List.mem_singleton.1 hg, hflag] at hgd
        exact absurd hgd Bool.false_ne_true
    exact hs.defaults g (hold hg hgd) k (hold hk hkd) huser hboard hgd hkd

theorem eraseFilter (hs : s.FiltersInOrder) (id : String) : (s.eraseFilter id).FiltersInOrder where
  ids := hs.ids.sublist (List.filter_sublist.map _)
  unwritten f hf := hs.unwritten f (List.mem_of_mem_filter hf)
  named f hf := hs.named f (List.mem_of_mem_filter hf)
  names f hf g hg := hs.names f (List.mem_of_mem_filter hf) g (List.mem_of_mem_filter hg)
  defaults f hf g hg := hs.defaults f (List.mem_of_mem_filter hf) g (List.mem_of_mem_filter hg)

end Store.FiltersInOrder

section Effects

variable {sent : String → Prop} {now : Moment} {s s' s₁ s₂ : Store} {used used' : List String}

theorem FilterEffect.inOrder (h : FilterEffect sent now s used s') (hs : s.FiltersInOrder) :
    s'.FiltersInOrder := by
  induction h with
  | other hfilters hwritten =>
    refine ⟨?_, ?_, ?_, ?_, ?_⟩ <;> rw [hfilters]
    · exact hs.ids
    · rw [hwritten]
      exact hs.unwritten
    · exact hs.named
    · exact hs.names
    · exact hs.defaults
  | used id => exact hs.recordUse now id
  | saved f isDefault hid howner hname hflag hfresh =>
    have hadded := hs.addFilter hid hname hflag hfresh
    unfold Store.saved
    split_ifs
    · exact hadded.makeDefault (List.mem_append_right _ (List.mem_singleton_self f))
    · exact hadded
  | chosen hf => exact hs.makeDefault hf
  | erased => exact hs.eraseFilter _
  | both _ _ ih ih' => exact ih' (ih hs)

/-! ## What becomes of a filter -/

/-- Whether a filter is another one after some uses. Only its flag and what is noted of its uses may
differ. -/
def SavedFilter.After (uses : Nat) (f g : SavedFilter) : Prop :=
  g = { f with
    isDefault := g.isDefault
    usageCount := f.usageCount + uses
    lastUsedAt := g.lastUsedAt }

namespace SavedFilter.After

variable {f g k : SavedFilter} {m n : Nat}

theorem refl (f : SavedFilter) : f.After 0 f := by
  rw [After, Nat.cast_zero, Int.add_zero]

theorem trans (h : f.After m g) (h' : g.After n k) : f.After (m + n) k := by
  rw [After] at *
  rw [h', h, Nat.cast_add, Int.add_assoc]

theorem id_eq (h : f.After n g) : g.id = f.id := by
  rw [show g = _ from h]

theorem userId_eq (h : f.After n g) : g.userId = f.userId := by
  rw [show g = _ from h]

theorem isPublic_eq (h : f.After n g) : g.isPublic = f.isPublic := by
  rw [show g = _ from h]

theorem of_defaulted (f g : SavedFilter) : g.After 0 (defaulted f g) := by
  unfold Store.defaulted After
  split_ifs <;> simp

theorem of_noted (now : Moment) (id : String) (g : SavedFilter) :
    g.After ([id].count g.id) (noted now id g) := by
  unfold Store.noted
  by_cases hid : g.id = id
  · subst hid
    rw [if_pos (beq_self_eq_true _), List.count_singleton_self]
    rfl
  · rw [if_neg (by simpa using hid), List.count_singleton, if_neg (by simpa using Ne.symm hid)]
    exact refl g

end SavedFilter.After

/-- Whether every filter of a store was in another store before, but for the filters that have been
saved since then. -/
structure Store.Descends (uses : String → Nat) (s s' : Store) : Prop where
  written : s.filtersWritten ≤ s'.filtersWritten
  filters : ∀ g ∈ s'.filters, (∃ f ∈ s.filters, f.After (uses f.id) g)
    ∨ ∃ n, s.filtersWritten < n ∧ n ≤ s'.filtersWritten ∧ g.id = filterId n

theorem Store.Descends.of_filters {uses : String → Nat}
    (hwritten : s'.filtersWritten = s.filtersWritten)
    (h : ∀ g ∈ s'.filters, ∃ f ∈ s.filters, f.After (uses f.id) g) : s.Descends uses s' :=
  ⟨hwritten.ge, fun g hg => .inl (h g hg)⟩

theorem Store.Descends.trans {uses uses' : String → Nat} (h : s.Descends uses s₁)
    (h' : s₁.Descends uses' s₂) : s.Descends (fun id => uses id + uses' id) s₂ := by
  refine ⟨h.written.trans h'.written, fun g hg => ?_⟩
  rcases h'.filters g hg with ⟨f₁, hf₁, hafter⟩ | ⟨n, hn, hle, hid⟩
  · rcases h.filters f₁ hf₁ with ⟨f, hf, hbefore⟩ | ⟨n, hn, hle, hid⟩
    · rw [hbefore.id_eq] at hafter
      exact .inl ⟨f, hf, hbefore.trans hafter⟩
    · exact .inr ⟨n, hn, hle.trans h'.written, hafter.id_eq.trans hid⟩
  · exact .inr ⟨n, h.written.trans_lt hn, hle, hid⟩

theorem Store.Descends.makeDefault {uses : String → Nat} (h : s.Descends uses s₁)
    (f : SavedFilter) : s.Descends uses (s₁.makeDefault f) := by
  refine ⟨h.written, fun g hg => ?_⟩
  obtain ⟨k, hk, rfl⟩ := List.mem_map.1 hg
  have hlast := SavedFilter.After.of_defaulted f k
  rcases h.filters k hk with ⟨e, he, hafter⟩ | ⟨n, hn, hle, hid⟩
  · exact .inl ⟨e, he, hafter.trans hlast⟩
  · exact .inr ⟨n, hn, hle, hlast.id_eq.trans hid⟩

/-- A filter that is found after a request was there before, and has been used as often as the
request has used it, or has been saved by the request. -/
theorem FilterEffect.descends (h : FilterEffect sent now s used s') :
    s.Descends (used.count ·) s' := by
  induction h with
  | other hfilters hwritten =>
    refine .of_filters hwritten fun g hg => ⟨g, ?_, .refl g⟩
    rwa [← hfilters]
  | used id =>
    refine .of_filters rfl fun g hg => ?_
    obtain ⟨f, hf, rfl⟩ := List.mem_map.1 hg
    exact ⟨f, hf, .of_noted now id f⟩
  | @saved s f isDefault hid =>
    have hadded : s.Descends (fun id => ([] : List String).count id) (s.addFilter f) := by
      refine ⟨Nat.le_succ _, fun g hg => ?_⟩
      rcases List.mem_append.1 hg with hg | hg
      · exact .inl ⟨g, hg, .refl g⟩
      · rw [List.mem_singleton.1 hg]
        exact .inr ⟨_, Nat.lt_succ_self _, Nat.le_refl _, hid⟩
    unfold Store.saved
    split_ifs
    · exact hadded.makeDefault f
    · exact hadded
  | @chosen s f =>
    have hsame : s.Descends (fun id => ([] : List String).count id) s :=
      .of_filters rfl fun g hg => ⟨g, hg, .refl g⟩
    exact hsame.makeDefault f
  | erased =>
    exact .of_filters rfl fun g hg => ⟨g, List.mem_of_mem_filter hg, .refl g⟩
  | both _ _ ih ih' =>
    have hboth := ih.trans ih'
    simp only [← List.count_append] at hboth
    exact hboth

theorem defaulted_of_other {f g : SavedFilter} (hid : g.id ≠ f.id) (howner : g.userId ≠ f.userId) :
    defaulted f g = g := by
  unfold defaulted
  rw [if_neg (by simpa using hid), if_neg (by simp [howner])]

/-- The filters of those who have not sent the request are still there with their flags. -/
theorem FilterEffect.spares (h : FilterEffect sent now s used s') (hs : s.FiltersInOrder)
    {f : SavedFilter} (hf : f ∈ s.filters) (hother : ¬ sent f.userId) :
    ∃ g ∈ s'.filters, g.isDefault = f.isDefault ∧ f.After (used.count f.id) g := by
  induction h generalizing f with
  | other hfilters => exact ⟨f, by rwa [hfilters], rfl, .refl f⟩
  | used id =>
    exact ⟨noted now id f, List.mem_map_of_mem hf, isDefault_noted .., .of_noted now id f⟩
  | @saved s k isDefault hid howner =>
    have hne : f.id ≠ k.id := by
      rw [hid]
      exact hs.unwritten f hf _ (Nat.lt_succ_self _)
    have hadded : f ∈ (s.addFilter k).filters := List.mem_append_left _ hf
    refine ⟨f, ?_, rfl, .refl f⟩
    unfold Store.saved
    split_ifs
    · exact List.mem_map.2 ⟨f, hadded, defaulted_of_other hne fun h => hother (h ▸ howner)⟩
    · exact hadded
  | @chosen s k hk howner =>
    have hne := hs.id_ne hf hk fun h => hother (h ▸ howner)
    exact ⟨f, List.mem_map.2 ⟨f, hf, defaulted_of_other hne fun h => hother (h ▸ howner)⟩, rfl,
      .refl f⟩
  | @erased s k hk howner =>
    have hne := hs.id_ne hf hk fun h => hother (h ▸ howner)
    exact ⟨f, List.mem_filter.2 ⟨hf, by simpa using hne⟩, rfl, .refl f⟩
  | both h _ ih ih' =>
    obtain ⟨f₁, hf₁, hflag, hbefore⟩ := ih hs hf hother
    obtain ⟨g, hg, hflag', hafter⟩ := ih' (h.inOrder hs) hf₁ (by rwa [hbefore.userId_eq])
    rw [hbefore.id_eq] at hafter
    refine ⟨g, hg, hflag'.trans hflag, ?_⟩
    rw [List.count_append]
    exact hbefore.trans hafter

/-! ## Operations -/

variable {schema : BoardSchema} {userId boardId id : String}

theorem filterName?_ne_empty {v : Json} {name : String} (h : filterName? v = some name) :
    name ≠ "" := by
  simpa using (Option.filter_eq_some_iff.1 h).2

theorem saveFilter_filterEffect {d : FilterDraft} (hsent : sent userId)
    (h : saveFilter now s schema userId d = .ok (s', id)) : FilterEffect sent now s [] s' := by
  rw [saveFilter_eq] at h
  split at h
  · exact absurd h refuse_ne_ok
  · rename_i name hname
    simp only [refuse_bind, ite_refuse_eq_ok, bind_eq_ok, pure_eq_ok, Prod.mk.injEq] at h
    obtain ⟨-, hfresh, tree, -, rfl, -⟩ := h
    refine .saved (d.named now schema userId name s.nextFilterId tree) d.isDefault rfl hsent
      (filterName?_ne_empty hname) rfl fun g hg huser hboard hgname => hfresh ?_
    exact Store.hasNamed_eq_true.2 ⟨g, hg, huser, hboard, hgname⟩

theorem saveQueryFilter_filterEffect {q : TaskQuery} {raw : Json} {tree : Option BuiltFilter}
    {saved : Option String} (hsent : sent userId)
    (h : saveQueryFilter now s schema userId q raw tree = .ok (s', saved)) :
    FilterEffect sent now s [] s' := by
  simp only [saveQueryFilter, refuse_bind] at h
  split_ifs at h
  · obtain ⟨rfl, -⟩ := Prod.mk.inj (pure_eq_ok.1 h)
    exact .other rfl rfl
  · exact absurd h refuse_ne_ok
  · simp only [bind_eq_ok, pure_eq_ok, Prod.mk.injEq] at h
    obtain ⟨⟨s₁, id⟩, hsave, rfl, -⟩ := h
    exact saveFilter_filterEffect hsent hsave

/-- The filter that a query names is the one whose use is noted. -/
theorem used_filterEffect {q : TaskQuery} {raw : Json} {applied : Option SavedFilter}
    (h : queryFilter s boardId userId q = .ok (raw, applied)) :
    FilterEffect sent now s q.savedFilterId.toList (s.used now applied) := by
  unfold queryFilter at h
  split at h
  · rename_i hnamed
    obtain ⟨-, rfl⟩ := Prod.mk.inj (Except.ok.inj h)
    rw [hnamed]
    exact .other rfl rfl
  · rename_i id hnamed
    obtain ⟨f, hf, h⟩ := map_eq_ok.1 h
    obtain ⟨-, rfl⟩ := Prod.mk.inj h
    obtain ⟨-, rfl⟩ := mem_of_filter? (usable_of_usableFilter hf).1
    rw [hnamed]
    exact .used f.id

theorem listTasks_filterEffect {c : Settings} {b : Board} {q : TaskQuery} {l : Listing}
    (hsent : sent userId) (h : listTasks c now s b userId q = .ok (s', l)) :
    FilterEffect sent now s q.savedFilterId.toList s' := by
  simp only [listTasks, bind_eq_ok, pure_eq_ok, Prod.mk.injEq] at h
  obtain ⟨⟨raw, applied⟩, hraw, tree, -, ⟨order, warning⟩, -, pager, -, page, -, ⟨s₂, saved⟩,
    hsave, rfl, -⟩ := h
  have hused : FilterEffect sent now s q.savedFilterId.toList (s.used now applied) :=
    used_filterEffect hraw
  have hboth := hused.both (saveQueryFilter_filterEffect hsent hsave)
  rwa [List.append_nil] at hboth

theorem chooseDefault_filterEffect (hsent : sent userId)
    (h : chooseDefault s id boardId userId = .ok s') : FilterEffect sent now s [] s' := by
  simp only [chooseDefault, refuse_bind, bind_eq_ok, ite_refuse_eq_ok, pure_eq_ok] at h
  obtain ⟨f, hfound, howner, rfl⟩ := h
  obtain ⟨hf, -⟩ := mem_of_filter? (usable_of_usableFilter hfound).1
  have howner : f.userId = userId := by simpa using howner
  exact .chosen hf (howner ▸ hsent)

theorem deleteFilter_filterEffect (hsent : sent userId)
    (h : deleteFilter s id boardId userId = .ok s') : FilterEffect sent now s [] s' := by
  simp only [deleteFilter, refuse_bind, bind_eq_ok, ite_refuse_eq_ok, pure_eq_ok] at h
  obtain ⟨f, hfound, howner, rfl⟩ := h
  obtain ⟨hf, rfl⟩ := mem_of_filter? (usable_of_usableFilter hfound).1
  have howner : f.userId = userId := by simpa using howner
  exact .erased hf (howner ▸ hsent)

end Effects

end BoardQuery
