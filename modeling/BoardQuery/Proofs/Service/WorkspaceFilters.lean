import BoardQuery.Proofs.Api.Requests
import BoardQuery.Proofs.Service.WorkspaceChanges

/-!
# Saved filters within a workspace

Two stores may agree on a workspace although the filters that have been saved since then were given
other ids in the one than in the other (`Store.Agree`). A write of filters keeps them in agreement,
if each is asked for the filter under its own id (`Agree.addFilter`, `Agree.map`,
`Agree.eraseFilter`).
-/

namespace BoardQuery

/-! ## Counterparts of ids -/

/-- The id that stands for an id in the other of two runs, by the ids that the runs have given. -/
def counterpart (ids : List (String × String)) (id : String) : String :=
  ((ids.find? (·.1 == id)).map (·.2)).getD id

/-- A saved filter as the other of two runs has it. -/
def SavedFilter.counterpart (ids : List (String × String)) (f : SavedFilter) : SavedFilter :=
  { f with id := BoardQuery.counterpart ids f.id }

/-- Whether an id is not one that only the other run has given. -/
def Known (ids : List (String × String)) (id : String) : Prop :=
  id ∈ ids.map (·.1) ∨ id ∉ ids.map (·.2)

/-- Whether every id has one counterpart. -/
structure Paired (ids : List (String × String)) : Prop where
  left : (ids.map (·.1)).Nodup
  right : (ids.map (·.2)).Nodup

theorem filterId_inj {m n : Nat} : filterId m = filterId n ↔ m = n := by
  rw [filterId, filterId, String.append_right_inj]
  refine ⟨fun h => ?_, congrArg _⟩
  have hdigits : Nat.toDigits 10 m = Nat.toDigits 10 n := String.ofList_injective h
  rw [← @Nat.ofDigitChars_ten_toDigits m, hdigits, Nat.ofDigitChars_ten_toDigits]

section Counterparts

variable {ids : List (String × String)} {x y : String}

theorem counterpart_cases (ids : List (String × String)) (x : String) :
    (x, counterpart ids x) ∈ ids ∨ counterpart ids x = x := by
  rcases hfind : ids.find? (·.1 == x) with _ | p <;> rw [counterpart, hfind]
  · exact .inr rfl
  · obtain rfl : p.1 = x := by simpa using List.find?_some hfind
    exact .inl (List.mem_of_find?_eq_some hfind)

theorem counterpart_of_not_mem (h : x ∉ ids.map (·.1)) : counterpart ids x = x := by
  have hnone : ids.find? (·.1 == x) = none := by
    rw [List.find?_eq_none]
    intro p hp hx
    exact h (List.mem_map.2 ⟨p, hp, beq_iff_eq.1 hx⟩)
  rw [counterpart, hnone]
  rfl

theorem counterpart_of_mem (h : Paired ids) {p : String × String} (hp : p ∈ ids) :
    counterpart ids p.1 = p.2 := by
  have hfind : ids.find? (·.1 == p.1) = some p := Store.find?_key Prod.fst h.left hp
  rw [counterpart, hfind]
  rfl

theorem Paired.counterpart_last {p : String × String} (h : Paired (ids ++ [p])) :
    counterpart (ids ++ [p]) p.1 = p.2 :=
  counterpart_of_mem h (List.mem_append_right _ (List.mem_singleton_self p))

theorem Paired.counterpart_inj (h : Paired ids) (hx : Known ids x) (hy : Known ids y) :
    counterpart ids x = counterpart ids y ↔ x = y := by
  refine ⟨fun heq => ?_, congrArg _⟩
  -- An id that has been given has its counterpart among the others that have been given.
  have hgiven {x : String} (hx : x ∈ ids.map (·.1)) :
      ∃ p ∈ ids, p.1 = x ∧ counterpart ids x = p.2 := by
    obtain ⟨p, hp, rfl⟩ := List.mem_map.1 hx
    exact ⟨p, hp, rfl, counterpart_of_mem h hp⟩
  by_cases hx' : x ∈ ids.map (·.1)
  · obtain ⟨p, hp, rfl, hpx⟩ := hgiven hx'
    by_cases hy' : y ∈ ids.map (·.1)
    · obtain ⟨q, hq, rfl, hqy⟩ := hgiven hy'
      rw [List.inj_on_of_nodup_map h.right hp hq (hpx.symm.trans (heq.trans hqy))]
    · have hfree := hy.resolve_left hy'
      rw [hpx, counterpart_of_not_mem hy'] at heq
      exact absurd (List.mem_map.2 ⟨p, hp, heq⟩) hfree
  · have hfree := hx.resolve_left hx'
    rw [counterpart_of_not_mem hx'] at heq
    by_cases hy' : y ∈ ids.map (·.1)
    · obtain ⟨q, hq, rfl, hqy⟩ := hgiven hy'
      exact absurd (List.mem_map.2 ⟨q, hq, (heq.trans hqy).symm⟩) hfree
    · rw [heq, counterpart_of_not_mem hy']

theorem counterpart_beq (h : Paired ids) (hx : Known ids x) (hy : Known ids y) :
    (counterpart ids x == counterpart ids y) = (x == y) := by
  rw [Bool.eq_iff_iff, beq_iff_eq, beq_iff_eq, h.counterpart_inj hx hy]

theorem Paired.filter_counterpart_last {f : SavedFilter} {id : String}
    (h : Paired (ids ++ [(f.id, id)])) : f.counterpart (ids ++ [(f.id, id)]) = { f with id } :=
  congrArg (fun id => { f with id }) h.counterpart_last

theorem counterpart_append_of_ne {p : String × String} (hx : x ≠ p.1) :
    counterpart (ids ++ [p]) x = counterpart ids x := by
  have hlast : [p].find? (·.1 == x) = none := by
    rw [List.find?_singleton, if_neg (by simpa using hx.symm)]
  rw [counterpart, counterpart, List.find?_append, hlast, Option.or_none]

end Counterparts

/-! ## Agreement -/

/-- Whether two stores agree on the users and on everything that belongs to a workspace, up to ids
that have been given to its filters. -/
structure Store.Agree (workspace : String) (ids : List (String × String)) (s₁ s₂ : Store) :
    Prop where
  within : s₁.within workspace = s₂.within workspace
  filters : s₂.filtersWithin workspace
    = (s₁.filtersWithin workspace).map (SavedFilter.counterpart ids)
  paired : Paired ids
  given : ∀ p ∈ ids, (∃ m ≤ s₁.filtersWritten, p.1 = filterId m)
    ∧ ∃ n ≤ s₂.filtersWritten, p.2 = filterId n
  known : ∀ f ∈ s₁.filtersWithin workspace, Known ids f.id

/-- Whether an id is that of a saved filter of a workspace. -/
def Store.HasFilter (s : Store) (workspace id : String) : Prop :=
  ∃ f ∈ s.filtersWithin workspace, f.id = id

/-- Whether everything that belongs to other workspaces is in a store as it was before. -/
structure Store.Confined (workspace : String) (s s' : Store) : Prop where
  within : ∀ V ≠ workspace, s'.within V = s.within V
  filters : ∀ V ≠ workspace, s'.filtersWithin V = s.filtersWithin V

namespace Store

variable {s s' s₁ s₂ : Store} {W V : String} {ids : List (String × String)}

theorem Changes.confined (h : s.Changes W s') : s.Confined W s' :=
  ⟨h.outside, fun V _ => h.filtersWithin_eq V⟩

namespace Confined

theorem refl (W : String) (s : Store) : s.Confined W s := ⟨fun _ _ => rfl, fun _ _ => rfl⟩

theorem trans (h : s.Confined W s₁) (h' : s₁.Confined W s₂) : s.Confined W s₂ :=
  ⟨fun V hV => (h'.within V hV).trans (h.within V hV),
    fun V hV => (h'.filters V hV).trans (h.filters V hV)⟩

end Confined

namespace Agree

/-- Stores in which the same belongs to a workspace agree on it before they have given any id. -/
theorem of_same (hwithin : s₁.within W = s₂.within W)
    (hfilters : s₁.filtersWithin W = s₂.filtersWithin W) : Agree W [] s₁ s₂ where
  within := hwithin
  filters := hfilters.symm.trans (List.map_id _).symm
  paired := ⟨List.nodup_nil, List.nodup_nil⟩
  given _ h := absurd h List.not_mem_nil
  known _ _ := .inr List.not_mem_nil

theorem hasBoard_eq (h : Agree W ids s₁ s₂) : s₂.hasBoard W = s₁.hasBoard W := by
  rw [← hasBoard_within, ← h.within, hasBoard_within]

theorem hasBoard (h : Agree W ids s₁ s₂) {id : String} (hid : s₁.hasBoard W id = true) :
    s₂.hasBoard W id = true := by
  rw [h.hasBoard_eq, hid]

theorem hasTask_eq (h : Agree W ids s₁ s₂) : s₂.hasTask W = s₁.hasTask W := by
  rw [← hasTask_within, ← h.within, hasTask_within]

theorem users_eq (h : Agree W ids s₁ s₂) : s₂.users = s₁.users :=
  (congrArg Store.users h.within).symm

theorem surroundings_eq (h : Agree W ids s₁ s₂) (now : Moment) :
    s₂.surroundings now = s₁.surroundings now :=
  (congrArg (Store.surroundings · now) h.within).symm

theorem schema_eq (h : Agree W ids s₁ s₂) {b : Board} (hb : s₁.hasBoard W b.id = true) :
    s₂.schema b = s₁.schema b := by
  rw [← schema_within hb, ← schema_within (h.hasBoard hb), h.within]

end Agree

/-! ## Writes of filters -/

/-- Whether a change of filters leaves them their ids and their boards. -/
structure KeepsPlace (change : SavedFilter → SavedFilter) : Prop where
  id : ∀ f, (change f).id = f.id
  boardId : ∀ f, (change f).boardId = f.boardId

/-- What becomes of a filter when another one is made the default. -/
def defaulted (f g : SavedFilter) : SavedFilter :=
  if g.id == f.id then { g with isDefault := true }
  else if g.userId == f.userId && g.boardId == f.boardId then { g with isDefault := false }
  else g

/-- What becomes of a filter when the use of one is noted. -/
def noted (now : Moment) (id : String) (g : SavedFilter) : SavedFilter :=
  if g.id == id then { g with usageCount := g.usageCount + 1, lastUsedAt := some now } else g

theorem makeDefault_eq (s : Store) (f : SavedFilter) :
    s.makeDefault f = { s with filters := s.filters.map (defaulted f) } :=
  rfl

theorem recordUse_eq (now : Moment) (s : Store) (id : String) :
    recordUse now s id = { s with filters := s.filters.map (noted now id) } :=
  rfl

theorem keepsPlace_defaulted (f : SavedFilter) : KeepsPlace (defaulted f) := by
  constructor <;>
  · intro g
    unfold defaulted
    split_ifs <;> rfl

theorem keepsPlace_noted (now : Moment) (id : String) : KeepsPlace (noted now id) := by
  constructor <;>
  · intro g
    unfold noted
    split_ifs <;> rfl

section Writes

variable {f g : SavedFilter} {change : SavedFilter → SavedFilter}

theorem mem_filtersWithin : f ∈ s.filtersWithin V ↔ f ∈ s.filters ∧ s.hasBoard V f.boardId = true :=
  List.mem_filter

theorem mem_filtersWithin_addFilter (h : s.hasBoard W f.boardId = true) :
    f ∈ (s.addFilter f).filtersWithin W :=
  mem_filtersWithin.2 ⟨List.mem_append_right _ (List.mem_singleton_self f), h⟩

theorem filtersWithin_addFilter (s : Store) (f : SavedFilter) (V : String) :
    (s.addFilter f).filtersWithin V
      = s.filtersWithin V ++ [f].filter fun f => s.hasBoard V f.boardId :=
  List.filter_append ..

theorem filtersWithin_map (hplace : KeepsPlace change) (V : String) :
    ({ s with filters := s.filters.map change } : Store).filtersWithin V
      = (s.filtersWithin V).map change := by
  have hhas : ({ s with filters := s.filters.map change } : Store).hasBoard V = s.hasBoard V := rfl
  rw [filtersWithin, hhas, List.filter_map]
  refine congrArg (List.map change) (List.filter_congr fun f _ => ?_)
  rw [Function.comp_apply, hplace.boardId]

theorem filtersWithin_eraseFilter (s : Store) (id V : String) :
    (s.eraseFilter id).filtersWithin V = (s.filtersWithin V).filter (·.id != id) := by
  have hhas : (s.eraseFilter id).hasBoard V = s.hasBoard V := rfl
  rw [filtersWithin, hhas, eraseFilter, filtersWithin, List.filter_filter, List.filter_filter]
  exact List.filter_congr fun f _ => Bool.and_comm ..

theorem HasFilter.map {id : String} (h : s.HasFilter W id) (hplace : KeepsPlace change) :
    ({ s with filters := s.filters.map change } : Store).HasFilter W id := by
  obtain ⟨f, hf, rfl⟩ := h
  refine ⟨change f, ?_, hplace.id f⟩
  rw [filtersWithin_map hplace]
  exact List.mem_map_of_mem hf

theorem HasFilter.makeDefault {id : String} (h : s.HasFilter W id) (f : SavedFilter) :
    (s.makeDefault f).HasFilter W id :=
  h.map (keepsPlace_defaulted f)

theorem HasFilter.recordUse {id : String} (h : s.HasFilter W id) (now : Moment) (used : String) :
    (recordUse now s used).HasFilter W id :=
  h.map (keepsPlace_noted now used)

theorem HasFilter.addFilter {id : String} (h : s.HasFilter W id) (f : SavedFilter) :
    (s.addFilter f).HasFilter W id := by
  obtain ⟨g, hg, rfl⟩ := h
  refine ⟨g, ?_, rfl⟩
  rw [filtersWithin_addFilter]
  exact List.mem_append_left _ hg

theorem hasFilter_addFilter (h : s.hasBoard W f.boardId = true) :
    (s.addFilter f).HasFilter W f.id :=
  ⟨f, mem_filtersWithin_addFilter h, rfl⟩

namespace Separated

variable (hs : s.Separated)

include hs

theorem of_filters {fs : List SavedFilter} {n : Nat} (hids : (fs.map (·.id)).Nodup)
    (hunwritten : ∀ f ∈ fs, ∀ m, n < m → f.id ≠ filterId m) :
    ({ s with filters := fs, filtersWritten := n } : Store).Separated :=
  { hs with filterIds := hids, unwritten := hunwritten }

theorem filter?_eq (hf : f ∈ s.filters) : s.filter? f.id = some f :=
  find?_key SavedFilter.id hs.filterIds hf

theorem next_ne (hf : f ∈ s.filters) : f.id ≠ s.nextFilterId :=
  hs.unwritten f hf _ (Nat.lt_succ_self _)

/-- Filters of other workspaces have other ids and other boards. -/
theorem filter_other (hf : f ∈ s.filtersWithin W) (hV : V ≠ W) (hg : g ∈ s.filtersWithin V) :
    g.id ≠ f.id ∧ g.boardId ≠ f.boardId := by
  obtain ⟨hf, hboard⟩ := mem_filtersWithin.1 hf
  obtain ⟨hg, hother⟩ := mem_filtersWithin.1 hg
  have hboards : g.boardId ≠ f.boardId := by
    intro heq
    rw [heq, hs.hasBoard_other hboard hV] at hother
    exact absurd hother (by simp)
  exact ⟨fun hid => hboards (by rw [List.inj_on_of_nodup_map hs.filterIds hg hf hid]), hboards⟩

theorem addFilter_keeps (hboard : s.hasBoard W f.boardId = true) (hid : f.id = s.nextFilterId) :
    (s.addFilter f).Separated ∧ s.Confined W (s.addFilter f) := by
  refine ⟨hs.of_filters ?_ ?_, fun _ _ => rfl, fun V hV => ?_⟩
  · rw [List.map_append, List.nodup_append]
    refine ⟨hs.filterIds, List.nodup_singleton _, fun x hx y hy => ?_⟩
    obtain ⟨g, hg, rfl⟩ := List.mem_map.1 hx
    have hy : y = f.id := List.mem_singleton.1 hy
    rw [hy, hid]
    exact hs.next_ne hg
  · intro g hg m hm
    rcases List.mem_append.1 hg with hg | hg
    · exact hs.unwritten g hg m (Nat.lt_of_succ_lt hm)
    · rw [List.mem_singleton.1 hg, hid]
      exact fun heq => absurd (filterId_inj.1 heq) (Nat.ne_of_lt hm)
  · rw [filtersWithin_addFilter, List.filter_cons, hs.hasBoard_other hboard hV]
    exact List.append_nil _

theorem map_keeps (hplace : KeepsPlace change)
    (hfix : ∀ V ≠ W, ∀ g ∈ s.filtersWithin V, change g = g) :
    ({ s with filters := s.filters.map change } : Store).Separated
      ∧ s.Confined W { s with filters := s.filters.map change } := by
  refine ⟨hs.of_filters ?_ ?_, fun _ _ => rfl, fun V hV => ?_⟩
  · have hids : (s.filters.map change).map (·.id) = s.filters.map (·.id) := by
      rw [List.map_map]
      exact List.map_congr_left fun f _ => hplace.id f
    rw [hids]
    exact hs.filterIds
  · intro g hg m hm
    obtain ⟨f, hf, rfl⟩ := List.mem_map.1 hg
    rw [hplace.id]
    exact hs.unwritten f hf m hm
  · rw [filtersWithin_map hplace, List.map_congr_left (hfix V hV), List.map_id']

theorem makeDefault_keeps (hf : f ∈ s.filtersWithin W) :
    (s.makeDefault f).Separated ∧ s.Confined W (s.makeDefault f) := by
  rw [makeDefault_eq]
  refine hs.map_keeps (keepsPlace_defaulted f) fun V hV g hg => ?_
  obtain ⟨hid, hboard⟩ := hs.filter_other hf hV hg
  rw [defaulted, if_neg (by simpa using hid), if_neg (by simp [hboard])]

theorem recordUse_keeps (now : Moment) (hf : f ∈ s.filtersWithin W) :
    (recordUse now s f.id).Separated ∧ s.Confined W (recordUse now s f.id) := by
  rw [recordUse_eq]
  refine hs.map_keeps (keepsPlace_noted now f.id) fun V hV g hg => ?_
  rw [noted, if_neg (by simpa using (hs.filter_other hf hV hg).1)]

theorem eraseFilter_keeps (hf : f ∈ s.filtersWithin W) :
    (s.eraseFilter f.id).Separated ∧ s.Confined W (s.eraseFilter f.id) := by
  refine ⟨hs.of_filters (hs.filterIds.sublist (List.filter_sublist.map _)) fun g hg =>
    hs.unwritten g (List.mem_of_mem_filter hg), fun _ _ => rfl, fun V hV => ?_⟩
  rw [filtersWithin_eraseFilter, List.filter_eq_self]
  intro g hg
  simpa using (hs.filter_other hf hV hg).1

end Separated

namespace Agree

theorem beq_eq (h : Agree W ids s₁ s₂) (hf : f ∈ s₁.filtersWithin W) {id : String}
    (hid : Known ids id) : (counterpart ids f.id == counterpart ids id) = (f.id == id) :=
  counterpart_beq h.paired (h.known f hf) hid

theorem id_beq (h : Agree W ids s₁ s₂) (hg : g ∈ s₁.filtersWithin W)
    (hf : f ∈ s₁.filtersWithin W) :
    ((g.counterpart ids).id == (f.counterpart ids).id) = (g.id == f.id) :=
  h.beq_eq hg (h.known f hf)

theorem counterpart_mem (h : Agree W ids s₁ s₂) (hf : f ∈ s₁.filtersWithin W) :
    f.counterpart ids ∈ s₂.filtersWithin W := by
  rw [h.filters]
  exact List.mem_map_of_mem hf

/-- The ids that two runs give next are a pair of their own. -/
theorem paired_next (h : Agree W ids s₁ s₂) :
    Paired (ids ++ [(s₁.nextFilterId, s₂.nextFilterId)]) := by
  constructor
  · rw [List.map_append, List.nodup_append]
    refine ⟨h.paired.left, List.nodup_singleton _, fun x hx y hy => ?_⟩
    obtain ⟨p, hp, rfl⟩ := List.mem_map.1 hx
    obtain ⟨⟨m, hm, heq⟩, -⟩ := h.given p hp
    rw [List.mem_singleton.1 hy, heq]
    exact fun h => absurd (filterId_inj.1 h) (Nat.ne_of_lt (Nat.lt_succ_of_le hm))
  · rw [List.map_append, List.nodup_append]
    refine ⟨h.paired.right, List.nodup_singleton _, fun x hx y hy => ?_⟩
    obtain ⟨p, hp, rfl⟩ := List.mem_map.1 hx
    obtain ⟨-, n, hn, heq⟩ := h.given p hp
    rw [List.mem_singleton.1 hy, heq]
    exact fun h => absurd (filterId_inj.1 h) (Nat.ne_of_lt (Nat.lt_succ_of_le hn))

theorem addFilter (h : Agree W ids s₁ s₂) (h₁ : s₁.Separated) (h₂ : s₂.Separated)
    (hboard : s₁.hasBoard W f.boardId = true) (hid : f.id = s₁.nextFilterId) :
    Agree W (ids ++ [(s₁.nextFilterId, s₂.nextFilterId)]) (s₁.addFilter f)
      (s₂.addFilter { f with id := s₂.nextFilterId }) := by
  have hold : ∀ g ∈ s₁.filtersWithin W,
      g.counterpart (ids ++ [(s₁.nextFilterId, s₂.nextFilterId)]) = g.counterpart ids := by
    intro g hg
    rw [SavedFilter.counterpart, counterpart_append_of_ne]
    · rfl
    · exact h₁.next_ne (mem_filtersWithin.1 hg).1
  have hnew : f.counterpart (ids ++ [(s₁.nextFilterId, s₂.nextFilterId)])
      = { f with id := s₂.nextFilterId } := by
    rw [← hid]
    exact (hid ▸ h.paired_next).filter_counterpart_last
  refine ⟨h.within, ?_, h.paired_next, fun p hp => ?_, fun g hg => ?_⟩
  · rw [filtersWithin_addFilter, filtersWithin_addFilter, h.hasBoard_eq, List.filter_cons,
      List.filter_cons, hboard, h.filters, List.map_append, List.map_congr_left hold]
    simp only [if_true, List.filter_nil, List.map_cons, hnew, List.map_nil]
  · rcases List.mem_append.1 hp with hp | hp
    · obtain ⟨⟨m, hm, hleft⟩, n, hn, hright⟩ := h.given p hp
      exact ⟨⟨m, Nat.le_succ_of_le hm, hleft⟩, n, Nat.le_succ_of_le hn, hright⟩
    · rw [List.mem_singleton.1 hp]
      exact ⟨⟨_, Nat.le_refl _, rfl⟩, _, Nat.le_refl _, rfl⟩
  · rw [filtersWithin_addFilter, List.mem_append] at hg
    unfold Known
    rw [List.map_append, List.map_append, List.mem_append, List.mem_append]
    rcases hg with hg | hg
    · by_cases hgiven : g.id ∈ ids.map (·.1)
      · exact .inl (.inl hgiven)
      · -- The filter has the same id in the other store, where that id is not the next one.
        have hsame : (g.counterpart ids).id = g.id := counterpart_of_not_mem hgiven
        have hnext := h₂.next_ne (mem_filtersWithin.1 (h.counterpart_mem hg)).1
        rw [hsame] at hnext
        refine .inr (not_or.2 ⟨(h.known g hg).resolve_left hgiven, ?_⟩)
        simpa using hnext
    · obtain rfl := List.mem_singleton.1 (List.mem_of_mem_filter hg)
      exact .inl (.inr (by simp [hid]))

theorem map {change' : SavedFilter → SavedFilter} (h : Agree W ids s₁ s₂)
    (hplace : KeepsPlace change) (hplace' : KeepsPlace change')
    (hchange : ∀ g ∈ s₁.filtersWithin W,
      change' (g.counterpart ids) = (change g).counterpart ids) :
    Agree W ids { s₁ with filters := s₁.filters.map change }
      { s₂ with filters := s₂.filters.map change' } := by
  refine ⟨h.within, ?_, h.paired, h.given, fun g hg => ?_⟩
  · rw [filtersWithin_map hplace, filtersWithin_map hplace', h.filters, List.map_map, List.map_map]
    exact List.map_congr_left hchange
  · rw [filtersWithin_map hplace] at hg
    obtain ⟨f, hf, rfl⟩ := List.mem_map.1 hg
    rw [hplace.id]
    exact h.known f hf

theorem makeDefault (h : Agree W ids s₁ s₂) (hf : f ∈ s₁.filtersWithin W) :
    Agree W ids (s₁.makeDefault f) (s₂.makeDefault (f.counterpart ids)) := by
  rw [makeDefault_eq, makeDefault_eq]
  refine h.map (keepsPlace_defaulted f) (keepsPlace_defaulted (f.counterpart ids)) fun g hg => ?_
  have howner : ((g.counterpart ids).userId == (f.counterpart ids).userId
      && (g.counterpart ids).boardId == (f.counterpart ids).boardId)
        = (g.userId == f.userId && g.boardId == f.boardId) := rfl
  rw [defaulted, defaulted, h.id_beq hg hf, howner]
  split_ifs <;> rfl

theorem recordUse (h : Agree W ids s₁ s₂) (now : Moment) (hf : f ∈ s₁.filtersWithin W) :
    Agree W ids (recordUse now s₁ f.id) (recordUse now s₂ (f.counterpart ids).id) := by
  rw [recordUse_eq, recordUse_eq]
  refine h.map (keepsPlace_noted now f.id) (keepsPlace_noted now _) fun g hg => ?_
  rw [noted, noted, h.id_beq hg hf]
  split_ifs <;> rfl

theorem eraseFilter (h : Agree W ids s₁ s₂) (hf : f ∈ s₁.filtersWithin W) :
    Agree W ids (s₁.eraseFilter f.id) (s₂.eraseFilter (f.counterpart ids).id) := by
  refine ⟨h.within, ?_, h.paired, h.given, fun g hg => ?_⟩
  · rw [filtersWithin_eraseFilter, filtersWithin_eraseFilter, h.filters, List.filter_map]
    refine congrArg (List.map _) (List.filter_congr fun g hg => ?_)
    rw [Function.comp_apply, bne, h.id_beq hg hf, bne]
  · rw [filtersWithin_eraseFilter] at hg
    exact h.known g (List.mem_of_mem_filter hg)

end Agree

end Writes

end Store

end BoardQuery
