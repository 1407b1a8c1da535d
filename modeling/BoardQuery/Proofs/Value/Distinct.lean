import BoardQuery.Proofs.Text.Trimmed
import BoardQuery.Value.Rules
import Mathlib.Data.List.Perm.Subperm

/-!
# Lists without repetitions

The lists of texts that canonical values hold: trimmed, without blanks and repetitions. Making such
a list of one that is one already changes nothing (`trimmedDistinct_trimmedDistinct`).
-/

namespace BoardQuery

section Distinct

variable {α : Type} [BEq α] [LawfulBEq α]

theorem mem_distinct_from {x : α} : (items kept : List α) →
    (x ∈ items.foldl (fun kept x => if kept.contains x then kept else kept ++ [x]) kept
      ↔ x ∈ kept ∨ x ∈ items)
  | [], kept => by simp
  | y :: items, kept => by
    rw [List.foldl_cons, mem_distinct_from items, List.mem_cons]
    split_ifs with hy
    · rw [List.contains_iff_mem] at hy
      constructor
      · rintro (h | h)
        · exact .inl h
        · exact .inr (.inr h)
      · rintro (h | rfl | h)
        · exact .inl h
        · exact .inl hy
        · exact .inr h
    · rw [List.mem_append, List.mem_singleton]
      tauto

theorem mem_distinct {x : α} {items : List α} : x ∈ distinct items ↔ x ∈ items := by
  rw [distinct, mem_distinct_from]
  simp

theorem nodup_distinct_from : (items : List α) → {kept : List α} → kept.Nodup →
    (items.foldl (fun kept x => if kept.contains x then kept else kept ++ [x]) kept).Nodup
  | [], _, h => h
  | y :: items, kept, h => by
    rw [List.foldl_cons]
    refine nodup_distinct_from items ?_
    split_ifs with hy
    · exact h
    · rw [List.contains_iff_mem] at hy
      exact List.nodup_append.2 ⟨h, by simp, fun x hx z hz => by
        rintro rfl
        exact hy (List.mem_singleton.1 hz ▸ hx)⟩

theorem nodup_distinct (items : List α) : (distinct items).Nodup :=
  nodup_distinct_from items List.nodup_nil

theorem distinct_from_of_nodup : (items : List α) → {kept : List α} → (kept ++ items).Nodup →
    items.foldl (fun kept x => if kept.contains x then kept else kept ++ [x]) kept = kept ++ items
  | [], kept, _ => (List.append_nil kept).symm
  | y :: items, kept, h => by
    have hy : kept.contains y = false := by
      rw [← Bool.not_eq_true, List.contains_iff_mem]
      intro hmem
      exact (List.nodup_append.1 h).2.2 y hmem y List.mem_cons_self rfl
    have hnext : (kept ++ [y] ++ items).Nodup := by
      rwa [List.append_assoc, List.singleton_append]
    rw [List.foldl_cons, hy, if_neg (by simp), distinct_from_of_nodup items hnext,
      List.append_assoc, List.singleton_append]

theorem distinct_of_nodup {items : List α} (h : items.Nodup) : distinct items = items :=
  distinct_from_of_nodup items h

theorem distinct_from_append : (items : List α) → {kept : List α} → items.Nodup →
    items.foldl (fun kept x => if kept.contains x then kept else kept ++ [x]) kept
      = kept ++ items.filter (!kept.contains ·)
  | [], kept, _ => (List.append_nil kept).symm
  | y :: items, kept, h => by
    rw [List.nodup_cons] at h
    rw [List.foldl_cons, List.filter_cons]
    split_ifs with hy hnot hnot
    · exact absurd hy (by simpa using hnot)
    · exact distinct_from_append items h.2
    · have hlater : items.filter (!(kept ++ [y]).contains ·) = items.filter (!kept.contains ·) :=
        List.filter_congr fun x hx => by
          have hne : x ≠ y := fun heq => h.1 (heq ▸ hx)
          simp [hne]
      rw [distinct_from_append items h.2, hlater, List.append_assoc, List.singleton_append]
    · exact absurd hnot (by simpa using hy)

/-- Of two lists without repetitions, the second adds what the first does not have. -/
theorem distinct_append {items more : List α} (h : items.Nodup) (hmore : more.Nodup) :
    distinct (items ++ more) = items ++ more.filter (!items.contains ·) := by
  have hitems : items.foldl (fun kept x => if kept.contains x then kept else kept ++ [x]) []
      = items := distinct_from_of_nodup items h
  rw [distinct, List.foldl_append, hitems, distinct_from_append more hmore]

theorem distinct_eq_nil {items : List α} : distinct items = [] ↔ items = [] := by
  simp only [List.eq_nil_iff_forall_not_mem, mem_distinct]

theorem length_distinct_le (items : List α) : (distinct items).length ≤ items.length :=
  ((nodup_distinct items).subperm fun _ h => mem_distinct.1 h).length_le

theorem nodup_of_length_distinct {items : List α} (h : (distinct items).length = items.length) :
    items.Nodup :=
  (((nodup_distinct items).subperm fun _ h => mem_distinct.1 h).perm_of_length_le h.ge).nodup_iff.1
    (nodup_distinct items)

omit [LawfulBEq α] in
theorem distinct_concat (items : List α) (x : α) : distinct (items ++ [x])
    = if (distinct items).contains x then distinct items else distinct items ++ [x] := by
  rw [distinct, List.foldl_append]
  rfl

/-- The elements of a list, each once, in the order of their first places. -/
structure FirstSeen (items xs : List α) : Prop where
  nodup : xs.Nodup
  mem_iff : ∀ x, x ∈ xs ↔ x ∈ items
  ordered : xs.Pairwise fun x y => items.idxOf x < items.idxOf y

theorem distinct_ordered (items : List α) :
    (distinct items).Pairwise fun x y => items.idxOf x < items.idxOf y := by
  induction items using List.reverseRecOn with
  | nil => exact List.Pairwise.nil
  | append_singleton items x ih =>
    have hmem {y : α} (hy : y ∈ distinct items) : y ∈ items := mem_distinct.1 hy
    have hkept : (distinct items).Pairwise
        fun y z => (items ++ [x]).idxOf y < (items ++ [x]).idxOf z :=
      ih.imp_of_mem fun hy hz hlt => by
        rwa [List.idxOf_append_of_mem (hmem hy), List.idxOf_append_of_mem (hmem hz)]
    rw [distinct_concat]
    split_ifs with hx
    · exact hkept
    · -- A new element has its first place behind those of all that are kept.
      rw [List.contains_iff_mem, mem_distinct] at hx
      refine List.pairwise_append.2 ⟨hkept, List.pairwise_singleton _ _, fun y hy z hz => ?_⟩
      obtain rfl := List.mem_singleton.1 hz
      rw [List.idxOf_append_of_mem (hmem hy), List.idxOf_append_of_notMem hx]
      have := List.idxOf_lt_length_of_mem (hmem hy)
      omega

theorem firstSeen_distinct (items : List α) : FirstSeen items (distinct items) where
  nodup := nodup_distinct items
  mem_iff _ := mem_distinct
  ordered := distinct_ordered items

theorem FirstSeen.eq_distinct {items xs : List α} (h : FirstSeen items xs) :
    xs = distinct items := by
  have hdistinct := firstSeen_distinct items
  have hperm : xs.Perm (distinct items) := (List.perm_ext_iff_of_nodup h.nodup hdistinct.nodup).2
    fun x => (h.mem_iff x).trans (hdistinct.mem_iff x).symm
  exact hperm.eq_of_pairwise (fun x y _ _ hxy hyx => absurd hyx hxy.asymm) h.ordered
    hdistinct.ordered

end Distinct

open Text

theorem mem_trimmedDistinct {s : String} {items : List String} :
    s ∈ trimmedDistinct items ↔ s ≠ "" ∧ ∃ t ∈ items, trim t = s := by
  rw [trimmedDistinct, mem_distinct, List.mem_filter, List.mem_map, bne_iff_ne]
  exact and_comm

theorem trimmedDistinct_trimmedDistinct (items : List String) :
    trimmedDistinct (trimmedDistinct items) = trimmedDistinct items := by
  have hfacts : ∀ s ∈ trimmedDistinct items, trim s = s ∧ s ≠ "" := by
    intro s hs
    obtain ⟨hne, t, -, rfl⟩ := mem_trimmedDistinct.1 hs
    exact ⟨trim_trim t, hne⟩
  have hmap : (trimmedDistinct items).map trim = trimmedDistinct items :=
    (List.map_congr_left fun s hs => (hfacts s hs).1).trans (List.map_id _)
  have hfilter : (trimmedDistinct items).filter (· != "") = trimmedDistinct items :=
    List.filter_eq_self.2 fun s hs => bne_iff_ne.2 (hfacts s hs).2
  conv_lhs => rw [trimmedDistinct, hmap, hfilter]
  exact distinct_of_nodup (nodup_distinct _)

theorem strings?_ofStrings (ss : List String) : (Json.ofStrings ss).strings? = some ss := by
  rw [Json.ofStrings, Json.strings?]
  induction ss with
  | nil => rfl
  | cons s ss ih => rw [List.map_cons, List.mapM_cons, ih, Json.str?]; rfl

theorem ofStrings_injective : Function.Injective Json.ofStrings := fun ss ts h => by
  have hread := congrArg Json.strings? h
  rw [strings?_ofStrings, strings?_ofStrings] at hread
  exact Option.some.inj hread

theorem listed?_ofStrings (ss : List String) : listed? (.ofStrings ss) = some ss :=
  strings?_ofStrings ss

end BoardQuery
