/-!
# Similar words

How much two words have in common, to find the one that a misspelled word was meant to be. The
longest block that stands in both is counted, then what stands before it and after it in the same
way.
-/

namespace BoardQuery.Text

/-- The length of what two words begin with alike. -/
def sharedStart : List Char → List Char → Nat
  | a :: as, b :: bs => if a == b then sharedStart as bs + 1 else 0
  | _, _ => 0

/-- A stretch of equal characters, by its places in two words. -/
structure Block where
  left : Nat
  right : Nat
  length : Nat

/-- The longest block of two words; of several, the first in the first word. -/
def longestBlock (a b : List Char) : Block :=
  (List.range a.length).foldl (fun best i =>
    (List.range b.length).foldl (fun best j =>
      let n := sharedStart (a.drop i) (b.drop j)
      if best.length < n then ⟨i, j, n⟩ else best) best) ⟨0, 0, 0⟩

/-- The number of characters that two words have in common. -/
def commonCount (a b : List Char) : Nat :=
  match longestBlock a b with
  | ⟨i, j, n⟩ =>
    if _ : 0 < n ∧ i < a.length then
      commonCount (a.take i) (b.take j) + n + commonCount (a.drop (i + n)) (b.drop (j + n))
    else 0
termination_by a.length
decreasing_by all_goals simp only [List.length_take, List.length_drop]; omega

/-- Whether at least three fifths of the characters of two words are common to them. -/
def similar (a b : String) : Bool :=
  3 * (a.length + b.length) ≤ 10 * commonCount a.toList b.toList

end BoardQuery.Text
