import Assessment.Random.Shuffle
import Mathlib.Tactic

/-!
# What shuffling looks at

The exchanges of a shuffle are drawn from the seed and the number of items; the items themselves are only
moved. So every item is there afterwards, as often as it was.
-/

namespace Assessment.Random

variable {α β : Type}

lemma map_swapIfInBounds (f : α → β) (xs : Array α) (i j : Nat) :
    (xs.map f).swapIfInBounds i j = (xs.swapIfInBounds i j).map f := by
  refine Array.ext (by simp) fun k hk _ => ?_
  simp only [Array.getElem_swapIfInBounds, Array.getElem_map, Array.size_map]
  split_ifs <;> rfl

lemma exchange_map (f : α → β) (n : Nat) (g : Twister) (xs : Array α) :
    exchange n g (xs.map f) = (exchange n g xs).map f := by
  induction n generalizing g xs with
  | zero => rfl
  | succ n ih =>
    simp only [exchange]
    rw [map_swapIfInBounds, ih]

lemma shuffle_map (f : α → β) (seed : String) (xs : List α) :
    shuffle seed (xs.map f) = (shuffle seed xs).map f := by
  have harray : (xs.map f).toArray = xs.toArray.map f := by simp
  rw [shuffle, shuffle, harray, exchange_map, List.length_map, Array.toList_map]

lemma swapIfInBounds_perm (xs : Array α) (i j : Nat) : (xs.swapIfInBounds i j).Perm xs := by
  rw [Array.swapIfInBounds_def]
  split_ifs with hi hj
  · exact Array.swap_perm hi hj
  · exact .refl _
  · exact .refl _

lemma exchange_perm (n : Nat) (g : Twister) (xs : Array α) : (exchange n g xs).Perm xs := by
  induction n generalizing g xs with
  | zero => exact .refl _
  | succ n ih => exact (ih _ _).trans (swapIfInBounds_perm xs _ _)

/-- Whatever the seed, a shuffle is a permutation. -/
lemma shuffle_perm (seed : String) (xs : List α) : (shuffle seed xs).Perm xs :=
  (exchange_perm _ _ xs.toArray).toList

end Assessment.Random
