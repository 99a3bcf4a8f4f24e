import Assessment.Random.Twister

/-!
# Shuffling

The exchange shuffle: from the last position down to the second, each element changes places with
one at or before its own position. The order depends on the seed and on the length alone.
-/

namespace Assessment.Random

/-- Exchanges position `i` with a drawn one at or before it, for `i` from `n` down to 1. -/
def exchange {α : Type} : Nat → Twister → Array α → Array α
  | 0, _, xs => xs
  | n + 1, g, xs =>
    let (j, g) := g.below (n + 2)
    exchange n g (xs.swapIfInBounds (n + 1) j)

/-- A list in the order that a seed fixes. -/
def shuffle {α : Type} (seed : String) (xs : List α) : List α :=
  (exchange (xs.length - 1) (Twister.ofText seed) xs.toArray).toList

end Assessment.Random
