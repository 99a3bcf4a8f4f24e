import Assessment.Sorting
import Mathlib.Data.List.Perm.Basic

/-!
# What sorting keeps

Sorting changes the order of a list and nothing else, and leaves alone what is in order. It looks at nothing
but which item may precede which; where that ranks all items, the list ends in order, and a part of it is
sorted as it is within the whole.
-/

namespace Assessment

variable {α : Type} {precedes : α → α → Bool}

lemma insertBy_perm (a : α) (xs : List α) : (insertBy precedes a xs).Perm (a :: xs) := by
  induction xs with
  | nil => exact .refl _
  | cons b xs ih =>
    rw [insertBy]
    by_cases h : precedes a b = true
    · rw [if_pos h]
    · rw [if_neg h]
      exact (ih.cons b).trans (.swap a b xs)

lemma sortBy_perm (xs : List α) : (sortBy precedes xs).Perm xs := by
  induction xs with
  | nil => exact .refl _
  | cons a xs ih => exact (insertBy_perm a _).trans (ih.cons a)

lemma mem_sortBy {a : α} {xs : List α} : a ∈ sortBy precedes xs ↔ a ∈ xs := (sortBy_perm xs).mem_iff

lemma insertBy_of_first {a : α} {xs : List α} (h : ∀ b ∈ xs, precedes a b = true) :
    insertBy precedes a xs = a :: xs := by
  cases xs with
  | nil => rfl
  | cons b xs => exact if_pos (h b (List.mem_cons_self ..))

lemma sortBy_of_pairwise {xs : List α} (h : xs.Pairwise fun a b => precedes a b = true) :
    sortBy precedes xs = xs := by
  induction xs with
  | nil => rfl
  | cons a xs ih =>
    obtain ⟨ha, hxs⟩ := List.pairwise_cons.mp h
    rw [sortBy, ih hxs]
    exact insertBy_of_first ha

/-- Any two items may stand in one order or the other, and what comes before comes before what follows. -/
structure Ranks (precedes : α → α → Bool) : Prop where
  total : ∀ a b, precedes a b = true ∨ precedes b a = true
  trans : ∀ a b c, precedes a b = true → precedes b c = true → precedes a c = true

section Ranks

variable (hr : Ranks precedes)
include hr

lemma pairwise_insertBy {a : α} {xs : List α} (hxs : xs.Pairwise fun a b => precedes a b = true) :
    (insertBy precedes a xs).Pairwise fun a b => precedes a b = true := by
  induction xs with
  | nil => exact List.pairwise_singleton _ _
  | cons b xs ih =>
    obtain ⟨hb, hxs'⟩ := List.pairwise_cons.mp hxs
    rw [insertBy]
    by_cases h : precedes a b = true
    · rw [if_pos h]
      refine List.pairwise_cons.mpr ⟨?_, hxs⟩
      rintro c (_ | ⟨_, hc⟩)
      · exact h
      · exact hr.trans a b c h (hb c hc)
    · rw [if_neg h]
      refine List.pairwise_cons.mpr ⟨fun c hc => ?_, ih hxs'⟩
      rcases List.mem_cons.mp ((insertBy_perm a xs).mem_iff.mp hc) with rfl | hc
      · exact (hr.total c b).resolve_left h
      · exact hb c hc

lemma pairwise_sortBy (xs : List α) :
    (sortBy precedes xs).Pairwise fun a b => precedes a b = true := by
  induction xs with
  | nil => exact .nil
  | cons a xs ih => exact pairwise_insertBy hr ih

lemma filter_insertBy (p : α → Bool) {a : α} {xs : List α}
    (hxs : xs.Pairwise fun a b => precedes a b = true) :
    (insertBy precedes a xs).filter p =
      if p a then insertBy precedes a (xs.filter p) else xs.filter p := by
  induction xs with
  | nil => rw [insertBy, List.filter_cons]; rfl
  | cons b xs ih =>
    obtain ⟨hb, hxs'⟩ := List.pairwise_cons.mp hxs
    rw [insertBy]
    by_cases h : precedes a b = true
    · have hfirst : ∀ c ∈ (b :: xs).filter p, precedes a c = true := by
        intro c hc
        rcases List.mem_cons.mp (List.mem_filter.mp hc).1 with rfl | hc
        · exact h
        · exact hr.trans a b c h (hb c hc)
      rw [if_pos h, List.filter_cons, insertBy_of_first hfirst]
    · rw [if_neg h, List.filter_cons, List.filter_cons, ih hxs']
      by_cases hb : p b = true
      · rw [if_pos hb, if_pos hb, insertBy, if_neg h]
        split_ifs <;> rfl
      · rw [if_neg hb, if_neg hb]

lemma filter_sortBy (p : α → Bool) (xs : List α) :
    (sortBy precedes xs).filter p = sortBy precedes (xs.filter p) := by
  induction xs with
  | nil => rfl
  | cons a xs ih =>
    rw [sortBy, filter_insertBy hr p (pairwise_sortBy hr xs), ih, List.filter_cons]
    split_ifs <;> rfl

end Ranks

variable {β : Type} {precedes' : β → β → Bool} {f : α → β}

lemma insertBy_map (hf : ∀ a b, precedes' (f a) (f b) = precedes a b) (a : α) (xs : List α) :
    insertBy precedes' (f a) (xs.map f) = (insertBy precedes a xs).map f := by
  induction xs with
  | nil => rfl
  | cons b xs ih =>
    rw [List.map_cons, insertBy, insertBy, hf]
    by_cases h : precedes a b = true
    · rw [if_pos h, if_pos h]
      rfl
    · rw [if_neg h, if_neg h, ih]
      rfl

lemma sortBy_map (hf : ∀ a b, precedes' (f a) (f b) = precedes a b) (xs : List α) :
    sortBy precedes' (xs.map f) = (sortBy precedes xs).map f := by
  induction xs with
  | nil => rfl
  | cons a xs ih => rw [List.map_cons, sortBy, ih, insertBy_map hf, sortBy]

end Assessment
