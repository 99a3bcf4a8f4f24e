import Assessment.Text.Blank
import Assessment.Text.Surrogate
import Assessment.Text.UpperCase
import Mathlib.Data.List.DropRight

/-!
# Texts without blanks around them, and in upper case

A text that is trimmed has no blanks left to remove, and its characters are among those it had before.
In upper case no character vanishes.
-/

namespace Assessment.Text

lemma trimBy_eq (p : Char → Bool) (cs : List Char) : trimBy p cs = (cs.dropWhile p).rdropWhile p := rfl

lemma trimBy_sublist (p : Char → Bool) (cs : List Char) : (trimBy p cs).Sublist cs :=
  (List.rdropWhile_prefix p _).sublist.trans (List.dropWhile_sublist p)

lemma trimBy_trimBy (p : Char → Bool) (cs : List Char) : trimBy p (trimBy p cs) = trimBy p cs := by
  have hfront : (trimBy p cs).dropWhile p = trimBy p cs := by
    refine List.dropWhile_eq_self_iff.mpr fun hlt => ?_
    -- The first character that is kept is the first one after the blanks in front.
    have hprefix : trimBy p cs <+: cs.dropWhile p := List.rdropWhile_prefix p _
    have hlong := hlt.trans_le hprefix.length_le
    rw [List.IsPrefix.getElem hprefix hlt]
    exact List.dropWhile_get_zero_not p cs hlong
  rw [trimBy_eq p (trimBy p cs), hfront]
  exact List.rdropWhile_idempotent p _

lemma trimBy_eq_self_iff {p : Char → Bool} {cs : List Char} :
    trimBy p cs = cs ↔ (∀ c ∈ cs.head?, p c = false) ∧ ∀ c ∈ cs.getLast?, p c = false := by
  have hfront : cs.dropWhile p = cs ↔ ∀ c ∈ cs.head?, p c = false := by
    cases cs with
    | nil => simp
    | cons c cs => simp [List.dropWhile_eq_self_iff]
  have hback : cs.rdropWhile p = cs ↔ ∀ c ∈ cs.getLast?, p c = false := by
    rw [List.rdropWhile_eq_self_iff]
    cases cs with
    | nil => simp
    | cons c cs => simp [List.getLast?_eq_getLast_of_ne_nil]
  rw [← hfront, ← hback]
  constructor
  · intro h
    have hlength : (trimBy p cs).length ≤ (cs.dropWhile p).length := (List.rdropWhile_prefix p _).length_le
    rw [h] at hlength
    have hdrop : cs.dropWhile p = cs := (List.dropWhile_sublist p).eq_of_length_le hlength
    rw [trimBy_eq, hdrop] at h
    exact ⟨hdrop, h⟩
  · rintro ⟨hdrop, hrdrop⟩
    rw [trimBy_eq, hdrop, hrdrop]

/-- A text that is there and has no blanks around it. -/
structure Trimmed (s : String) : Prop where
  some_char : s ≠ ""
  front : ∀ c ∈ s.toList.head?, isBlank c = false
  back : ∀ c ∈ s.toList.getLast?, isBlank c = false

lemma trim_eq_self_iff {s : String} : trim s = s ↔ trimChars s.toList = s.toList := by
  rw [trim, ← String.toList_inj, String.toList_ofList]

lemma trimmed_iff {s : String} : Trimmed s ↔ s ≠ "" ∧ trim s = s := by
  rw [trim_eq_self_iff, trimChars, trimBy_eq_self_iff]
  exact ⟨fun h => ⟨h.some_char, h.front, h.back⟩, fun ⟨hne, hfront, hback⟩ => ⟨hne, hfront, hback⟩⟩

lemma trim_trim (s : String) : trim (trim s) = trim s := by
  unfold trim trimChars
  rw [String.toList_ofList, trimBy_trimBy]

lemma hasEncoding_trim {s : String} (h : hasEncoding s = true) : hasEncoding (trim s) = true := by
  unfold hasEncoding trim at *
  rw [String.toList_ofList]
  rw [List.all_eq_true] at h ⊢
  exact fun c hc => h c ((trimBy_sublist _ _).subset hc)

lemma upperChar_ne_nil (c : Char) : upperChar c ≠ [] := by
  have hexpansions : ∀ x ∈ upperExpansions, x.2 ≠ [] := by decide
  unfold upperChar
  split_ifs
  · simp
  · split
    · rename_i hfound
      simpa using hexpansions _ (List.mem_of_find?_eq_some hfound)
    · split <;> simp

lemma upper_ne_empty {s : String} (h : s ≠ "") : upper s ≠ "" := by
  have hchars : s.toList ≠ [] := by simpa using h
  obtain ⟨c, cs, hcons⟩ := List.exists_cons_of_ne_nil hchars
  unfold upper
  rw [hcons, List.flatMap_cons, ← String.toList_inj.ne, String.toList_ofList]
  simp [upperChar_ne_nil]

end Assessment.Text
