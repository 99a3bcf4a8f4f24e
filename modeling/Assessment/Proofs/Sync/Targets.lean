import Assessment.Proofs.Digits
import Assessment.Proofs.Sync.Acceptance
import Assessment.Proofs.Sync.Accounts

/-!
# The items that take the scores of quizzes

Names of items are compared without regard to case and blanks around them, and no two items of a book have
the same name then. So a quiz has at most one item of its own, in whatever order the items are read, and that
item takes the scores of the quiz for good: books keep their sections, and items are neither renamed nor
removed.
-/

namespace Assessment.Sync

open Gradebook Table

/-- An item of the book of a section has a name, without regard to case and blanks around it. -/
structure NamedIn (s : Store) (classSection : Int) (name : String) (i : GradeItem) : Prop where
  item : i ∈ s.items
  book : ∃ b ∈ s.books, b.id = i.book ∧ b.classSection = classSection
  named : nameKey i.name = name

/-- The item of a section that takes the scores of a quiz: the one that is named after the quiz, or else the
one for all quizzes. -/
inductive Resolves (s : Store) (classSection quiz : Int) : Option GradeItem → Prop
  | own {i : GradeItem} (named : NamedIn s classSection (quizItemName (.int quiz)) i) :
      Resolves s classSection quiz (some i)
  | common {i : GradeItem} (noOwn : ∀ j, ¬NamedIn s classSection (quizItemName (.int quiz)) j)
      (named : NamedIn s classSection commonItemName i) : Resolves s classSection quiz (some i)
  | missing (noOwn : ∀ j, ¬NamedIn s classSection (quizItemName (.int quiz)) j)
      (noCommon : ∀ j, ¬NamedIn s classSection commonItemName j) : Resolves s classSection quiz none

/-- An item of the section of a quiz is named after the quiz. -/
def OwnItem (s : Store) (q : Quiz) (i : GradeItem) : Prop :=
  NamedIn s q.classSection (quizItemName (.int q.id)) i

lemma quizItemName_injective {m n : Int} (h : quizItemName (.int m) = quizItemName (.int n)) : m = n := by
  have hnumber : (Value.int m).display = (Value.int n).display := (String.append_right_inj _).mp h
  exact Text.intRepr_injective hnumber

section Names

variable {s t : Store} {classSection quiz : Int} {name : String} {i j : GradeItem} {b : GradeBook}
  {r : Option GradeItem}

/-- Names of items differ within a book, and a section has one book. -/
structure Distinct (s : Store) : Prop where
  sections : s.books.Pairwise fun a b => a.classSection ≠ b.classSection
  names : s.items.Pairwise fun i j => i.book = j.book → nameKey i.name ≠ nameKey j.name

lemma Distinct.bookOf?_eq (h : Distinct s) (hb : b ∈ s.books) : s.bookOf? b.classSection = some b := by
  cases hfound : s.bookOf? b.classSection with
  | none => exact absurd rfl (bookOf?_eq_none hfound hb)
  | some x =>
    have hsection : x.classSection = b.classSection := by simpa using List.find?_some hfound
    have hsymm : Std.Symm fun a b : GradeBook => a.classSection ≠ b.classSection := ⟨fun _ _ => Ne.symm⟩
    have hx : x ∈ s.books := List.mem_of_find?_eq_some hfound
    by_contra hne
    have hxb : x ≠ b := fun heq => hne (congrArg some heq)
    exact h.sections.forall hx hb hxb hsection

lemma Distinct.book_eq (h : Distinct s) (named : NamedIn s classSection name i)
    (found : s.bookOf? classSection = some b) : i.book = b.id := by
  obtain ⟨x, hx, hid, rfl⟩ := named.book
  rw [h.bookOf?_eq hx] at found
  rw [← hid, Option.some.inj found]

lemma Distinct.eq_of_named (h : Distinct s) (hi : NamedIn s classSection name i)
    (hj : NamedIn s classSection name j) : i = j := by
  obtain ⟨b, hb, -, hsection⟩ := hi.book
  have hfound : s.bookOf? classSection = some b := hsection ▸ h.bookOf?_eq hb
  have hsymm : Std.Symm fun i j : GradeItem => i.book = j.book → nameKey i.name ≠ nameKey j.name :=
    ⟨fun _ _ hij hji => (hij hji.symm).symm⟩
  by_contra hne
  have hbooks : i.book = j.book := (h.book_eq hi hfound).trans (h.book_eq hj hfound).symm
  exact h.names.forall hi.item hj.item hne hbooks (hi.named.trans hj.named.symm)

lemma itemNamed?_eq_some (h : itemNamed? s b.id name = some i) (hb : b ∈ s.books) :
    NamedIn s b.classSection name i := by
  obtain ⟨hmem, hbook⟩ := List.mem_filter.mp (List.mem_of_find?_eq_some h)
  exact ⟨hmem, ⟨b, hb, (beq_iff_eq.mp hbook).symm, rfl⟩, by simpa using List.find?_some h⟩

lemma Distinct.itemNamed?_of_named (h : Distinct s) (named : NamedIn s classSection name i)
    (found : s.bookOf? classSection = some b) : itemNamed? s b.id name = some i := by
  have hb : b ∈ s.books := List.mem_of_find?_eq_some found
  have hsection : b.classSection = classSection := by simpa using List.find?_some found
  have hmem : i ∈ s.items.filter (·.book == b.id) :=
    List.mem_filter.mpr ⟨named.item, beq_iff_eq.mpr (h.book_eq named found)⟩
  cases hj : itemNamed? s b.id name with
  | none =>
    have hother := List.find?_eq_none.mp hj i hmem
    exact absurd (beq_iff_eq.mpr named.named) hother
  | some j =>
    have hnamed : NamedIn s classSection name j := hsection ▸ itemNamed?_eq_some hj hb
    rw [h.eq_of_named named hnamed]

lemma itemNamed?_eq_none (none : ∀ i, ¬NamedIn s classSection name i)
    (found : s.bookOf? classSection = some b) : itemNamed? s b.id name = .none := by
  have hb : b ∈ s.books := List.mem_of_find?_eq_some found
  have hsection : b.classSection = classSection := by simpa using List.find?_some found
  rw [← Option.not_isSome_iff_eq_none, Option.isSome_iff_exists]
  rintro ⟨i, hi⟩
  exact none i (hsection ▸ itemNamed?_eq_some hi hb)

lemma Distinct.namedTarget?_eq (h : Distinct s) (resolves : Resolves s classSection quiz r)
    (found : s.bookOf? classSection = some b) : namedTarget? s b.id (.int quiz) = r := by
  unfold namedTarget?
  cases resolves with
  | own named => rw [h.itemNamed?_of_named named found, Option.orElse_some]
  | common noOwn named =>
    rw [itemNamed?_eq_none noOwn found, Option.orElse_none, h.itemNamed?_of_named named found]
  | missing noOwn noCommon =>
    rw [itemNamed?_eq_none noOwn found, Option.orElse_none, itemNamed?_eq_none noCommon found]

lemma Resolves.eq_none (h : Resolves s classSection quiz r) (absent : s.bookOf? classSection = none) :
    r = none := by
  have hnone (name : String) (i : GradeItem) : ¬NamedIn s classSection name i := by
    rintro ⟨-, ⟨b, hb, -, hsection⟩, -⟩
    exact bookOf?_eq_none absent hb hsection
  cases h with
  | own named | common _ named => exact absurd named (hnone _ _)
  | missing => rfl

lemma Distinct.target_eq (h : Distinct s) {ctx : Context} (standard : ctx.item? = none)
    (storable : isStorable classSection = true) (resolves : Resolves s classSection quiz r) :
    target ctx (.int classSection) (.int quiz) s = .ok (.ofInt? (r.map (·.id))) := by
  rw [Sync.target_eq standard storable]
  cases hfound : s.bookOf? classSection with
  | none => rw [resolves.eq_none hfound, Option.bind_none]
  | some b => rw [Option.bind_some, h.namedTarget?_eq resolves hfound]

lemma targetItem?_int {n : Int} (h : targetItem? (.int n) s = .ok (some i)) : i.id = n := by
  unfold targetItem? at h
  by_cases htruthy : (Value.int n).truthy = true
  · rw [if_pos htruthy] at h
    by_cases storable : isStorable n = true
    · simp only [Value.keyProbe_of_storable storable, bind_eq_ok, Except.ok.injEq, pure_eq_ok] at h
      obtain ⟨_, rfl, hfind⟩ := h
      rw [Probe.find?_whole] at hfind
      exact (mem_of_find? hfind).2
    · have hrange : (Value.int n).keyProbe "grade_item_id" = .error .outOfRange := by
        simp only [Value.keyProbe, Value.isKey, Value.numericCell?, Value.cell?, if_neg storable]
        rfl
      simp [hrange] at h
  · simp [if_neg htruthy] at h

lemma Distinct.item_of_own (h : Distinct s) {ctx : Context} (standard : ctx.item? = none) {item : GradeItem}
    (placed : postableItem ctx b classSection quiz s = .ok item)
    (own : NamedIn s classSection (quizItemName (.int quiz)) i) : item.id = i.id := by
  simp only [postableItem, bind_eq_ok, lift_eq_ok] at placed
  obtain ⟨v, htarget, found, hfound, hplaced⟩ := placed
  have storable : isStorable classSection = true := by
    simp only [target, standard, bind_eq_ok] at htarget
    obtain ⟨key, hkey, -⟩ := htarget
    exact Value.storable_of_probe hkey
  rw [h.target_eq standard storable (.own own)] at htarget
  obtain rfl := Except.ok.inj htarget
  cases found with
  | none => simp at hplaced
  | some x =>
    simp only [guard_eq_ok, pure_eq_ok] at hplaced
    rw [← hplaced.2]
    exact targetItem?_int hfound

lemma exists_resolves (s : Store) (classSection quiz : Int) : ∃ r, Resolves s classSection quiz r := by
  by_cases hown : ∃ i, NamedIn s classSection (quizItemName (.int quiz)) i
  · obtain ⟨i, hi⟩ := hown
    exact ⟨some i, .own hi⟩
  · have noOwn := not_exists.mp hown
    by_cases hcommon : ∃ i, NamedIn s classSection commonItemName i
    · obtain ⟨i, hi⟩ := hcommon
      exact ⟨some i, .common noOwn hi⟩
    · exact ⟨none, .missing noOwn (not_exists.mp hcommon)⟩

lemma Distinct.resolves_unique (h : Distinct s) {r' : Option GradeItem} (hr : Resolves s classSection quiz r)
    (hr' : Resolves s classSection quiz r') : r = r' := by
  cases hfound : s.bookOf? classSection with
  | none => rw [hr.eq_none hfound, hr'.eq_none hfound]
  | some b => rw [← h.namedTarget?_eq hr hfound, ← h.namedTarget?_eq hr' hfound]

lemma namedIn_perm (books : t.books = s.books) (items : t.items.Perm s.items) :
    NamedIn t classSection name i ↔ NamedIn s classSection name i := by
  constructor
  · rintro ⟨hmem, hbook, hname⟩
    exact ⟨items.mem_iff.mp hmem, books ▸ hbook, hname⟩
  · rintro ⟨hmem, hbook, hname⟩
    exact ⟨items.mem_iff.mpr hmem, books ▸ hbook, hname⟩

lemma Resolves.perm (books : t.books = s.books) (items : t.items.Perm s.items)
    (h : Resolves s classSection quiz r) : Resolves t classSection quiz r := by
  have hnamed {name : String} {i : GradeItem} :
      NamedIn t classSection name i ↔ NamedIn s classSection name i := namedIn_perm books items
  cases h with
  | own named => exact .own (hnamed.mpr named)
  | common noOwn named => exact .common (fun j hj => noOwn j (hnamed.mp hj)) (hnamed.mpr named)
  | missing noOwn noCommon =>
    exact .missing (fun j hj => noOwn j (hnamed.mp hj)) fun j hj => noCommon j (hnamed.mp hj)

lemma Distinct.perm (h : Distinct s) (books : t.books = s.books) (items : t.items.Perm s.items) :
    Distinct t := by
  refine ⟨books ▸ h.sections, (items.pairwise_iff fun hij hji => ?_).mpr h.names⟩
  exact (hij hji.symm).symm

end Names

section Lasting

variable {ctx : Context} {s t : Store} {op : Service} {classSection : Int} {name : String}
  {i : GradeItem}

lemma NamedIn.step (h : NamedIn s classSection name i) (w : Step ctx s op t) :
    NamedIn t classSection name i := by
  obtain ⟨b, hb, hid, hsection⟩ := h.book
  obtain ⟨b', hb', hid', hsection'⟩ := book_of_step w hb
  exact ⟨mem_items_of_step w h.item, ⟨b', hb', hid'.trans hid, hsection'.trans hsection⟩, h.named⟩

lemma NamedIn.leads (h : NamedIn s classSection name i) (hst : Leads s t) :
    NamedIn t classSection name i := by
  induction hst with
  | refl => exact h
  | tail _ w ih =>
    obtain ⟨_, _, -, w⟩ := w
    exact ih.step w

end Lasting

end Assessment.Sync
