import Assessment.Proofs.Gradebook.Log

/-!
# The entry at a place

An enrollment has at most one entry under an item. A score goes into the entry at its place, or into a new
one there, and leaves the entries at all other places as they are.
-/

namespace Assessment.Gradebook

open Table

/-- Is an entry the one of an enrollment under an item? -/
def isAt (item enrollment : Int) (e : GradeEntry) : Bool :=
  e.item == item && e.enrollment == enrollment

/-- The entry that a score goes into: the one at its place, or a new one with a number of its own. -/
def entryFor (c : ScoreChange) (id : Int) (now : Time.Instant) (s : Store) : GradeEntry :=
  (s.entryOf? c.item c.enrollment).getD ⟨id, c.item, c.enrollment, none, none, now⟩

variable {c : ScoreChange} {actor : Option Int} {now : Time.Instant} {s : Store} {item enrollment : Int}

lemma isAt_iff {e : GradeEntry} :
    isAt item enrollment e = true ↔ e.item = item ∧ e.enrollment = enrollment := by
  simp [isAt]

lemma isAt_entered (c : ScoreChange) (item enrollment : Int) (e : GradeEntry) :
    isAt item enrollment (entered c actor now e) = isAt item enrollment e := rfl

lemma entryFor_id (c : ScoreChange) (s : Store) :
    (entryFor c (entryNumber c s) now s).id = entryNumber c s := by
  cases h : s.entryOf? c.item c.enrollment with
  | none => simp [entryFor, h]
  | some e => simp [entryFor, entryNumber_of_some h, h]

lemma entryOf?_withScore_self (c : ScoreChange) (actor : Option Int) (now : Time.Instant) (s : Store) :
    (withScore c actor now s).entryOf? c.item c.enrollment =
      some (entered c actor now (entryFor c (entryNumber c s) now s)) := by
  change (withScore c actor now s).entries.find? (isAt c.item c.enrollment) = _
  cases h : s.entryOf? c.item c.enrollment with
  | none =>
    have hnone : s.entries.find? (isAt c.item c.enrollment) = none := h
    rw [entries_withScore_of_none h, List.find?_append, hnone, entryNumber_of_none h]
    simp [firstEntry, entered, isAt, entryFor, h]
  | some e =>
    have hsome : s.entries.find? (isAt c.item c.enrollment) = some e := h
    rw [entries_withScore_of_some h, search_modify_of_same (isAt_entered c _ _), hsome, entryFor, h]
    exact congrArg some (if_pos rfl)

lemma entryOf?_withScore (c : ScoreChange) (actor : Option Int) (now : Time.Instant) (s : Store) :
    ∃ e, (withScore c actor now s).entryOf? c.item c.enrollment = some e ∧ e.id = entryNumber c s ∧
      e.score = c.score.bind Amount.ofDecimal? :=
  ⟨_, entryOf?_withScore_self c actor now s, entryFor_id c s, rfl⟩

lemma filter_not_withScore (hi : Integrity s) {p : GradeEntry → Bool}
    (own : ∀ e, isAt c.item c.enrollment e = true → p e = true) :
    (withScore c actor now s).entries.filter (fun e => !p e) = s.entries.filter fun e => !p e := by
  cases h : s.entryOf? c.item c.enrollment with
  | none =>
    have hfirst : p (firstEntry c actor now s) = true := own _ (isAt_iff.mpr ⟨rfl, rfl⟩)
    rw [entries_withScore_of_none h]
    exact filter_not_append (by simpa using hfirst)
  | some e =>
    obtain ⟨he, hplace⟩ := entryOf?_eq_some h
    have hown : isAt c.item c.enrollment e = true := isAt_iff.mpr hplace
    rw [entries_withScore_of_some h]
    exact filter_not_modify hi.entries he (own e hown) (own _ ((isAt_entered ..).trans hown))

lemma others_withScore (hi : Integrity s) (c : ScoreChange) :
    (withScore c actor now s).entries.filter (fun e => !isAt c.item c.enrollment e) =
      s.entries.filter fun e => !isAt c.item c.enrollment e :=
  filter_not_withScore hi fun _ he => he

lemma filter_isAt (places : (s.entries.map fun e => (e.item, e.enrollment)).Nodup) :
    s.entries.filter (isAt item enrollment) = (s.entryOf? item enrollment).toList := by
  change _ = (s.entries.find? (isAt item enrollment)).toList
  generalize s.entries = entries at *
  induction entries with
  | nil => rfl
  | cons e entries ih =>
    rw [List.map_cons, List.nodup_cons] at places
    cases he : isAt item enrollment e with
    | false => rw [List.filter_cons_of_neg (by simp [he]), List.find?_cons_of_neg (by simp [he]), ih places.2]
    | true =>
      have hothers : entries.filter (isAt item enrollment) = [] := by
        refine List.filter_eq_nil_iff.mpr fun x hx hat => places.1 (List.mem_map.mpr ⟨x, hx, ?_⟩)
        rw [(isAt_iff.mp hat).1, (isAt_iff.mp hat).2, (isAt_iff.mp he).1, (isAt_iff.mp he).2]
      rw [List.filter_cons_of_pos he, List.find?_cons_of_pos he, hothers, Option.toList_some]

end Assessment.Gradebook
