import Assessment.Proofs.Gradebook.Bounds
import Assessment.Proofs.Gradebook.Entries

/-!
# What the changes of a batch write

Scores at places apart are entered independently of each other. Each goes into the entry at its place and
into a row of the log of its own, and the entries at all other places stay as they are.
-/

namespace Assessment.Gradebook

/-- What a score leaves behind: it is in the one entry at its place, and a row of the log tells of it. -/
structure Recorded (now : Time.Instant) (s t : Store) (c : ScoreChange) (r : AuditRow) : Prop where
  entry : t.entries.filter (isAt c.item c.enrollment) = [entered c r.actor now (entryFor c r.entry now s)]
  number : (entryFor c r.entry now s).id = r.entry
  old : r.oldScore = (s.entryOf? c.item c.enrollment).bind (·.score)
  new : r.newScore = c.score.bind Amount.ofDecimal?
  actor : columnOf c.actor = .ok (r.actor.map .whole)
  reason : r.reason = c.reason
  time : r.createdAt = now

/-- What a list of scores leaves behind. -/
structure Records (now : Time.Instant) (s t : Store) (changes : List ScoreChange) : Prop where
  log : ∃ rows, t.audits = s.audits ++ rows ∧ List.Forall₂ (Recorded now s t) changes rows
  others : ∀ p : GradeEntry → Bool, (∀ c ∈ changes, ∀ e, isAt c.item c.enrollment e = true → p e = true) →
    t.entries.filter (fun e => !p e) = s.entries.filter fun e => !p e

section Entries

variable {s t u : Store} {now : Time.Instant} {c : ScoreChange} {r : AuditRow} {item enrollment : Int}

lemma entryOf?_of_filter {e : GradeEntry} (h : s.entries.filter (isAt item enrollment) = [e]) :
    s.entryOf? item enrollment = some e := by
  change s.entries.find? (isAt item enrollment) = some e
  rw [← List.head?_filter, h, List.head?_cons]

lemma entryOf?_congr (h : t.entries.filter (isAt item enrollment) = s.entries.filter (isAt item enrollment)) :
    t.entryOf? item enrollment = s.entryOf? item enrollment := by
  change t.entries.find? (isAt item enrollment) = s.entries.find? (isAt item enrollment)
  rw [← List.head?_filter, h, List.head?_filter]

lemma Recorded.entryOf? (h : Recorded now s t c r) :
    t.entryOf? c.item c.enrollment = some (entered c r.actor now (entryFor c r.entry now s)) :=
  entryOf?_of_filter h.entry

lemma Recorded.later (h : Recorded now s t c r)
    (same : u.entries.filter (isAt c.item c.enrollment) = t.entries.filter (isAt c.item c.enrollment)) :
    Recorded now s u c r := { h with entry := same.trans h.entry }

lemma Recorded.earlier (h : Recorded now s t c r)
    (same : s.entryOf? c.item c.enrollment = u.entryOf? c.item c.enrollment) : Recorded now u t c r := by
  have hentry : entryFor c r.entry now s = entryFor c r.entry now u := by rw [entryFor, same, entryFor]
  exact { h with entry := hentry ▸ h.entry, number := hentry ▸ h.number, old := same ▸ h.old }

lemma Records.filter_isAt {changes : List ScoreChange} (h : Records now s t changes)
    (elsewhere : ∀ c ∈ changes, (c.item, c.enrollment) ≠ (item, enrollment)) :
    t.entries.filter (isAt item enrollment) = s.entries.filter (isAt item enrollment) := by
  have hsame := h.others (fun e => !isAt item enrollment e) fun c hc e he => by
    obtain ⟨hitem, henrollment⟩ := isAt_iff.mp he
    have hplace := elsewhere c hc
    rw [← hitem, ← henrollment] at hplace
    have hnot : isAt item enrollment e = false :=
      Bool.eq_false_iff.mpr fun hat => hplace (Prod.ext_iff.mpr (isAt_iff.mp hat))
    rw [hnot, Bool.not_false]
  simpa only [Bool.not_not] using hsame

end Entries

section Batches

variable {s t : Store} {now : Time.Instant} {c : ScoreChange} {actor : Option Int}

lemma Accepts.column (h : Accepts s c actor) : columnOf c.actor = .ok (actor.map .whole) := by
  obtain ⟨column, hcolumn, hactor⟩ := h.actor
  cases actor with
  | none => rw [hcolumn, reference_eq_ok_none hactor, Option.map_none]
  | some n => rw [hcolumn, (reference_eq_ok_some hactor).1, Option.map_some]

lemma recorded_withScore (places : (s.entries.map fun e => (e.item, e.enrollment)).Nodup)
    (h : Accepts s c actor) : Recorded now s (withScore c actor now s) c (scoreRow c actor now s) where
  entry := by
    rw [filter_isAt (places_withScore actor places), entryOf?_withScore_self]
    rfl
  number := entryFor_id c s
  old := rfl
  new := rfl
  actor := h.column
  reason := rfl
  time := rfl

/-- Scores at places apart are recorded, whatever comes before them or after them. -/
lemma applyBatch_records {changes : List BatchChange} (hi : Integrity s)
    (places : (s.entries.map fun e => (e.item, e.enrollment)).Nodup)
    (h : applyBatch now changes s = .ok t)
    (apart : (changes.map (·.change)).Pairwise fun c d =>
      (c.item, c.enrollment) ≠ (d.item, d.enrollment)) : Records now s t (changes.map (·.change)) := by
  induction changes generalizing s with
  | nil =>
    cases h
    exact ⟨⟨[], (List.append_nil _).symm, .nil⟩, fun _ _ => rfl⟩
  | cons c changes ih =>
    obtain ⟨actor, haccepts, h⟩ := applyBatch_cons.mp h
    obtain ⟨hfirst, hrest⟩ := List.pairwise_cons.mp apart
    have hrecords := ih (hi.withScore haccepts.item) (places_withScore actor places) h hrest
    obtain ⟨rows, hlog, hrows⟩ := hrecords.log
    -- The first score stays, since the others are at other places.
    have hkept : Recorded now s t c.change (scoreRow c.change actor now s) :=
      (recorded_withScore places haccepts).later
        (hrecords.filter_isAt fun d hd => Ne.symm (hfirst d hd))
    -- The others find at their places what they would have found before the first one.
    have hothers : List.Forall₂ (Recorded now s t) (changes.map (·.change)) rows :=
      ((List.forall₂_and_left _ _).mpr ⟨hfirst, hrows⟩).imp fun d r hd =>
        hd.2.earlier (entryOf?_withScore_of_ne hi hd.1)
    constructor
    · refine ⟨scoreRow c.change actor now s :: rows, ?_, .cons hkept hothers⟩
      rw [hlog, audits_withScore_eq, List.append_assoc, List.singleton_append]
    · intro p own
      obtain ⟨hown, howns⟩ := List.forall_mem_cons.mp own
      exact (hrecords.others p howns).trans (filter_not_withScore hi hown)

end Batches

section Cells

variable {s t : Store} {now : Time.Instant} {actor : Value} {cells : List ScoreCell} {p : ScoreCell → Bool}
  (h : Records now s t ((cells.filter p).map (·.change actor)))

include h

lemma entryOf?_of_records {item enrollment : Int}
    (elsewhere : ∀ c ∈ cells, p c = true → c.place ≠ (item, enrollment)) :
    t.entryOf? item enrollment = s.entryOf? item enrollment := by
  refine entryOf?_congr (h.filter_isAt fun change hchange => ?_)
  obtain ⟨c, hc, rfl⟩ := List.mem_map.mp hchange
  obtain ⟨hc, hentered⟩ := List.mem_filter.mp hc
  exact elsewhere c hc hentered

lemma entryOf?_of_left (apart : cells.Pairwise fun c d => c.place ≠ d.place) {c : ScoreCell} (hc : c ∈ cells)
    (left : ¬p c = true) : t.entryOf? c.item.id c.enrollment = s.entryOf? c.item.id c.enrollment := by
  refine entryOf?_of_records h fun d hd hentered hplace => ?_
  have hnodup : (cells.map (·.place)).Nodup := List.pairwise_map.mpr apart
  rw [List.inj_on_of_nodup_map hnodup hd hc hplace] at hentered
  exact left hentered

lemma entryOf?_of_entered {c : ScoreCell} (hc : c ∈ cells) (hentered : p c = true) :
    ∃ e, t.entryOf? c.item.id c.enrollment = some e ∧ e.score = c.score.bind Amount.ofDecimal? := by
  obtain ⟨rows, -, hrows⟩ := h.log
  obtain ⟨r, -, hrecorded⟩ := exists_of_forall₂ hrows.flip (c.change actor)
    (List.mem_map_of_mem (List.mem_filter.mpr ⟨hc, hentered⟩))
  exact ⟨_, hrecorded.entryOf?, rfl⟩

end Cells

end Assessment.Gradebook
