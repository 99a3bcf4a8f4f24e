import Assessment.Proofs.Gradebook.Entries
import Assessment.Proofs.Gradebook.Scores
import Mathlib.Logic.Equiv.Basic

/-!
# Scores at different places

Scores that are entered at different places can be entered in either order. The entries and the rows of the
log are the same then, but for the numbers of those that are new.
-/

namespace Assessment

namespace Gradebook

open Table

/-- An entry with another number. -/
def renumbered (ρ : Int → Int) (e : GradeEntry) : GradeEntry := { e with id := ρ e.id }

/-- A row of the log with another number, for an entry with another number. -/
def renumberedRow (ρ τ : Int → Int) (r : AuditRow) : AuditRow := { r with id := τ r.id, entry := ρ r.entry }

/-- Two stores that have come from a third one differ at most in the numbers of the entries and of the rows of
the log that are new in them. -/
structure SameUpToNumbers (s t u : Store) : Prop where
  tables : u = { t with entries := u.entries, audits := u.audits }
  rows : ∃ ρ τ : Equiv.Perm Int, (∀ e ∈ s.entries, ρ e.id = e.id) ∧ (∀ r ∈ s.audits, τ r.id = r.id) ∧
    u.entries.Perm (t.entries.map (renumbered ρ)) ∧ u.audits.Perm (t.audits.map (renumberedRow ρ τ))

lemma SameUpToNumbers.refl (s t : Store) : SameUpToNumbers s t t := by
  refine ⟨rfl, 1, 1, fun _ _ => rfl, fun _ _ => rfl, ?_, ?_⟩
  · exact .of_eq (List.map_id _).symm
  · exact .of_eq (List.map_id _).symm

section Scores

variable {c d : ScoreChange} {x y : Option Int} {now : Time.Instant} {s : Store}

lemma entryNumber_withScore_of_some (hi : Integrity s)
    (apart : (c.item, c.enrollment) ≠ (d.item, d.enrollment)) {e : GradeEntry}
    (h : s.entryOf? c.item c.enrollment = some e) : entryNumber c (withScore d y now s) = e.id :=
  entryNumber_of_some ((entryOf?_withScore_of_ne hi apart.symm).trans h)

lemma entryNumber_withScore_of_none (hi : Integrity s)
    (apart : (c.item, c.enrollment) ≠ (d.item, d.enrollment))
    (h : s.entryOf? c.item c.enrollment = none) :
    entryNumber c (withScore d y now s) = nextId (withScore d y now s).entries :=
  entryNumber_of_none ((entryOf?_withScore_of_ne hi apart.symm).trans h)

lemma nextId_withScore_of_some {e : GradeEntry} (h : s.entryOf? c.item c.enrollment = some e) :
    nextId (withScore c x now s).entries = nextId s.entries := by
  rw [entries_withScore_of_some h]
  exact nextId_modify fun _ => rfl

lemma nextId_withScore_of_none (h : s.entryOf? c.item c.enrollment = none) :
    nextId (withScore c x now s).entries = nextId s.entries + 1 := by
  rw [entries_withScore_of_none h]
  exact nextId_concat rfl

/-- Entries that scores go into can be renumbered so that the order in which the scores are entered does not
show. -/
lemma exists_renumbering (hi : Integrity s) (apart : (c.item, c.enrollment) ≠ (d.item, d.enrollment))
    (x y : Option Int) (now : Time.Instant) :
    ∃ ρ : Equiv.Perm Int, (∀ e ∈ s.entries, ρ e.id = e.id) ∧
      ρ (entryNumber c s) = entryNumber c (withScore d y now s) ∧
      ρ (entryNumber d (withScore c x now s)) = entryNumber d s := by
  cases hc : s.entryOf? c.item c.enrollment with
  | some e =>
    refine ⟨1, fun _ _ => rfl, ?_, ?_⟩
    · rw [entryNumber_withScore_of_some hi apart hc, entryNumber_of_some hc]
      rfl
    · cases hd : s.entryOf? d.item d.enrollment with
      | some f =>
        rw [entryNumber_withScore_of_some hi apart.symm hd, entryNumber_of_some hd]
        rfl
      | none =>
        rw [entryNumber_withScore_of_none hi apart.symm hd, entryNumber_of_none hd, nextId_withScore_of_some hc]
        rfl
  | none =>
    cases hd : s.entryOf? d.item d.enrollment with
    | some f =>
      refine ⟨1, fun _ _ => rfl, ?_, ?_⟩
      · rw [entryNumber_withScore_of_none hi apart hc, entryNumber_of_none hc, nextId_withScore_of_some hd]
        rfl
      · rw [entryNumber_withScore_of_some hi apart.symm hd, entryNumber_of_some hd]
        rfl
    | none =>
      -- Both entries are new, and they have changed their numbers.
      refine ⟨Equiv.swap (nextId s.entries) (nextId s.entries + 1), fun e he => ?_, ?_, ?_⟩
      · have hlt : e.id < nextId s.entries := lt_nextId he
        exact Equiv.swap_apply_of_ne_of_ne (by omega) (by omega)
      · rw [entryNumber_withScore_of_none hi apart hc, entryNumber_of_none hc, nextId_withScore_of_none hd]
        exact Equiv.swap_apply_left _ _
      · rw [entryNumber_withScore_of_none hi apart.symm hd, entryNumber_of_none hd,
          nextId_withScore_of_none hc]
        exact Equiv.swap_apply_right _ _

/-- The entry that is made for a first score, with a number. -/
def scored (c : ScoreChange) (x : Option Int) (now : Time.Instant) (n : Int) : GradeEntry :=
  entered c x now ⟨n, c.item, c.enrollment, none, none, now⟩

lemma map_renumbered {ρ : Int → Int} {entries : List GradeEntry} (fixed : ∀ e ∈ entries, ρ e.id = e.id) :
    entries.map (renumbered ρ) = entries := by
  conv_rhs => rw [← List.map_id entries]
  refine List.map_congr_left fun e he => ?_
  simp only [renumbered, fixed e he, id]

lemma map_renumberedRow {ρ τ : Int → Int} {rows : List AuditRow} (fixed : ∀ r ∈ rows, τ r.id = r.id)
    (entries : ∀ r ∈ rows, ρ r.entry = r.entry) : rows.map (renumberedRow ρ τ) = rows := by
  conv_rhs => rw [← List.map_id rows]
  refine List.map_congr_left fun r hr => ?_
  simp only [renumberedRow, fixed r hr, entries r hr, id]

lemma fixed_modify {ρ : Int → Int} {entries : List GradeEntry} (fixed : ∀ e ∈ entries, ρ e.id = e.id)
    (n : Int) (c : ScoreChange) (x : Option Int) (now : Time.Instant) :
    ∀ e ∈ modify n (entered c x now) entries, ρ e.id = e.id := by
  intro e he
  obtain ⟨f, hf, rfl⟩ := List.mem_map.mp he
  split_ifs
  all_goals exact fixed f hf

lemma entries_withScore_scored (h : s.entryOf? c.item c.enrollment = none) :
    (withScore c x now s).entries = s.entries ++ [scored c x now (entryNumber c s)] := by
  rw [entries_withScore_of_none h, entryNumber_of_none h]
  rfl

lemma entries_comm (hi : Integrity s) (apart : (c.item, c.enrollment) ≠ (d.item, d.enrollment))
    {ρ : Int → Int} (fixed : ∀ e ∈ s.entries, ρ e.id = e.id)
    (first : ρ (entryNumber c s) = entryNumber c (withScore d y now s))
    (second : ρ (entryNumber d (withScore c x now s)) = entryNumber d s) :
    (withScore c x now (withScore d y now s)).entries.Perm
      ((withScore d y now (withScore c x now s)).entries.map (renumbered ρ)) := by
  have hc' : (withScore d y now s).entryOf? c.item c.enrollment = s.entryOf? c.item c.enrollment :=
    entryOf?_withScore_of_ne hi apart.symm
  have hd' : (withScore c x now s).entryOf? d.item d.enrollment = s.entryOf? d.item d.enrollment :=
    entryOf?_withScore_of_ne hi apart
  cases hc : s.entryOf? c.item c.enrollment with
  | some e =>
    obtain ⟨he, hec⟩ := entryOf?_eq_some hc
    rw [entries_withScore_of_some (hc'.trans hc)]
    cases hd : s.entryOf? d.item d.enrollment with
    | some f =>
      obtain ⟨hf, hfd⟩ := entryOf?_eq_some hd
      have hne : e.id ≠ f.id := by
        intro hid
        obtain rfl : e = f := hi.entries.eq_of_id_eq he hf hid
        exact apart (by rw [← hec.1, ← hec.2, hfd.1, hfd.2])
      rw [entries_withScore_of_some (hd'.trans hd), entries_withScore_of_some hc, entries_withScore_of_some hd,
        map_renumbered (fixed_modify (fixed_modify fixed _ _ _ _) _ _ _ _),
        modify_comm (f := entered c x now) (g := entered d y now) (fun _ => rfl) (fun _ => rfl) hne]
    | none =>
      have hne : entryNumber d s ≠ e.id := by
        have hlt : e.id < nextId s.entries := lt_nextId he
        rw [entryNumber_of_none hd]
        omega
      rw [entries_withScore_scored (hd'.trans hd), entries_withScore_scored hd, entries_withScore_of_some hc,
        List.map_append, map_renumbered (fixed_modify fixed _ _ _ _), modify_concat_of_ne hne,
        List.map_singleton, ← second]
      exact .refl _
  | none =>
    rw [entries_withScore_scored (hc'.trans hc), ← first]
    cases hd : s.entryOf? d.item d.enrollment with
    | some f =>
      obtain ⟨hf, -⟩ := entryOf?_eq_some hd
      have hne : entryNumber c s ≠ f.id := by
        have hlt : f.id < nextId s.entries := lt_nextId hf
        rw [entryNumber_of_none hc]
        omega
      rw [entries_withScore_of_some (hd'.trans hd), entries_withScore_scored hc, entries_withScore_of_some hd,
        modify_concat_of_ne hne, List.map_append, map_renumbered (fixed_modify fixed _ _ _ _)]
      exact .refl _
    | none =>
      rw [entries_withScore_scored (hd'.trans hd), entries_withScore_scored hd, entries_withScore_scored hc,
        ← second, List.map_append, List.map_append, map_renumbered fixed, List.append_assoc, List.append_assoc]
      exact (List.Perm.swap _ _ _).append_left _

lemma scoreRow_withScore (hi : Integrity s) (apart : (c.item, c.enrollment) ≠ (d.item, d.enrollment)) :
    scoreRow c x now (withScore d y now s) = { scoreRow c x now s with
      id := nextId s.audits + 1, entry := entryNumber c (withScore d y now s) } := by
  have hid : nextId (withScore d y now s).audits = nextId s.audits + 1 := by
    rw [audits_withScore_eq]
    exact nextId_concat rfl
  simp only [scoreRow, hid, entryOf?_withScore_of_ne hi apart.symm]

/-- Scores at different places can be entered in either order. -/
lemma withScore_comm (hi : Integrity s) (apart : (c.item, c.enrollment) ≠ (d.item, d.enrollment))
    (x y : Option Int) (now : Time.Instant) :
    SameUpToNumbers s (withScore d y now (withScore c x now s)) (withScore c x now (withScore d y now s)) := by
  obtain ⟨ρ, fixed, first, second⟩ := exists_renumbering hi apart x y now
  let m := nextId s.audits
  have hτ : ∀ r ∈ s.audits, Equiv.swap m (m + 1) r.id = r.id := by
    intro r hr
    have hlt : r.id < m := lt_nextId hr
    exact Equiv.swap_apply_of_ne_of_ne (by omega) (by omega)
  have hentry : ∀ r ∈ s.audits, ρ r.entry = r.entry := by
    intro r hr
    obtain ⟨e, he, hid⟩ := hi.auditEntry r hr
    rw [← hid]
    exact fixed e he
  refine ⟨rfl, ρ, Equiv.swap m (m + 1), fixed, hτ, entries_comm hi apart fixed first second, ?_⟩
  have hc : renumberedRow ρ (Equiv.swap m (m + 1)) (scoreRow c x now s) =
      scoreRow c x now (withScore d y now s) := by
    rw [scoreRow_withScore hi apart, ← first]
    exact congrArg (fun n => { scoreRow c x now s with id := n, entry := ρ (entryNumber c s) })
      (Equiv.swap_apply_left m (m + 1))
  have hd : renumberedRow ρ (Equiv.swap m (m + 1)) (scoreRow d y now (withScore c x now s)) =
      scoreRow d y now s := by
    rw [scoreRow_withScore hi apart.symm]
    simp only [renumberedRow, second, m, Equiv.swap_apply_right]
    rfl
  rw [audits_withScore_eq, audits_withScore_eq, audits_withScore_eq, audits_withScore_eq, List.map_append,
    List.map_append, map_renumberedRow hτ hentry, List.map_singleton, List.map_singleton, hc, hd,
    List.append_assoc, List.append_assoc]
  exact (List.Perm.swap _ _ _).append_left _

end Scores

end Gradebook

end Assessment
