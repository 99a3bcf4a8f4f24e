import Assessment.Proofs.Attempt.Records

/-!
# The tables of attempts hang together

Whatever directory the program asks, attempts and their selections are numbered, selections are of
attempts that exist, and attempts are at quizzes that were published.
-/

namespace Assessment.Attempting

open Quiz Table

structure Integrity (s : Store) : Prop where
  attempts : Numbered s.attempts
  selections : Refers Selection.attempt s.selections s.attempts
  quizzes : ∀ a ∈ s.attempts, ∃ q ∈ s.quizzes, q.id = a.quiz ∧ q.status ≠ .draft
  /-- An attempt is found before it is submitted, so its number is one that tables work on. -/
  storable : ∀ a ∈ s.attempts, a.status = .submitted → isStorable a.id = true

variable {ctx : Context} {s s' : Store} {op : Service}

lemma integrity_ofSchool (users : List User) (classSections : List ClassSection)
    (enrollments : List Enrollment) : Integrity (.ofSchool users classSections enrollments) :=
  ⟨.nil, .nil, fun _ ha => absurd ha List.not_mem_nil, fun _ ha => absurd ha List.not_mem_nil⟩

lemma Integrity.write (h : Integrity s) {c : Call} (w : Write ctx s c s') : Integrity s' := by
  cases w with
  | @start _ _ _ _ q _ student enrollment found member time opened =>
    refine ⟨h.attempts.concat rfl, h.selections.concat_target _, fun a ha => ?_, fun a ha done => ?_⟩
    all_goals rcases List.mem_append.mp ha with ha | ha
    · exact h.quizzes a ha
    · obtain ⟨hstatus, -⟩ := requireOpen_eq_ok opened
      rw [List.mem_singleton.mp ha]
      exact ⟨q, found, rfl, by simp [hstatus]⟩
    · exact h.storable a ha done
    · rw [List.mem_singleton.mp ha] at done
      cases done
  | @submit _ _ _ _ _ a _ _ _ _ b found =>
    have ha := (own_eq_ok found).1
    obtain ⟨new, hnew, hof, -⟩ := append_selectionRows s.selections a.id b.graded
    refine ⟨h.attempts.modify _ fun _ => rfl, ?_, fun x hx => ?_, fun x hx done => ?_⟩
    · refine Refers.modify_target (fun r hr => ?_) a.id fun _ => rfl
      rw [hnew] at hr
      rcases List.mem_append.mp hr with hr | hr
      · exact h.selections r hr
      · exact ⟨a, ha, (hof r hr).symm⟩
    · rcases (mem_modify h.attempts ha).mp hx with rfl | ⟨hx, -⟩
      · exact h.quizzes a ha
      · exact h.quizzes x hx
    · rcases (mem_modify h.attempts ha).mp hx with rfl | ⟨hx, -⟩
      · exact (own_named found).2
      · exact h.storable x hx done

lemma Integrity.step (h : Integrity s) (hi : Quiz.Integrity s) (w : Step ctx s op s') : Integrity s' := by
  cases w with
  | quiz w =>
    have hattempts : s'.attempts = s.attempts := by rw [w.frame]
    have hselections : s'.selections = s.selections := by rw [w.frame]
    refine ⟨hattempts ▸ h.attempts, ?_, fun a ha => ?_, hattempts ▸ h.storable⟩
    · rw [hattempts, hselections]
      exact h.selections
    · rw [hattempts] at ha
      obtain ⟨q, hq, hid, taken⟩ := h.quizzes a ha
      obtain ⟨q', hq', hlater⟩ := w.later hi hq taken
      refine ⟨q', hq', ?_⟩
      rcases hlater with rfl | ⟨-, now, rfl⟩
      · exact ⟨hid, taken⟩
      · exact ⟨hid, nofun⟩
  | attempt w => exact h.write w
  | book w | opening _ w | posting _ w | queueing _ w =>
    rw [w.frame]
    exact { h with }

/-- The tables of quizzes and of attempts hang together in every store that can be reached. -/
theorem integrity_of_reachable {P : Context → Service → Prop} (h : Reachable P s) :
    Quiz.Integrity s ∧ Integrity s :=
  h.invariant (I := fun s => Quiz.Integrity s ∧ Integrity s)
    (fun users sections enrollments => ⟨Quiz.integrity_ofSchool users sections enrollments,
      integrity_ofSchool users sections enrollments⟩)
    fun _ _ _ _ _ hi w => ⟨hi.1.step w, hi.2.step hi.1 w⟩

end Assessment.Attempting
