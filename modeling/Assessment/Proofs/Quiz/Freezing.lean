import Assessment.Proofs.Attempt.Integrity
import Assessment.Proofs.Attempt.Scores

/-!
# Published quizzes are frozen

From its publication on, a quiz stays with all that it asks. The one thing that still becomes of it is
that it is closed. Quizzes that are deleted are drafts, which nobody has attempted.
-/

namespace Assessment.Quiz

open Table

section Relations

variable {q q' q'' : Quiz} {quiz : Int} {s t u : Store}

lemma Later.id_eq (h : Later q q') : q'.id = q.id := by
  rcases h with rfl | ⟨-, now, rfl⟩ <;> rfl

lemma Later.taken (h : Later q q') (taken : q.status ≠ .draft) : q'.status ≠ .draft := by
  rcases h with rfl | ⟨-, now, rfl⟩
  · exact taken
  · nofun

lemma Later.trans (h : Later q q') (h' : Later q' q'') : Later q q'' := by
  rcases h with rfl | ⟨open', now, rfl⟩
  · exact h'
  · rcases h' with rfl | ⟨open'', -⟩
    · exact .inr ⟨open', now, rfl⟩
    · cases open''

lemma SameContent.trans (h : SameContent quiz s t) (h' : SameContent quiz t u) :
    SameContent quiz s u := by
  refine ⟨h'.questions.trans h.questions, fun k hk hquiz => ?_⟩
  have hthere : k ∈ t.questions.filter (·.quiz == quiz) := by
    rw [h.questions]
    exact List.mem_filter.mpr ⟨hk, beq_iff_eq.mpr hquiz⟩
  exact (h'.options k (List.mem_filter.mp hthere).1 hquiz).trans (h.options k hk hquiz)

end Relations

/-- A quiz of an earlier store is still there, with all that it asks. -/
structure Frozen (q : Quiz) (s t : Store) : Prop where
  row : ∃ q' ∈ t.quizzes, Later q q'
  content : SameContent q.id s t

section Runs

variable {P : Context → Service → Prop} {ctx : Context} {op : Service} {q : Quiz} {s t u : Store}

lemma Frozen.refl (hq : q ∈ s.quizzes) : Frozen q s s := ⟨⟨q, hq, .inl rfl⟩, .of_eq rfl rfl⟩

lemma frozen_step (hi : Integrity s) (hq : q ∈ s.quizzes) (taken : q.status ≠ .draft)
    (w : Step ctx s op t) : Frozen q s t := by
  cases w with
  | quiz w => exact ⟨w.later hi hq taken, w.sameContent hi hq taken⟩
  | attempt w | book w | opening _ w | posting _ w | queueing _ w =>
    rw [w.frame]
    exact ⟨⟨q, hq, .inl rfl⟩, .of_eq rfl rfl⟩

lemma Frozen.step (h : Frozen q s t) (hi : Integrity t) (taken : q.status ≠ .draft)
    (w : Step ctx t op u) : Frozen q s u := by
  obtain ⟨q', hq', hlater⟩ := h.row
  obtain ⟨⟨q'', hq'', hlater'⟩, hsame⟩ := frozen_step hi hq' (hlater.taken taken) w
  rw [hlater.id_eq] at hsame
  exact ⟨⟨q'', hq'', hlater.trans hlater'⟩, h.content.trans hsame⟩

lemma frozen_run (hi : Integrity s) (hq : q ∈ s.quizzes) (taken : q.status ≠ .draft)
    (h : Run P s t) : Integrity t ∧ Frozen q s t :=
  h.invariant (I := fun t => Integrity t ∧ Frozen q s t) ⟨hi, .refl hq⟩
    fun _ _ _ _ _ ht w => ⟨ht.1.step w, ht.2.step ht.1 taken w⟩

/-- Whatever is asked of the program, from any store that can be reached on: a quiz that was published
is still there after every further run, as one row and with the same questions and options; its row is
what it was, or what it was but for its status, which went from published to closed, and the time of
that. And where an operation deletes a quiz, the quiz is a draft, and there are no attempts at it. -/
theorem published_quizzes_are_frozen (h : Reachable P s) :
    (∀ q ∈ s.quizzes, q.status ≠ .draft → ∀ t, Run P s t →
      (∃ q' ∈ t.quizzes, Later q q' ∧ ∀ x ∈ t.quizzes, x.id = q.id → x = q') ∧ SameContent q.id s t) ∧
    ∀ ctx op, P ctx op → ∀ q ∈ s.quizzes, (∀ q' ∈ (op.after ctx s).quizzes, q'.id ≠ q.id) →
      q.status = .draft ∧ ∀ a ∈ s.attempts, a.quiz ≠ q.id := by
  obtain ⟨hi, hattempts⟩ := Attempting.integrity_of_reachable h
  constructor
  · intro q hq taken t hrun
    obtain ⟨ht, ⟨q', hq', hlater⟩, hsame⟩ := frozen_run hi hq taken hrun
    refine ⟨⟨q', hq', hlater, fun x hx hid => ?_⟩, hsame⟩
    exact ht.quizzes.eq_of_id_eq hx hq' (hid.trans hlater.id_eq.symm)
  · intro ctx op allowed q hq gone
    have draft : q.status = .draft := by
      by_contra taken
      obtain ⟨-, ⟨q', hq', hlater⟩, -⟩ := frozen_run hi hq taken (.next .done ctx op allowed)
      exact gone q' hq' hlater.id_eq
    refine ⟨draft, fun a ha hquiz => ?_⟩
    obtain ⟨x, hx, hid, taken⟩ := hattempts.quizzes a ha
    rw [hi.quizzes.eq_of_id_eq hx hq (hid.trans hquiz)] at taken
    exact taken draft

end Runs

/-- The store after another quiz is drafted beside one that two students have begun. -/
def begunBesideDraft : Store :=
  (Scenario.State.start .standard).context.serve
    [.call (.createDraft ⟨.int 1, "TEACHER"⟩
      ⟨.int 1, .text "Products", .int 10, .null, .null, .null, .null, .null, .null⟩)]
    Attempting.begunAndSubmitted

/-- Closing the published quiz leaves its content alone, and the draft is deleted. -/
theorem published_quizzes_are_frozen_of_closed :
    let ctx := (Scenario.State.start .standard).context
    let s := begunBesideDraft
    let close : Service := .call (.close ⟨.int 1, "TEACHER"⟩ (.int 1))
    let delete : Service := .call (.deleteQuiz ⟨.int 1, "TEACHER"⟩ (.int 2))
    (∃ q ∈ s.quizzes, q.status = .published ∧ SameContent q.id s (close.after ctx s) ∧
        ∃ q' ∈ (close.after ctx s).quizzes, Later q q' ∧ q'.status = .closed) ∧
      ∃ q ∈ s.quizzes, (∀ q' ∈ (delete.after ctx s).quizzes, q'.id ≠ q.id) ∧ q.status = .draft ∧
        ∀ a ∈ s.attempts, a.quiz ≠ q.id := by
  intro ctx s close delete
  have hstart : Reachable (fun _ _ => True) Attempting.begunAndSubmitted :=
    .serve (fun _ _ => trivial) _ _ _
  have h : Reachable (fun _ _ => True) s := hstart.run (.serve fun _ _ => trivial)
  obtain ⟨hfrozen, hdeleted⟩ := published_quizzes_are_frozen h
  have hpublished : ∃ q ∈ s.quizzes, q.status = .published ∧
      ∃ x ∈ (close.after ctx s).quizzes, x.id = q.id ∧ x.status = .closed := by decide +kernel
  have hdraft : ∃ q ∈ s.quizzes, ∀ q' ∈ (delete.after ctx s).quizzes, q'.id ≠ q.id := by
    decide +kernel
  obtain ⟨q, hq, hstatus, x, hx, hid, hclosed⟩ := hpublished
  obtain ⟨d, hd, hgone⟩ := hdraft
  have hrun : Run (fun _ _ => True) s (close.after ctx s) := .next .done ctx close trivial
  obtain ⟨⟨q', hq', hlater, hone⟩, hsame⟩ := hfrozen q hq (by simp [hstatus]) _ hrun
  obtain rfl := hone x hx hid
  exact ⟨⟨q, hq, hstatus, hsame, x, hq', hlater, hclosed⟩,
    d, hd, hgone, hdeleted ctx delete trivial d hd hgone⟩

end Assessment.Quiz
