import Assessment.Proofs.Attempt.Finality
import Assessment.Proofs.Quiz.Freezing

/-!
# What selections name

A selection is of a question of the quiz that its attempt is at, and it selects one of the options of that
question or none. An attempt is at a quiz that was published, whose content stays; so what a selection
names is never removed, and no other row ever takes its number.
-/

namespace Assessment.Attempting

open Quiz Table

/-- The attempt, the question and the option that a selection names are there and belong together. -/
def Grounded (s : Store) (r : Selection) : Prop :=
  ∃ a ∈ s.attempts, a.id = r.attempt ∧ ∃ k ∈ s.questions, k.id = r.question ∧ k.quiz = a.quiz ∧
    ∀ o, r.selected = some o → ∃ x ∈ s.options, x.id = o ∧ x.question = k.id

section Steps

variable {ctx : Context} {op : Service} {s t : Store} {r : Selection}

lemma Progress.quiz_eq {a a' : Attempt} (h : Progress a a') : a'.quiz = a.quiz := by
  rcases h with rfl | ⟨-, b, late, now, rfl⟩ <;> rfl

lemma Progress.classSection_eq {a a' : Attempt} (h : Progress a a') : a'.classSection = a.classSection := by
  rcases h with rfl | ⟨-, b, late, now, rfl⟩ <;> rfl

lemma Progress.enrollment_eq {a a' : Attempt} (h : Progress a a') : a'.enrollment = a.enrollment := by
  rcases h with rfl | ⟨-, b, late, now, rfl⟩ <;> rfl

lemma Grounded.step (h : Grounded s r) (hi : Quiz.Integrity s) (ha : Integrity s) (w : Step ctx s op t) :
    Grounded t r := by
  obtain ⟨a, hmem, hid, k, hk, hkid, hquiz, hselected⟩ := h
  obtain ⟨a', ha', hprogress⟩ := progress_of_step ha hmem w
  obtain ⟨q, hq, hqid, taken⟩ := ha.quizzes a hmem
  have hsame := (frozen_step hi hq taken w).content
  rw [hqid] at hsame
  have hk' : k ∈ t.questions.filter (·.quiz == a.quiz) := by
    rw [hsame.questions]
    exact List.mem_filter.mpr ⟨hk, beq_iff_eq.mpr hquiz⟩
  refine ⟨a', ha', hprogress.id_eq.trans hid, k, (List.mem_filter.mp hk').1, hkid,
    hquiz.trans hprogress.quiz_eq.symm, fun o ho => ?_⟩
  obtain ⟨x, hx, hxid, hxk⟩ := hselected o ho
  have hx' : x ∈ t.options.filter (·.question == k.id) := by
    rw [hsame.options k hk hquiz]
    exact List.mem_filter.mpr ⟨hx, beq_iff_eq.mpr hxk⟩
  exact ⟨x, (List.mem_filter.mp hx').1, hxid, hxk⟩

lemma grounded_of_marks {a : Attempt} {q : Quiz} {g : GradedSelection} (ha : a ∈ s.attempts)
    (quiz : q.id = a.quiz) (marks : ∃ key ∈ answerKey s q.id, Marks key g) (attempt : r.attempt = a.id)
    (graded : r.graded = g) : Grounded s r := by
  obtain ⟨key, hkey, hmarks⟩ := marks
  obtain ⟨k, hk, rfl⟩ := List.mem_map.mp hkey
  obtain ⟨hk, hkq⟩ := mem_questionsOf.mp hk
  subst graded
  refine ⟨a, ha, attempt.symm, k, hk, hmarks.question.symm, hkq.trans quiz, fun o ho => ?_⟩
  obtain ⟨x, hx, hxid⟩ := List.mem_map.mp (hmarks.selected o ho)
  obtain ⟨hx, hxk⟩ := List.mem_filter.mp (mem_sortBy.mp hx)
  exact ⟨x, hx, hxid, eq_of_beq hxk⟩

/-- The selections that a step adds are grounded where it starts. -/
lemma grounded_before (h : ∀ r ∈ s.selections, Grounded s r) (w : Step ctx s op t) (hr : r ∈ t.selections) :
    Grounded s r := by
  cases w with
  | attempt w =>
    cases w with
    | start => exact h r hr
    | @submit _ _ _ _ _ a q _ _ _ b found _ given _ quiz _ graded =>
      obtain ⟨new, hnew, hof, hcontents⟩ := append_selectionRows s.selections a.id b.graded
      rw [hnew] at hr
      rcases List.mem_append.mp hr with hr | hr
      · exact h r hr
      · have hfits := grade_fits (readSelections_nodup given) graded
        have hgraded : r.graded ∈ b.graded := hcontents ▸ List.mem_map_of_mem hr
        exact grounded_of_marks (own_eq_ok found).1 (quizOf_eq_ok quiz).2 (hfits.marks _ hgraded) (hof r hr)
          rfl
  | quiz w | book w | opening _ w | posting _ w | queueing _ w =>
    rw [w.frame] at hr
    exact h r hr

/-- What selections name is there in every store that can be reached. -/
theorem grounded_of_reachable {P : Context → Service → Prop} (h : Reachable P s) :
    ∀ r ∈ s.selections, Grounded s r := by
  refine (h.invariant
    (I := fun s => (Quiz.Integrity s ∧ Integrity s) ∧ ∀ r ∈ s.selections, Grounded s r)
    (fun users sections enrollments => ?_) fun ctx op s t _ hs w => ?_).2
  · exact ⟨⟨Quiz.integrity_ofSchool users sections enrollments,
      integrity_ofSchool users sections enrollments⟩, fun r hr => absurd hr List.not_mem_nil⟩
  · obtain ⟨⟨hi, ha⟩, hgrounded⟩ := hs
    exact ⟨⟨hi.step w, ha.step hi w⟩, fun r hr => (grounded_before hgrounded w hr).step hi ha w⟩

end Steps

end Assessment.Attempting
