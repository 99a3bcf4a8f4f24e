import Assessment.Proofs.Attempt.Integrity
import Assessment.Proofs.Attempt.Scores
import Assessment.Proofs.Failures

/-!
# Submissions are final

The row of an attempt changes once, when its student submits it. Every step of every operation is either
that submission or leaves the attempt and its selections alone; so what was submitted stays, and whoever
submits it again is refused.
-/

namespace Assessment.Attempting

open Access Quiz Request Table

/-- What becomes of the row of an attempt: nothing, or it is submitted. -/
def Progress (a a' : Attempt) : Prop :=
  a' = a ∨ a.status = .inProgress ∧ ∃ b late now, a' = submitted b late now a

/-- An attempt and its selections are the same in two stores. -/
structure Untouched (a : Attempt) (s t : Store) : Prop where
  row : a ∈ t.attempts
  selections : t.selectionsOf a.id = s.selectionsOf a.id

/-- The student of an attempt, who acts as a student, submits it. -/
def SubmittedBy (a : Attempt) (c : Call) : Prop :=
  ∃ caller attempt answers now timeout, c = .submitAttempt caller attempt answers now timeout ∧
    caller.actsAs .student = true ∧ caller.id.equals (.int a.student) = .ok true ∧
    readPositive "Attempt id" attempt = .ok a.id

section Steps

variable {ctx : Context} {op : Service} {a a' a'' : Attempt} {s t u : Store}

lemma Progress.id_eq (h : Progress a a') : a'.id = a.id := by
  rcases h with rfl | ⟨-, b, late, now, rfl⟩ <;> rfl

lemma Progress.trans (h : Progress a a') (h' : Progress a' a'') : Progress a a'' := by
  rcases h with rfl | ⟨running, b, late, now, rfl⟩
  · exact h'
  · rcases h' with rfl | ⟨running', -⟩
    · exact .inr ⟨running, b, late, now, rfl⟩
    · cases running'

lemma Untouched.refl (ha : a ∈ s.attempts) : Untouched a s s := ⟨ha, rfl⟩

lemma Untouched.trans (h : Untouched a s t) (h' : Untouched a t u) : Untouched a s u :=
  ⟨h'.row, h'.selections.trans h.selections⟩

lemma untouched_of_eq (ha : a ∈ s.attempts) (attempts : t.attempts = s.attempts)
    (selections : t.selections = s.selections) : Untouched a s t :=
  ⟨attempts ▸ ha, by rw [Store.selectionsOf, selections]; rfl⟩

lemma Write.touches (hi : Integrity s) (ha : a ∈ s.attempts) {c : Call} (w : Write ctx s c t) :
    Untouched a s t ∨ SubmittedBy a c ∧ a.status = .inProgress ∧
      ∃ b late now, submitted b late now a ∈ t.attempts := by
  cases w with
  | start => exact .inl ⟨List.mem_append_left _ ha, rfl⟩
  | @submit caller attempt answers now timeout x q given submittedAt ends b found running =>
    obtain ⟨hx, hrole, hself, hnamed, -⟩ := own_eq_ok found
    by_cases hid : a.id = x.id
    · obtain rfl : a = x := hi.attempts.eq_of_id_eq ha hx hid
      have hby : SubmittedBy a (.submitAttempt caller attempt answers now timeout) :=
        ⟨caller, attempt, answers, now, timeout, rfl, hrole, hself, hnamed⟩
      exact .inr ⟨hby, running, b, _, _, (mem_modify hi.attempts hx).mpr (.inl rfl)⟩
    · obtain ⟨new, hnew, hof, -⟩ := append_selectionRows s.selections x.id b.graded
      have hnone : new.filter (·.attempt == a.id) = [] :=
        List.filter_eq_nil_iff.mpr fun r hr => by simpa [hof r hr] using Ne.symm hid
      refine .inl ⟨(mem_modify hi.attempts hx).mpr (.inr ⟨ha, hid⟩), ?_⟩
      rw [Store.selectionsOf, hnew, List.filter_append, hnone, List.append_nil]
      rfl

lemma touches_of_step (hi : Integrity s) (ha : a ∈ s.attempts) (w : Step ctx s op t) :
    Untouched a s t ∨ (∃ c, op = .call c ∧ SubmittedBy a c) ∧ a.status = .inProgress ∧
      ∃ b late now, submitted b late now a ∈ t.attempts := by
  cases w with
  | @attempt c _ w => exact (w.touches hi ha).imp_right fun h => ⟨⟨c, rfl, h.1⟩, h.2⟩
  | quiz w | book w | opening _ w | posting _ w | queueing _ w =>
    refine .inl (untouched_of_eq ha ?_ ?_)
    all_goals rw [w.frame]

lemma progress_of_step (hi : Integrity s) (ha : a ∈ s.attempts) (w : Step ctx s op t) :
    ∃ a' ∈ t.attempts, Progress a a' := by
  rcases touches_of_step hi ha w with h | ⟨-, running, b, late, now, hmem⟩
  · exact ⟨a, h.row, .inl rfl⟩
  · exact ⟨_, hmem, .inr ⟨running, b, late, now, rfl⟩⟩

lemma untouched_of_step (hi : Integrity s) (ha : a ∈ s.attempts) (done : a.status = .submitted)
    (w : Step ctx s op t) : Untouched a s t := by
  rcases touches_of_step hi ha w with h | ⟨-, running, -⟩
  · exact h
  · cases running.symm.trans done

end Steps

section Refusals

variable {ctx : Context} {caller : Caller} {a : Attempt} {s : Store} {attempt answers now timeout : Value}

lemma own_of_student (hi : Integrity s) (ha : a ∈ s.attempts) (storable : isStorable a.id = true)
    (named : readPositive "Attempt id" attempt = .ok a.id) (role : caller.actsAs .student = true)
    (self : caller.id.equals (.int a.student) = .ok true) : own caller attempt s = .ok a := by
  have hfind : Table.find? a.id s.attempts = some a := find?_of_mem hi.attempts ha
  simp only [own, bind_eq_ok, readRow?, when_eq_ok, Except.ok.injEq]
  exact ⟨a.id, named, some a, ⟨storable, hfind⟩, by simp [role, self]⟩

lemma record_ne_ok (hi : Integrity s) (ha : a ∈ s.attempts) (done : a.status = .submitted)
    (named : readPositive "Attempt id" attempt = .ok a.id)
    (d : Decision (Attempt × SubmissionResult)) :
    record ctx caller attempt answers now timeout s ≠ .ok d := by
  intro h
  simp only [record, bind_eq_ok, guard_eq_ok, ne_eq, not_not] at h
  obtain ⟨_, -, x, hown, hrunning, -⟩ := h
  have hid : x.id = a.id := Except.ok.inj ((own_named hown).1.symm.trans named)
  rw [hi.attempts.eq_of_id_eq (own_eq_ok hown).1 ha hid, done] at hrunning
  cases hrunning

lemma record_of_submitted (found : own caller attempt s = .ok a) (done : a.status = .submitted) :
    record ctx caller attempt answers now .null s = .error (.refused .alreadySubmitted) := by
  have hdeadline : readDeadline? ctx.now .null = .ok none := rfl
  simp only [record, hdeadline, found, bind, Except.bind, done, ne_eq, reduceCtorEq,
    not_false_eq_true, if_true]
  rfl

lemma answer_of_refused {σ : Session} {fault : Fault}
    (h : record ctx caller attempt answers now timeout σ.store = .error fault) :
    ((Call.submitAttempt caller attempt answers now timeout).answer ctx σ).1 =
      some (.failure fault.failure) := by
  have hcommit : Action.commit (record ctx caller attempt answers now timeout) σ =
      (.error fault, σ) := by
    unfold Action.commit
    rw [h]
  have hsubmit : submit (Sync.onSubmitted ctx) ctx caller attempt answers now timeout σ =
      (.error fault, σ) := Action.bind_of_error hcommit
  have hrun : (Call.submitAttempt caller attempt answers now timeout).run ctx σ =
      (.error fault, σ) := Action.bind_of_error hsubmit
  exact answer_of_error (by rw [hrun])

/-- An attempt that was submitted is not submitted again, in whatever session and by whomever; its student
learns that it already was. -/
lemma resubmission_fails (hi : Integrity s) (ha : a ∈ s.attempts) (done : a.status = .submitted)
    {σ : Session} (hs : σ.store = s) (named : readPositive "Attempt id" attempt = .ok a.id) :
    ∃ f, ((Call.submitAttempt caller attempt answers now timeout).answer ctx σ).1 =
        some (.failure f) ∧
      (caller.actsAs .student = true → caller.id.equals (.int a.student) = .ok true →
        timeout = .null → f.kind = .conflict) := by
  cases h : record ctx caller attempt answers now timeout σ.store with
  | ok d =>
    rw [hs] at h
    exact absurd h (record_ne_ok hi ha done named d)
  | error fault =>
    refine ⟨_, answer_of_refused h, ?_⟩
    rintro role self rfl
    have hown := own_of_student hi ha (hi.storable a ha done) named role self
    rw [hs, record_of_submitted hown done] at h
    cases h
    rfl

end Refusals

section Runs

variable {P : Context → Service → Prop} {s t : Store} {a : Attempt}

lemma run_keeps {I : Store → Prop} (hi : Quiz.Integrity s ∧ Integrity s) (start : I s)
    (step : ∀ ctx op t u, Integrity t → I t → Step ctx t op u → I u) (h : Run P s t) :
    Integrity t ∧ I t := by
  refine (h.invariant (I := fun t => Quiz.Integrity t ∧ Integrity t ∧ I t) ⟨hi.1, hi.2, start⟩
    fun ctx op t u _ ht w => ?_).2
  exact ⟨ht.1.step w, ht.2.1.step ht.1 w, step ctx op t u ht.2.1 ht.2.2 w⟩

lemma progress_of_run (hi : Quiz.Integrity s ∧ Integrity s) (ha : a ∈ s.attempts) (h : Run P s t) :
    Integrity t ∧ ∃ a' ∈ t.attempts, Progress a a' := by
  refine run_keeps (I := fun t => ∃ a' ∈ t.attempts, Progress a a') hi ⟨a, ha, .inl rfl⟩
    (fun ctx op t u ht hrow w => ?_) h
  obtain ⟨a', ha', hp⟩ := hrow
  obtain ⟨a'', ha'', hp'⟩ := progress_of_step ht ha' w
  exact ⟨a'', ha'', hp.trans hp'⟩

lemma untouched_of_run (hi : Quiz.Integrity s ∧ Integrity s) (ha : a ∈ s.attempts)
    (done : a.status = .submitted) (h : Run P s t) : Integrity t ∧ Untouched a s t :=
  run_keeps hi (.refl ha) (fun _ _ _ _ ht hu w => hu.trans (untouched_of_step ht hu.row done w)) h

/-- An operation that touches an attempt is its submission, and it succeeds. -/
lemma submitted_of_touched (hi : Quiz.Integrity s ∧ Integrity s) (ha : a ∈ s.attempts) (ctx : Context)
    (op : Service) : Untouched a s (op.after ctx s) ∨ ∃ c, op = .call c ∧ SubmittedBy a c ∧
      ∃ data, (c.answer ctx (.ofStore s)).1 = some (.success data) := by
  have htouches : Untouched a s (op.after ctx s) ∨ ∃ c, op = .call c ∧ SubmittedBy a c := by
    refine (Service.after_invariant (I := fun t => (Quiz.Integrity t ∧ Integrity t) ∧
      (Untouched a s t ∨ ∃ c, op = .call c ∧ SubmittedBy a c)) ⟨hi, .inl (.refl ha)⟩
      fun t u ht w => ⟨⟨ht.1.1.step w, ht.1.2.step ht.1.1 w⟩, ?_⟩).2
    rcases ht.2 with hu | hby
    · exact (touches_of_step ht.1.2 hu.row w).imp hu.trans And.left
    · exact .inr hby
  rcases htouches with hu | ⟨c, rfl, hby⟩
  · exact .inl hu
  obtain ⟨caller, attempt, answers, now, timeout, rfl, -⟩ := id hby
  rcases Call.keepsStore ctx (.submitAttempt caller attempt answers now timeout) with
    hkeeps | ⟨_, _, _, hcall⟩ | ⟨_, _, hcall⟩
  · by_cases hyields : Yields ((Call.submitAttempt caller attempt answers now timeout).run ctx
      (.ofStore s)).1
    · obtain ⟨data, hdata⟩ := hyields
      exact .inr ⟨_, rfl, hby, data, answer_of_ok hdata⟩
    · have hsame := (hkeeps (.ofStore s) rfl).2 hyields
      rw [← answer_session] at hsame
      refine .inl (untouched_of_eq ha ?_ ?_)
      all_goals exact congrArg _ hsame
  · cases hcall
  · cases hcall

/-- Whatever is asked of the program, from any store that can be reached on: no attempt is ever removed,
and of its row nothing becomes but that it is submitted; an attempt that was submitted keeps its row and
its selections through every further run, after which every submission of it fails, with a conflict when
its student makes it without an allowance of time; and an operation that changes an attempt in progress
is a submission by its student, which succeeds. -/
theorem submissions_are_final (h : Reachable P s) :
    (∀ a ∈ s.attempts, ∀ t, Run P s t →
      ∃ a' ∈ t.attempts, Progress a a' ∧ ∀ x ∈ t.attempts, x.id = a.id → x = a') ∧
    (∀ a ∈ s.attempts, a.status = .submitted → ∀ t, Run P s t → Untouched a s t ∧
      ∀ (ctx : Context) (σ : Session) (caller : Caller) (attempt answers now timeout : Value),
        σ.store = t → readPositive "Attempt id" attempt = .ok a.id →
        ∃ f, ((Call.submitAttempt caller attempt answers now timeout).answer ctx σ).1 =
            some (.failure f) ∧
          (caller.actsAs .student = true → caller.id.equals (.int a.student) = .ok true →
            timeout = .null → f.kind = .conflict)) ∧
    ∀ a ∈ s.attempts, a.status = .inProgress → ∀ ctx op, P ctx op →
      Untouched a s (op.after ctx s) ∨ ∃ c, op = .call c ∧ SubmittedBy a c ∧
        ∃ data, (c.answer ctx (.ofStore s)).1 = some (.success data) := by
  have hi := integrity_of_reachable h
  refine ⟨fun a ha t hrun => ?_, fun a ha done t hrun => ?_, fun a ha _ ctx op _ => ?_⟩
  · obtain ⟨ht, a', ha', hp⟩ := progress_of_run hi ha hrun
    exact ⟨a', ha', hp, fun x hx hid => ht.attempts.eq_of_id_eq hx ha' (hid.trans hp.id_eq.symm)⟩
  · obtain ⟨ht, hu⟩ := untouched_of_run hi ha done hrun
    exact ⟨hu, fun ctx σ caller attempt answers now timeout hs named =>
      resubmission_fails ht hu.row done hs named⟩
  · exact submitted_of_touched hi ha ctx op

end Runs

/-- The student who has submitted submits again, after the quiz is closed; the other one submits. -/
theorem submissions_are_final_of_submitted :
    let ctx := (Scenario.State.start .standard).context
    let s := begunAndSubmitted
    let t := ctx.serve [.call (.close ⟨.int 1, "TEACHER"⟩ (.int 1)), .processPending .null .null] s
    let again : Call := .submitAttempt ⟨.int 4, "STUDENT"⟩ (.int 1) (.list []) .null .null
    let other : Service := .call (.submitAttempt ⟨.int 5, "STUDENT"⟩ (.int 2) (.list []) .null .null)
    (∃ a ∈ s.attempts, a.status = .submitted ∧ Untouched a s t ∧
        ∃ f, (again.answer ctx (.ofStore t)).1 = some (.failure f) ∧ f.kind = .conflict) ∧
      ∃ a ∈ s.attempts, a.status = .inProgress ∧
        (∃ a' ∈ (other.after ctx s).attempts, Progress a a' ∧ a'.status = .submitted) ∧
        ∃ c, other = .call c ∧ SubmittedBy a c ∧
          ∃ data, (c.answer ctx (.ofStore s)).1 = some (.success data) := by
  intro ctx s t again other
  have h : Reachable (fun _ _ => True) s := .serve (fun _ _ => trivial) _ _ _
  obtain ⟨hprogress, hfinal, hchanges⟩ := submissions_are_final h
  have hdone : ∃ a ∈ s.attempts, a.status = .submitted ∧
      readPositive "Attempt id" (.int 1) = .ok a.id ∧
      Value.equals (.int 4) (.int a.student) = .ok true := by decide +kernel
  have hrunning : ∃ a ∈ s.attempts, a.status = .inProgress ∧ a ∉ (other.after ctx s).attempts ∧
      ∃ x ∈ (other.after ctx s).attempts, x.id = a.id ∧ x.status = .submitted := by decide +kernel
  obtain ⟨a, ha, done, named, self⟩ := hdone
  obtain ⟨b, hb, running, hgone, x, hx, hid, hsubmitted⟩ := hrunning
  constructor
  · have hrun : Run (fun _ _ => True) s t := .serve fun _ _ => trivial
    clear_value t
    obtain ⟨hu, hfails⟩ := hfinal a ha done t hrun
    obtain ⟨f, hf, hconflict⟩ := hfails ctx (.ofStore t) ⟨.int 4, "STUDENT"⟩ (.int 1) (.list []) .null
      .null rfl named
    exact ⟨a, ha, done, hu, f, hf, hconflict (by decide) self rfl⟩
  · have hrun : Run (fun _ _ => True) s (other.after ctx s) := .next .done ctx other trivial
    obtain ⟨b', hb', hp, hone⟩ := hprogress b hb _ hrun
    obtain rfl := hone x hx hid
    rcases hchanges b hb running ctx other trivial with hu | hby
    · exact absurd hu.row hgone
    · exact ⟨b, hb, running, ⟨x, hb', hp, hsubmitted⟩, hby⟩

end Assessment.Attempting
