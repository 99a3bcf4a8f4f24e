import Assessment.Proofs.Attempt.Isolation

/-!
# Histories

A history is a run with all that was sent on the way. Four calls send a signal, one each, when the
transaction that they make has succeeded; after that nothing of them can fail. No other operation sends
anything, so an operation that fails has sent nothing.
-/

namespace Assessment

open Access Gradebook Sync

namespace Service

/-- What an operation sends. -/
def sends (ctx : Context) (op : Service) (s : Store) : List Signal := (op.session ctx (.ofStore s)).sent

/-- Operations that send a signal when they succeed. -/
def announces : Service → Bool
  | call (.publish ..) | call (.submitAttempt ..) | call (.requestApproval ..) | call (.decide ..) => true
  | _ => false

end Service

/-- The stores that operations reach, each with all that was sent on the way to it. -/
inductive History (P : Context → Service → Prop) (s : Store) : List Signal → Store → Prop
  | done : History P s [] s
  | next {log : List Signal} {t : Store} (h : History P s log t) (ctx : Context) (op : Service)
      (allowed : P ctx op) : History P s (log ++ op.sends ctx t) (op.after ctx t)

/-- What operations in one context send. -/
def Context.log (ctx : Context) : List Service → Store → List Signal
  | [], _ => []
  | op :: ops, s => op.sends ctx s ++ ctx.log ops (op.after ctx s)

namespace History

variable {P : Context → Service → Prop} {s t u : Store} {log log' : List Signal}

lemma run (h : History P s log t) : Run P s t := by
  induction h with
  | done => exact .done
  | next _ ctx op allowed ih => exact .next ih ctx op allowed

lemma trans (h : History P s log t) (h' : History P t log' u) : History P s (log ++ log') u := by
  induction h' with
  | done => rwa [List.append_nil]
  | next _ ctx op allowed ih =>
    rw [← List.append_assoc]
    exact .next ih ctx op allowed

lemma serve {ctx : Context} {ops : List Service} (h : ∀ op ∈ ops, P ctx op) :
    History P s (ctx.log ops s) (ctx.serve ops s) := by
  induction ops generalizing s with
  | nil => exact .done
  | cons op ops ih =>
    have hfirst : History P s ([] ++ op.sends ctx s) (op.after ctx s) :=
      .next .done ctx op (h op (List.mem_cons_self ..))
    exact hfirst.trans (ih fun o ho => h o (List.mem_cons_of_mem _ ho))

end History

namespace Action

variable {α β : Type}

/-- An action that has sent nothing when it fails, whatever other writers do. -/
def Discreet (a : Action α) : Prop := ∀ s fault, (a s).1 = .error fault → (a s).2.sent = s.sent

lemma Silent.discreet {a : Action α} (h : a.Silent) : a.Discreet := fun s _ _ => h s

lemma Discreet.followed {x : Action α} {f : α → Action β} (hx : x.Discreet)
    (hf : ∀ a s, ∃ b, (f a s).1 = .ok b) : (x >>= f).Discreet := by
  intro s fault h
  rcases hrun : x s with ⟨r, t⟩
  cases r with
  | error e =>
    rw [bind_of_error hrun]
    have hsent := hx s e (congrArg Prod.fst hrun)
    rwa [hrun] at hsent
  | ok a =>
    obtain ⟨b, hb⟩ := hf a t
    rw [bind_of_ok hrun, hb] at h
    cases h

end Action

section Silence

open Assessment.Action

variable {ctx : Context} {α : Type}

lemma reported_silent {a : Action α} (h : a.Silent) (report : Store → α → Value) :
    (Call.reported a report).Silent := h.bind fun _ => .read _

lemma detail_silent (caller : Caller) (classSection : Value) :
    (Gradebook.detail ctx caller classSection).Silent :=
  .bind (.read _) fun _ => .ite (.bind (.commit _) fun _ => .read _) (.ite (.read _) (.throw _))

lemma addItem_silent (caller : Caller) (r : ItemRequest) : (Gradebook.addItem ctx caller r).Silent :=
  .bind (.read _) fun _ => .bind (.commit _) fun _ => .commit _

lemma runJobs_silent (counts : PassCounts) (jobs : List Int) : (runJobs ctx counts jobs).Silent := by
  induction jobs generalizing counts with
  | nil => exact .pure _
  | cons job jobs ih =>
    refine .bind (runJob_silent _) fun result => ?_
    cases result with
    | none => exact ih _
    | some _ => exact .bind (.read _) fun _ => ih _

lemma processPending_silent (now limit : Value) : (processPending ctx now limit).Silent :=
  .bind (.read _) fun _ => .bind (.read _) fun _ => .bind (.read _) fun _ => runJobs_silent _ _

lemma call_silent {c : Call} (quiet : (Service.call c).announces = false) : (c.run ctx).Silent := by
  cases c with
  | publish | submitAttempt | requestApproval | decide => cases quiet
  | getQuestions | listForTeacher | listPublished | viewAttempt => exact reported_silent (.read _) _
  | createDraft | addQuestion | updateQuestion | deleteQuestion | deleteQuiz | close | openBook
    | upsertScores => exact reported_silent (.commit _) _
  | startAttempt => exact reported_silent (.bind (.commit _) fun _ => .read _) _
  | viewBook => exact reported_silent (detail_silent _ _) _
  | addItem => exact reported_silent (addItem_silent _ _) _
  | postScore r => exact .bind (post_silent r) fun _ => .pure _

lemma Service.sends_eq_nil {op : Service} (quiet : op.announces = false) (s : Store) :
    op.sends ctx s = [] := by
  cases op with
  | call c =>
    change (c.answer ctx (.ofStore s)).2.sent = []
    rw [answer_session]
    exact call_silent quiet (.ofStore s)
  | enqueue attempt => exact Silent.commit _ (.ofStore s)
  | runJob job => exact runJob_silent job (.ofStore s)
  | syncNow attempt => exact syncNow_silent attempt (.ofStore s)
  | processPending now limit => exact processPending_silent now limit (.ofStore s)

end Silence

section Announcements

open Assessment.Action

variable {ctx : Context} {α : Type} {s : Store}

lemma announced_discreet (t : Transaction α) (signal : α → Signal) :
    (do
      let r ← Action.commit t
      Action.send (signal r)
      return r : Action α).Discreet :=
  (Silent.commit t).discreet.followed fun r _ => ⟨r, rfl⟩

lemma submit_discreet (caller : Caller) (attempt answers now timeout : Value) :
    (Attempting.submit (onSubmitted ctx) ctx caller attempt answers now timeout).Discreet :=
  (Silent.commit _).discreet.followed fun r _ => ⟨r.2, rfl⟩

lemma reported_discreet {a : Action α} (h : a.Discreet) (report : Store → α → Value) :
    (Call.reported a report).Discreet := h.followed fun r s => ⟨some (report s.store r), rfl⟩

lemma call_discreet (c : Call) : (c.run ctx).Discreet := by
  cases c with
  | publish | requestApproval | decide => exact reported_discreet (announced_discreet _ _) _
  | submitAttempt => exact reported_discreet (submit_discreet _ _ _ _ _) _
  | _ => exact (call_silent rfl).discreet

lemma sent_of_failure {c : Call} {σ : Session} {f : Failure}
    (h : (c.answer ctx σ).1 = some (.failure f)) : (c.answer ctx σ).2.sent = σ.sent := by
  rw [answer_session]
  cases hrun : (c.run ctx σ).1 with
  | error fault => exact call_discreet c σ fault hrun
  | ok data =>
    rw [answer_of_ok hrun] at h
    cases data <;> cases h

lemma announced_sends {c : Call} {t : Transaction α} {signal : α → Signal} {report : Store → α → Value}
    (run : c.run ctx = Call.reported (do
      let r ← Action.commit t
      Action.send (signal r)
      return r) report) (s : Store) :
    (Service.call c).sends ctx s = [] ∧ (Service.call c).after ctx s = s ∨
      ∃ r s', t.run s = .ok (r, s') ∧ (Service.call c).sends ctx s = [signal r] ∧
        (Service.call c).after ctx s = s' := by
  have hsession : (Service.call c).session ctx (.ofStore s) = (c.run ctx (.ofStore s)).2 :=
    answer_session c _
  unfold Service.sends Service.after
  rw [hsession, run]
  cases ht : t.run s with
  | error fault =>
    have hcommit := commit_of_error (s := .ofStore s) rfl ht
    unfold Call.reported
    rw [bind_of_error (bind_of_error hcommit)]
    exact .inl ⟨rfl, rfl⟩
  | ok result =>
    obtain ⟨r, s'⟩ := result
    have hcommit := commit_of_ok (s := .ofStore s) rfl ht
    have hannounced : (do
        let r ← Action.commit t
        Action.send (signal r)
        return r : Action α) (.ofStore s) = (.ok r, ⟨s', [], [signal r]⟩) := bind_of_ok hcommit
    unfold Call.reported
    rw [bind_of_ok hannounced]
    exact .inr ⟨r, s', rfl, rfl, rfl⟩

/-- A submission sends what it records, or has done nothing; what follows it is work on gradebooks and the
queue. -/
lemma submission_sends (ctx : Context) (caller : Caller) (attempt answers now timeout : Value) (s : Store) :
    let op := Service.call (.submitAttempt caller attempt answers now timeout)
    op.sends ctx s = [] ∧ op.after ctx s = s ∨
      ∃ a r s', (Attempting.record ctx caller attempt answers now timeout).run s = .ok ((a, r), s') ∧
        op.sends ctx s = [Attempting.submissionSignal caller a r] ∧
        Relation.ReflTransGen (Working ctx) s' (op.after ctx s) := by
  intro op
  rcases hrecord : (Attempting.record ctx caller attempt answers now timeout).run s with
    fault | ⟨⟨a, r⟩, s'⟩
  · have hanswer := congrArg Prod.snd (Attempting.submit_of_error hrecord)
    exact .inl ⟨congrArg Session.sent hanswer, congrArg Session.store hanswer⟩
  · have hanswer := congrArg Prod.snd (Attempting.submit_of_ok hrecord)
    have hsent : op.sends ctx s = _ := congrArg Session.sent hanswer
    have hafter : op.after ctx s = _ := congrArg Session.store hanswer
    refine .inr ⟨a, r, s', rfl, ?_, ?_⟩
    · rw [hsent]
      exact onSubmitted_silent a.id _
    · rw [hafter]
      exact (onSubmitted_takes a.id ⟨s', [], [Attempting.submissionSignal caller a r]⟩ rfl).2

end Announcements

end Assessment
