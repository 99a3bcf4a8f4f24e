import Assessment.Proofs.Attempt.Writes
import Assessment.Proofs.Quiz.Writes
import Assessment.Proofs.Sync.Writes

/-!
# Runs of the program

The program is asked for calls and for work on the queue, each with a clock, settings and surroundings of
its own. Whatever it is asked for, it takes the store through `Step`s; so what every step preserves holds
in every store that a run reaches.
-/

namespace Assessment

open Access Request

/-- What the program is asked for. -/
inductive Service where
  | call (c : Call)
  | enqueue (attempt : Value)
  | runJob (job : Value)
  | syncNow (attempt : Value)
  | processPending (now limit : Value)

namespace Service

/-- The session that an operation leaves. -/
def session (ctx : Context) : Service → Session → Session
  | call c, s => (c.answer ctx s).2
  | enqueue attempt, s => (Sync.enqueue ctx attempt s).2
  | runJob job, s => (Sync.runJob ctx job s).2
  | syncNow attempt, s => (Sync.syncNow ctx attempt s).2
  | processPending now limit, s => (Sync.processPending ctx now limit s).2

/-- The store after an operation that no other writer interferes with. -/
def after (ctx : Context) (op : Service) (s : Store) : Store := (op.session ctx (.ofStore s)).store

/-- Operations that open a book where there is none. -/
def opens : Service → Bool
  | call (.openBook _) | call (.viewBook ..) | call (.addItem ..) => true
  | _ => false

/-- Who posts scores in an operation. -/
def poster? : Service → Option Caller
  | call (.postScore r) => some r.poster
  | call (.submitAttempt ..) | runJob _ | syncNow _ | processPending .. => some Sync.program
  | _ => none

/-- Operations that write into the queue. -/
def queues : Service → Bool
  | call (.submitAttempt ..) | enqueue _ | runJob _ | syncNow _ | processPending .. => true
  | _ => false

end Service

/-- One write of an operation. -/
inductive Step (ctx : Context) (s : Store) : Service → Store → Prop
  | quiz {c : Call} {s' : Store} (w : Quiz.Write ctx s c s') : Step ctx s (.call c) s'
  | attempt {c : Call} {s' : Store} (w : Attempting.Write ctx s c s') : Step ctx s (.call c) s'
  | opening {op : Service} {s' : Store} (opens : op.opens = true) (w : Gradebook.Opening ctx s s') :
      Step ctx s op s'
  | book {c : Call} {s' : Store} (w : Gradebook.Write ctx s c s') : Step ctx s (.call c) s'
  | posting {op : Service} {poster : Caller} {s' : Store} (posts : op.poster? = some poster)
      (w : Sync.Posting ctx poster s s') : Step ctx s op s'
  | queueing {op : Service} {s' : Store} (queues : op.queues = true) (w : Sync.Queueing ctx s s') :
      Step ctx s op s'

lemma Step.registration {ctx : Context} {s s' : Store} {op : Service} (w : Step ctx s op s') :
    s'.users = s.users ∧ s'.classSections = s.classSections ∧ s'.enrollments = s.enrollments := by
  cases w with
  | quiz w | attempt w | book w | opening _ w | posting _ w | queueing _ w =>
    rw [w.frame]
    exact ⟨rfl, rfl, rfl⟩

section Operations

variable {ctx : Context}

open Assessment.Action

lemma reported_takes {α : Type} {R : Store → Store → Prop} {a : Action α} (h : a.Takes R)
    (report : Store → α → Value) : (Call.reported a report).Takes R :=
  .bind h fun _ => .read _

lemma addItem_takes (caller : Caller) (r : Gradebook.ItemRequest) :
    (Gradebook.addItem ctx caller r).Takes fun s s' => Step ctx s (.call (.addItem caller r)) s' := by
  intro t ht
  refine TakesFrom.bind (Takes.read _ t ht) fun item t₁ hread ht₁ _ => ?_
  obtain ⟨hchecked, rfl⟩ := Prod.mk.inj hread
  have hopen : Takes (fun s s' => Gradebook.Opening ctx s s')
      (Action.commit (Gradebook.openBook ctx item.classSection)) :=
    .commit fun _ _ _ => Gradebook.openBook_run
  refine TakesFrom.bind (hopen.mono (fun _ _ => .opening rfl) t ht) fun _ t₂ _ ht₂ hsteps => ?_
  have hdirectory : ctx.directory t₂.store = ctx.directory t.store := by
    have := hsteps.head_induction_on (motive := fun s _ =>
      t₂.store.classSections = s.classSections ∧ t₂.store.enrollments = s.enrollments)
      ⟨rfl, rfl⟩ fun w _ ih => ⟨ih.1.trans w.registration.2.1, ih.2.trans w.registration.2.2⟩
    simp only [Context.directory, Store.directory, this]
  have hchecked' : Gradebook.checkItem ctx caller r t₂.store = .ok item := by
    simpa only [Gradebook.checkItem, hdirectory] using hchecked
  exact .commit ht₂ fun _ _ h => .inr (.book (Gradebook.enterItem_writes hchecked' h))

lemma detail_takes (caller : Caller) (classSection : Value) :
    (Gradebook.detail ctx caller classSection).Takes (Gradebook.Opening ctx) := by
  refine .bind (.read _) fun r => .ite (.bind (.commit fun _ _ _ => Gradebook.openBook_run)
    fun _ => .read _) (.ite (.read _) (.throw _))

lemma submit_takes (caller : Caller) (attempt answers now timeout : Value) :
    (Attempting.submit (Sync.onSubmitted ctx) ctx caller attempt answers now timeout).Takes
      fun s s' => Step ctx s (.call (.submitAttempt caller attempt answers now timeout)) s' := by
  refine .bind (.commit fun _ _ _ h => .inr (.attempt (Attempting.record_writes h))) fun r => ?_
  refine .bind (.send _) fun _ => .bind (.attempt ((Sync.onSubmitted_takes _).mono ?_)) fun _ => .pure _
  rintro s s' (w | w)
  · exact .posting rfl w
  · exact .queueing rfl w

lemma answer_session (c : Call) (s : Session) : (c.answer ctx s).2 = (c.run ctx s).2 := by
  unfold Call.answer
  rcases c.run ctx s with ⟨_ | _, _⟩ <;> rfl

lemma answer_of_ok {c : Call} {s : Session} {data : Option Value} (h : (c.run ctx s).1 = .ok data) :
    (c.answer ctx s).1 = data.map .success := by
  unfold Call.answer
  rcases hrun : c.run ctx s with ⟨_ | _, _⟩ <;> rw [hrun] at h <;> cases h
  rfl

lemma answer_of_error {c : Call} {s : Session} {fault : Fault} (h : (c.run ctx s).1 = .error fault) :
    (c.answer ctx s).1 = some (.failure fault.failure) := by
  unfold Call.answer
  rcases hrun : c.run ctx s with ⟨_ | _, _⟩ <;> rw [hrun] at h <;> cases h
  rfl

lemma success_of_any {outcome : Option Outcome} (h : outcome.any Outcome.isSuccess = true) :
    ∃ data, outcome = some (.success data) := by
  rcases outcome with _ | (data | _)
  · cases h
  · exact ⟨data, rfl⟩
  · cases h

lemma call_takes (c : Call) : (c.run ctx).Takes fun s s' => Step ctx s (.call c) s' := by
  have quiz {s s' : Store} {c : Call} (w : Quiz.Write ctx s c s') :
      s' = s ∨ Step ctx s (.call c) s' := .inr (.quiz w)
  cases c with
  | createDraft => exact reported_takes (.commit fun _ _ _ h => quiz (Quiz.createDraft_writes h)) _
  | addQuestion => exact reported_takes (.commit fun _ _ _ h => quiz (Quiz.addQuestion_writes h)) _
  | updateQuestion => exact reported_takes (.commit fun _ _ _ h => quiz (Quiz.updateQuestion_writes h)) _
  | deleteQuestion => exact reported_takes (.commit fun _ _ _ h => quiz (Quiz.deleteQuestion_writes h)) _
  | deleteQuiz => exact reported_takes (.commit fun _ _ _ h => quiz (Quiz.deleteQuiz_writes h)) _
  | close => exact reported_takes (.commit fun _ _ _ h => quiz (Quiz.close_writes h)) _
  | getQuestions | listForTeacher | listPublished | viewAttempt =>
    exact reported_takes (.read _) _
  | publish =>
    exact reported_takes (.bind (.commit fun _ _ _ h => quiz (Quiz.publishDraft_writes h)) fun _ =>
      .bind (.send _) fun _ => .pure _) _
  | startAttempt =>
    refine reported_takes (.bind (.commit fun _ _ _ h => .inr (.attempt ?_)) fun _ => .read _) _
    exact Attempting.beginAttempt_writes h
  | submitAttempt => exact reported_takes (submit_takes _ _ _ _ _) _
  | openBook =>
    refine reported_takes (.commit fun _ _ _ h => ?_) _
    exact (Gradebook.getOrCreate_run h).imp_right (.opening rfl)
  | viewBook => exact reported_takes ((detail_takes _ _).mono fun _ _ => .opening rfl) _
  | addItem => exact reported_takes (addItem_takes _ _) _
  | upsertScores =>
    refine reported_takes (.commit fun _ _ _ h => ?_) _
    exact (Gradebook.upsertScores_writes h).imp_right .book
  | requestApproval =>
    refine reported_takes (.bind (.commit fun _ _ _ h => .inr (.book ?_)) fun _ =>
      .bind (.send _) fun _ => .pure _) _
    exact Gradebook.openRequest_writes h
  | decide =>
    refine reported_takes (.bind (.commit fun _ _ _ h => .inr (.book ?_)) fun _ =>
      .bind (.send _) fun _ => .pure _) _
    exact Gradebook.decideRequest_writes h
  | postScore r =>
    exact .bind ((Sync.post_takes r).mono fun _ _ => .posting rfl) fun _ => .pure _

/-- Every operation takes the store through steps of its own. -/
theorem Service.steps (ctx : Context) (op : Service) (s : Store) :
    Relation.ReflTransGen (fun s s' => Step ctx s op s') s (op.after ctx s) := by
  have works {s s' : Store} (hposts : op.poster? = some Sync.program) (hqueues : op.queues = true)
      (w : Sync.Working ctx s s') : Step ctx s op s' :=
    w.elim (.posting hposts) (.queueing hqueues)
  cases op with
  | call c =>
    have h : Relation.ReflTransGen (fun s s' => Step ctx s (.call c) s') s
        (c.run ctx (.ofStore s)).2.store :=
      (call_takes c (.ofStore s) rfl).2
    rwa [← answer_session] at h
  | enqueue attempt =>
    exact ((Sync.enqueue_takes attempt).mono (fun _ _ => .queueing rfl) (.ofStore s) rfl).2
  | runJob job => exact ((Sync.runJob_takes job).mono (fun _ _ => works rfl rfl) (.ofStore s) rfl).2
  | syncNow attempt =>
    exact ((Sync.syncNow_takes attempt).mono (fun _ _ => works rfl rfl) (.ofStore s) rfl).2
  | processPending now limit =>
    exact ((Sync.processPending_takes now limit).mono (fun _ _ => works rfl rfl) (.ofStore s) rfl).2

end Operations

/-- What every step of an operation preserves holds after it. -/
theorem Service.after_invariant {ctx : Context} {op : Service} {s : Store} {I : Store → Prop}
    (start : I s) (step : ∀ s s', I s → Step ctx s op s' → I s') : I (op.after ctx s) := by
  suffices h : ∀ t, Relation.ReflTransGen (fun s s' => Step ctx s op s') s t → I t from
    h _ (op.steps ctx s)
  intro t h
  induction h with
  | refl => exact start
  | tail _ w ih => exact step _ _ ih w

/-- The stores that operations reach, each under a condition on what is asked for and in which
context. -/
inductive Run (P : Context → Service → Prop) (s : Store) : Store → Prop
  | done : Run P s s
  | next {t : Store} (h : Run P s t) (ctx : Context) (op : Service) (allowed : P ctx op) :
      Run P s (op.after ctx t)

/-- The stores that operations reach from a school without assessments. -/
def Reachable (P : Context → Service → Prop) (s : Store) : Prop :=
  ∃ users classSections enrollments, Run P (.ofSchool users classSections enrollments) s

/-- One write of any operation that is allowed. -/
def StepOf (P : Context → Service → Prop) (s s' : Store) : Prop :=
  ∃ ctx op, P ctx op ∧ Step ctx s op s'

variable {P : Context → Service → Prop} {s s' : Store}

lemma Run.steps (h : Run P s s') : Relation.ReflTransGen (StepOf P) s s' := by
  induction h with
  | done => exact .refl
  | next _ ctx op allowed ih =>
    exact ih.trans
      (Relation.ReflTransGen.mono (fun _ _ w => ⟨ctx, op, allowed, w⟩) _ _ (op.steps ctx _))

/-- What every step preserves holds in every store that a run leads to. -/
theorem Run.invariant {I : Store → Prop} (h : Run P s s') (start : I s)
    (step : ∀ ctx op s s', P ctx op → I s → Step ctx s op s' → I s') : I s' := by
  have hsteps := h.steps
  clear h
  induction hsteps with
  | refl => exact start
  | tail _ w ih =>
    obtain ⟨ctx, op, allowed, w⟩ := w
    exact step ctx op _ _ allowed ih w

/-- What a school starts with and every step preserves holds in every reachable store. -/
theorem Reachable.invariant {I : Store → Prop} (h : Reachable P s)
    (start : ∀ users classSections enrollments, I (.ofSchool users classSections enrollments))
    (step : ∀ ctx op s s', P ctx op → I s → Step ctx s op s' → I s') : I s := by
  obtain ⟨users, classSections, enrollments, h⟩ := h
  exact h.invariant (start users classSections enrollments) step

lemma Run.mono {Q : Context → Service → Prop} (h : Run P s s') (hpq : ∀ ctx op, P ctx op → Q ctx op) :
    Run Q s s' := by
  induction h with
  | done => exact .done
  | next _ ctx op allowed ih => exact .next ih ctx op (hpq ctx op allowed)

lemma Run.trans {u : Store} (h : Run P s s') (h' : Run P s' u) : Run P s u := by
  induction h' with
  | done => exact h
  | next _ ctx op allowed ih => exact .next ih ctx op allowed

lemma Reachable.run (h : Reachable P s) (h' : Run P s s') : Reachable P s' := by
  obtain ⟨users, classSections, enrollments, h⟩ := h
  exact ⟨users, classSections, enrollments, h.trans h'⟩

lemma Reachable.after (h : Reachable P s) (ctx : Context) (op : Service) :
    Reachable (fun _ _ => True) (op.after ctx s) := by
  obtain ⟨users, classSections, enrollments, h⟩ := h
  exact ⟨users, classSections, enrollments, .next (h.mono fun _ _ _ => trivial) ctx op trivial⟩

/-- The store after operations in one context. -/
def Context.serve (ctx : Context) (ops : List Service) (s : Store) : Store :=
  ops.foldl (fun s op => op.after ctx s) s

lemma Run.serve {ctx : Context} {ops : List Service} (h : ∀ op ∈ ops, P ctx op) :
    Run P s (ctx.serve ops s) := by
  induction ops using List.reverseRecOn with
  | nil => exact .done
  | append_singleton ops op ih =>
    rw [Context.serve, List.foldl_append]
    exact .next (ih fun o ho => h o (List.mem_append_left _ ho)) ctx op
      (h op (List.mem_append_right _ (List.mem_singleton_self op)))

lemma Reachable.serve {ctx : Context} {ops : List Service} (h : ∀ op ∈ ops, P ctx op)
    (users : List User) (classSections : List ClassSection) (enrollments : List Enrollment) :
    Reachable P (ctx.serve ops (.ofSchool users classSections enrollments)) :=
  ⟨users, classSections, enrollments, .serve h⟩

end Assessment
