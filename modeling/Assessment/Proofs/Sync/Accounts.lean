import Assessment.Proofs.Attempt.Isolation
import Assessment.Proofs.Gradebook.Log
import Assessment.Proofs.Sync.Results

/-!
# The scores that operations post

An operation posts scores when it is asked to, when an attempt is submitted, and when jobs are run. What is
posted on the way accounts for every score that the operation writes, a batch apart that a teacher enters.
-/

namespace Assessment

open Access Assessment.Action Request Attempting Gradebook Sync Table

/-- The scores that an operation posts, as far as it gets. -/
def Service.posts (ctx : Context) : Service → Store → List Posted
  | .call (.postScore r), s => (post ctx r (.ofStore s)).1.toOption.join.toList
  | .call (.submitAttempt caller attempt answers now timeout), s =>
    match (record ctx caller attempt answers now timeout).run s with
    | .ok ((a, r), t) =>
      if ctx.settings.eager.truthy then
        (posted? (Sync.syncNow ctx (.int a.id) ⟨t, [], [submissionSignal caller a r]⟩).1).toList
      else []
    | .error _ => []
  | .runJob job, s => (posted? (Sync.runJob ctx job (.ofStore s)).1).toList
  | .syncNow attempt, s => (posted? (Sync.syncNow ctx attempt (.ofStore s)).1).toList
  | .processPending now limit, s => passPosts ctx now limit s
  | _, _ => []

namespace Sync

/-- What the program writes leads from one store to another one. -/
abbrev Leads : Store → Store → Prop := Relation.ReflTransGen (StepOf fun _ _ => True)

/-- A post has found its attempt, and an item to enter the score under. -/
def Landed (ctx : Context) (s : Store) (p : Posted) : Prop :=
  ∃ a book item score, Postable ctx s a book item score ∧
    p = ⟨a.id, item.id, a.enrollment, score, p.changed⟩

/-- Entries change where scores are posted, and nowhere else. -/
def WrittenBy (posts : List Posted) (s s' : Store) : Prop :=
  ∀ e ∈ s'.entries, e ∈ s.entries ∨
    ∃ p ∈ posts, p.changed = true ∧ e.item = p.item ∧ e.enrollment = p.enrollment

/-- The way from one store to another one, and what is posted on it. -/
structure Accounts (ctx : Context) (posts : List Posted) (s s' : Store) : Prop where
  leads : Leads s s'
  landed : ∀ p ∈ posts, ∃ t, Leads s t ∧ Leads t s' ∧ Landed ctx t p
  written : Gradebook.Integrity s → WrittenBy posts s s'

section Accounts

variable {ctx : Context} {posts rest : List Posted} {s t u : Store} {op : Service} {p : Posted}

lemma integrity_of_leads (hi : Gradebook.Integrity s) (h : Leads s t) : Gradebook.Integrity t := by
  induction h with
  | refl => exact hi
  | tail _ w ih =>
    obtain ⟨_, _, -, w⟩ := w
    exact ih.step w

lemma leads_of_steps (ctx : Context) (op : Service)
    (h : Relation.ReflTransGen (fun s t => Step ctx s op t) s t) : Leads s t :=
  Relation.ReflTransGen.mono (fun _ _ w => ⟨ctx, op, trivial, w⟩) _ _ h

lemma leads_of_workings (h : Relation.ReflTransGen (Working ctx) s t) : Leads s t := by
  apply leads_of_steps ctx (.syncNow .null)
  exact Relation.ReflTransGen.mono (fun _ _ w => w.elim (.posting rfl) (.queueing rfl)) _ _ h

lemma Accounts.quiet (leads : Leads s t) (entries : t.entries = s.entries) : Accounts ctx [] s t :=
  ⟨leads, List.forall_mem_nil _, fun _ _ he => .inl (entries ▸ he)⟩

lemma Accounts.append (h : Accounts ctx posts s t) (h' : Accounts ctx rest t u) :
    Accounts ctx (posts ++ rest) s u := by
  refine ⟨h.leads.trans h'.leads, fun p hp => ?_, fun hi e he => ?_⟩
  · rcases List.mem_append.mp hp with hp | hp
    · obtain ⟨v, before, after, landed⟩ := h.landed p hp
      exact ⟨v, before, after.trans h'.leads, landed⟩
    · obtain ⟨v, before, after, landed⟩ := h'.landed p hp
      exact ⟨v, h.leads.trans before, after, landed⟩
  · rcases h'.written (integrity_of_leads hi h.leads) e he with he | ⟨p, hp, hplace⟩
    · rcases h.written hi e he with he | ⟨p, hp, hplace⟩
      · exact .inl he
      · exact .inr ⟨p, List.mem_append_left _ hp, hplace⟩
    · exact .inr ⟨p, List.mem_append_right _ hp, hplace⟩

lemma landed_of_post {r : PostRequest} {σ τ : Session} (hσ : σ.rivals = [])
    (h : post ctx r σ = (.ok (some p), τ)) : Landed ctx σ.store p := by
  obtain ⟨_, _, -, hrun, -⟩ := post_eq_some hσ h
  obtain ⟨a, book, item, score, -, postable, -, hp, -⟩ := postOnce_eq_ok hrun
  exact ⟨a, book, item, score, postable, hp⟩

lemma written_of_settles {a : Attempt} {book : GradeBook} {item : GradeItem} {score : Number.Decimal}
    (settles : Settles ctx s a book item score p.changed t)
    (hp : p = ⟨a.id, item.id, a.enrollment, score, p.changed⟩) (hi : Gradebook.Integrity s) :
    WrittenBy [p] s t := by
  intro e he
  rcases p with ⟨_, _, _, _, changed⟩
  obtain ⟨-, hitem, henrollment, -⟩ := Posted.mk.inj hp
  cases settles with
  | same => exact .inl he
  | entered =>
    have hbooks := hi.changeBook book.id (keepsPlace_touched ctx.now)
    rcases mem_entries_withScore hbooks he with ⟨he, -⟩ | ⟨-, -, -, -, hei, hee⟩
    · exact .inl he
    · exact .inr ⟨_, List.mem_singleton_self _, rfl, hei.trans hitem.symm, hee.trans henrollment.symm⟩

/-- What a post does that is done by itself. -/
structure Lands (ctx : Context) (s : Store) (p : Option Posted) (t : Store) : Prop where
  landed : ∀ q ∈ p.toList, Landed ctx s q
  written : Gradebook.Integrity s → WrittenBy p.toList s t
  jobs : t.jobs = s.jobs

lemma Lands.idle (s : Store) : Lands ctx s none s :=
  ⟨List.forall_mem_nil _, fun _ _ he => .inl he, rfl⟩

lemma post_lands (r : PostRequest) :
    (post ctx r).Ensures fun s result t => Lands ctx s result.toOption.join t := by
  intro σ hσ
  have hposts : (post ctx r).Ensures _ := post_ensures r
  obtain ⟨hrivals, hdone⟩ := hposts σ hσ
  refine ⟨hrivals, ?_⟩
  rcases hpost : post ctx r σ with ⟨_ | _ | p, τ⟩
  · rw [hpost] at hdone
    have hsame : τ.store = σ.store := hdone
    change Lands ctx σ.store none τ.store
    rw [hsame]
    exact .idle _
  · rw [hpost] at hdone
    have hsame : τ.store = σ.store := hdone
    change Lands ctx σ.store none τ.store
    rw [hsame]
    exact .idle _
  · rw [hpost] at hdone
    have hlanded := landed_of_post hσ hpost
    obtain ⟨_, _, -, hrun, -⟩ := post_eq_some hσ hpost
    obtain ⟨a, book, item, score, -, -, -, hp, settles⟩ := postOnce_eq_ok hrun
    refine ⟨List.forall_mem_singleton.mpr hlanded, written_of_settles settles hp, ?_⟩
    have hframe : τ.store = { σ.store with
        books := τ.store.books, entries := τ.store.entries, audits := τ.store.audits } := Done.frame hdone
    rw [hframe]

lemma post_accounts (r : PostRequest) :
    (post ctx r).Ensures fun s result t => Accounts ctx result.toOption.join.toList s t := by
  intro σ hσ
  have htakes : (post ctx r).Takes (Posting ctx r.poster) := post_takes r
  obtain ⟨hrivals, hsteps⟩ := htakes σ hσ
  have hlands : (post ctx r).Ensures _ := post_lands r
  obtain ⟨-, lands⟩ := hlands σ hσ
  have hleads : Leads σ.store (post ctx r σ).2.store := by
    apply leads_of_steps ctx (.call (.postScore r))
    exact Relation.ReflTransGen.mono (fun _ _ w => .posting rfl w) _ _ hsteps
  exact ⟨hrivals, hleads, fun p hp => ⟨σ.store, .refl, hleads, lands.landed p hp⟩, lands.written⟩

lemma runJob_accounts (job : Value) :
    (runJob ctx job).Ensures fun s r t => Accounts ctx (posted? r).toList s t := by
  intro σ hσ
  have htakes : (runJob ctx job).Takes (Working ctx) := runJob_takes job
  obtain ⟨hrivals, hsteps⟩ := htakes σ hσ
  have hruns : (runJob ctx job).Ensures _ :=
    runJob_ensures_of Lands.idle (fun _ _ _ h => h.jobs) (fun _ => post_lands _) job
  obtain ⟨-, t, lands, htables⟩ := hruns σ hσ
  have hleads : Leads σ.store (runJob ctx job σ).2.store := leads_of_workings hsteps
  refine ⟨hrivals, hleads, fun p hp => ⟨σ.store, .refl, hleads, lands.landed p hp⟩, fun hi e he => ?_⟩
  rw [htables] at he
  exact lands.written hi e he

lemma enqueue_accounts (attempt : Value) :
    (enqueue ctx attempt).Ensures fun s _ t => Accounts ctx [] s t := by
  intro σ hσ
  have htakes : (enqueue ctx attempt).Takes (Queueing ctx) := enqueue_takes attempt
  obtain ⟨hrivals, hsteps⟩ := htakes σ hσ
  refine ⟨hrivals, .quiet ?_ ?_⟩
  · apply leads_of_steps ctx (.enqueue attempt)
    exact Relation.ReflTransGen.mono (fun _ _ w => .queueing rfl w) _ _ hsteps
  · generalize (enqueue ctx attempt σ).2.store = t at hsteps
    induction hsteps with
    | refl => rfl
    | tail _ w ih =>
      rw [w.frame]
      exact ih

lemma syncNow_accounts (attempt : Value) :
    (syncNow ctx attempt).Ensures fun s r t => Accounts ctx (posted? r).toList s t := by
  refine .bind (enqueue_accounts attempt) (fun j => ?_) fun _ _ _ h => h
  cases j with
  | none => exact .throw fun _ _ h => h
  | some j => exact (runJob_accounts (.int j.id)).mono fun _ _ _ h _ before => before.append h

lemma pass_accounts (now limit : Value) (s : Store) :
    Accounts ctx (passPosts ctx now limit s) s (processPending ctx now limit (.ofStore s)).2.store :=
  pass_induction (fun _ => .quiet .refl rfl) (fun h h' => h.append h') runJob_accounts now limit s

lemma onSubmitted_session (attempt : Int) (σ : Session) :
    (onSubmitted ctx attempt σ).2 = if ctx.settings.eager.truthy then (syncNow ctx (.int attempt) σ).2
      else (enqueue ctx (.int attempt) σ).2 := by
  unfold onSubmitted
  split_ifs with eager
  · exact bind_session (fun _ _ => rfl) σ
  · exact bind_session (fun _ _ => rfl) σ

lemma submit_accounts (caller : Caller) (attempt answers now timeout : Value) (s : Store) :
    Accounts ctx (Service.posts ctx (.call (.submitAttempt caller attempt answers now timeout)) s) s
      ((Call.submitAttempt caller attempt answers now timeout).answer ctx (.ofStore s)).2.store := by
  rcases hrecord : (record ctx caller attempt answers now timeout).run s with fault | ⟨⟨a, r⟩, t⟩
  · simp only [submit_of_error hrecord, Service.posts, hrecord]
    exact .quiet .refl rfl
  · simp only [submit_of_ok hrecord, Service.posts, hrecord, onSubmitted_session]
    have hwrites := record_writes hrecord
    have hrecorded : Accounts ctx [] s t := by
      refine .quiet (.single ⟨ctx, _, trivial, .attempt hwrites⟩) ?_
      rw [hwrites.frame]
    let σ : Session := ⟨t, [], [submissionSignal caller a r]⟩
    have hσ : σ.rivals = [] := rfl
    split_ifs with eager
    · have hsync : (syncNow ctx (.int a.id)).Ensures _ := syncNow_accounts (.int a.id)
      exact hrecorded.append (hsync σ hσ).2
    · have henqueue : (enqueue ctx (.int a.id)).Ensures _ := enqueue_accounts (.int a.id)
      exact hrecorded.append (henqueue σ hσ).2

lemma entries_of_step {c : Call} (w : Step ctx s (.call c) t) (silent : (Service.call c).poster? = none)
    (notBatch : ∀ caller r, c ≠ .upsertScores caller r) : t.entries = s.entries := by
  cases w with
  | quiz w | attempt w | opening _ w | queueing _ w => rw [w.frame]
  | book w =>
    cases w with
    | item | request | decide => rfl
    | batch => exact absurd rfl (notBatch _ _)
  | posting posts => rw [silent] at posts; cases posts

lemma quiet_accounts {c : Call} (silent : (Service.call c).poster? = none)
    (notBatch : ∀ caller r, c ≠ .upsertScores caller r) (s : Store) :
    Accounts ctx [] s (Service.after ctx (.call c) s) := by
  refine .quiet (leads_of_steps ctx (.call c) (Service.steps ctx (.call c) s)) ?_
  exact Service.after_invariant (I := fun t => t.entries = s.entries) rfl
    fun _ _ ht w => (entries_of_step w silent notBatch).trans ht

/-- Every operation but a batch that a teacher enters accounts for the scores that it writes. -/
lemma service_accounts (op : Service) (notBatch : ∀ caller r, op ≠ .call (.upsertScores caller r))
    (s : Store) : Accounts ctx (op.posts ctx s) s (op.after ctx s) := by
  have quiet {c : Call} (h : op = .call c) (silent : (Service.call c).poster? = none) :
      Accounts ctx [] s (Service.after ctx (.call c) s) :=
    quiet_accounts silent (fun caller r hc => notBatch caller r (h.trans (congrArg _ hc))) s
  cases op with
  | call c =>
    cases c with
    | postScore r =>
      have hpost : (post ctx r).Ensures _ := post_accounts r
      have hafter : ((Call.postScore r).answer ctx (.ofStore s)).2 = (post ctx r (.ofStore s)).2 := by
        rw [answer_session]
        exact bind_session (fun _ _ => rfl) _
      change Accounts ctx _ s ((Call.postScore r).answer ctx (.ofStore s)).2.store
      rw [hafter]
      exact (hpost (.ofStore s) rfl).2
    | submitAttempt => exact submit_accounts ..
    | upsertScores caller r => exact absurd rfl (notBatch caller r)
    | _ => exact quiet rfl rfl
  | enqueue attempt =>
    have henqueue : (enqueue ctx attempt).Ensures _ := enqueue_accounts attempt
    exact (henqueue (.ofStore s) rfl).2
  | runJob job =>
    have hrun : (runJob ctx job).Ensures _ := runJob_accounts job
    exact (hrun (.ofStore s) rfl).2
  | syncNow attempt =>
    have hsync : (syncNow ctx attempt).Ensures _ := syncNow_accounts attempt
    exact (hsync (.ofStore s) rfl).2
  | processPending now limit => exact pass_accounts now limit s

end Accounts

end Sync

end Assessment
