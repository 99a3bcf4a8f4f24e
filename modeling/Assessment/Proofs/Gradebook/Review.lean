import Assessment.Proofs.Gradebook.Integrity
import Assessment.Scenario.State

/-!
# The status of a book follows its requests for approval

A book is a draft until approval is asked for; from then on its status says what became of the last
request. All requests before the last one were rejected, and a request that is decided stays as it is.
-/

namespace Assessment

/-- The requests for approval of a book in the order of their numbers. -/
def Store.requestsOf (s : Store) (book : Int) : List Approval := s.approvals.filter (·.book == book)

/-- A decision is made by a caller who gives a number. -/
def Service.NamesDecider : Service → Prop
  | .call (.decide _ caller _ _ _) => columnOf caller.id ≠ .ok none
  | _ => True

namespace Gradebook

open Table

/-- The status of a book by the outcome of its last request. -/
def statusAfter : Option ApprovalOutcome → BookStatus
  | none => .draft
  | some .pending => .pendingApproval
  | some .approved => .published
  | some .rejected => .rejected
  | some (.other name) => .other name

/-- A request says nothing of an answer until it is decided, and when it was answered from then on. -/
structure Answerable (r : Approval) : Prop where
  unanswered : r.outcome = .pending →
    r.respondedBy = none ∧ r.respondedAt = none ∧ r.responseMessage = none
  answered : r.outcome ≠ .pending →
    (r.outcome = .approved ∨ r.outcome = .rejected) ∧ r.respondedAt.isSome

/-- A book and its requests agree. -/
structure Follows (b : GradeBook) (requests : List Approval) : Prop where
  status : b.status = statusAfter (requests.getLast?.map (·.outcome))
  publishedAt : b.publishedAt =
    (requests.getLast?.filter (·.outcome = .approved)).bind (·.respondedAt)
  earlier : ∀ r ∈ requests.dropLast, r.outcome = .rejected
  answerable : ∀ r ∈ requests, Answerable r

section Transitions

variable {b : GradeBook} {rows : List Approval} {now : Time.Instant}

lemma follows_opened (classSection : Int) (now : Time.Instant) (s : Store) :
    Follows (opened classSection now s) [] := ⟨rfl, rfl, by simp, by simp⟩

lemma Follows.touched (h : Follows b rows) : Follows (touched now b) rows :=
  ⟨h.status, h.publishedAt, h.earlier, h.answerable⟩

lemma Follows.request (h : Follows b rows) (editable : b.status.isEditable = true) {r : Approval}
    (pending : r.outcome = .pending) (answerable : Answerable r) :
    Follows (requested now b) (rows ++ [r]) := by
  have hlast : ∀ x, rows.getLast? = some x → x.outcome = .rejected := by
    intro x hx
    have hstatus := h.status
    rw [hx] at hstatus
    cases ho : x.outcome <;> simp_all [statusAfter, BookStatus.isEditable]
  refine ⟨by simp [requested, Gradebook.touched, pending, statusAfter], ?_, ?_, ?_⟩
  · have hnone : b.publishedAt = none := by
      rw [h.publishedAt]
      cases hx : rows.getLast? with
      | none => rfl
      | some x => simp [hlast x hx, Option.filter]
    simp [requested, Gradebook.touched, hnone, pending, Option.filter]
  · intro x hx
    rw [List.dropLast_concat] at hx
    rcases List.eq_nil_or_concat' rows with rfl | ⟨init, last, rfl⟩
    · simp at hx
    · rcases List.mem_append.mp hx with hx | hx
      · exact h.earlier x (by simpa using hx)
      · exact hlast x (by simpa using (List.mem_singleton.mp hx).symm)
  · intro x hx
    rcases List.mem_append.mp hx with hx | hx
    · exact h.answerable x hx
    · rwa [List.mem_singleton.mp hx]

lemma answerable_answered (r : Approval) (verdict : Verdict) (admin : Option Int)
    (text : Option String) : Answerable (answered verdict admin text now r) where
  unanswered := by cases verdict <;> simp [answered, Verdict.outcome]
  answered _ := by cases verdict <;> simp [answered, Verdict.outcome]

lemma Follows.judge {r : Approval} (h : Follows b (rows ++ [r])) (pending : r.outcome = .pending)
    (verdict : Verdict) (admin : Option Int) (text : Option String) :
    Follows (judged verdict now b) (rows ++ [answered verdict admin text now r]) := by
  have hnone : b.publishedAt = none := by simp [h.publishedAt, pending, Option.filter]
  refine ⟨?_, ?_, by simpa using h.earlier, ?_⟩
  · cases verdict <;> simp [judged, Gradebook.touched, answered, Verdict.outcome, statusAfter]
  · cases verdict <;>
      simp [judged, Gradebook.touched, answered, Verdict.outcome, Option.filter, hnone]
  · intro x hx
    rcases List.mem_append.mp hx with hx | hx
    · exact h.answerable x (List.mem_append_left _ hx)
    · rw [List.mem_singleton.mp hx]
      exact answerable_answered r verdict admin text

end Transitions

section Steps

variable {ctx : Context} {s s' : Store} {op : Service}

/-- Every book and its requests agree. -/
def AllFollow (s : Store) : Prop := ∀ b ∈ s.books, Follows b (s.requestsOf b.id)

lemma lastApproval?_eq (hi : Integrity s) (book : Int) :
    s.lastApproval? book = (s.requestsOf book).getLast? := latest?_eq hi.approvals _

lemma AllFollow.changeBook (h : AllFollow s) (hi : Integrity s) {b : GradeBook} (hb : b ∈ s.books)
    {f : GradeBook → GradeBook} (hf : KeepsPlace f) {rows : List Approval}
    (others : ∀ c ∈ s.books, c.id ≠ b.id →
      rows.filter (·.book == c.id) = s.requestsOf c.id)
    (own : Follows (f b) (rows.filter (·.book == b.id))) :
    AllFollow { s with books := modify b.id f s.books, approvals := rows } := by
  intro c hc
  rcases (mem_modify hi.books hb).mp hc with rfl | ⟨hc, hne⟩
  · simpa [Store.requestsOf, hf.id] using own
  · simpa [Store.requestsOf, others c hc hne] using h c hc

lemma AllFollow.touch (h : AllFollow s) (hi : Integrity s) {b : GradeBook} (hb : b ∈ s.books)
    (now : Time.Instant) : AllFollow { s with books := modify b.id (touched now) s.books } :=
  h.changeBook hi hb (keepsPlace_touched now) (fun _ _ _ => rfl) (h b hb).touched

lemma AllFollow.opening (h : AllFollow s) (hi : Integrity s) (w : Opening ctx s s') :
    AllFollow s' := by
  obtain ⟨classSection, -, -, rfl⟩ := w
  intro b hb
  rcases List.mem_append.mp hb with hb | hb
  · exact h b hb
  · rw [List.mem_singleton.mp hb]
    have hnone : s.requestsOf (nextId s.books) = [] :=
      List.filter_eq_nil_iff.mpr fun r hr => by simpa using hi.approvalBook.ne_nextId hr
    have := follows_opened classSection ctx.now s
    rwa [← hnone] at this

lemma requestsOf_answered (r : Approval) (verdict : Verdict) (admin : Option Int)
    (text : Option String) (now : Time.Instant) (book : Int) :
    (modify r.id (answered verdict admin text now) s.approvals).filter (·.book == book) =
      modify r.id (answered verdict admin text now) (s.requestsOf book) := filter_modify fun _ => rfl

lemma requestsOf_answered_of_ne (hi : Integrity s) {r : Approval} (hr : r ∈ s.approvals) {book : Int}
    (hne : r.book ≠ book) (verdict : Verdict) (admin : Option Int) (text : Option String)
    (now : Time.Instant) :
    (modify r.id (answered verdict admin text now) s.approvals).filter (·.book == book) =
      s.requestsOf book := by
  rw [requestsOf_answered]
  refine modify_eq_self fun x hx hid => hne ?_
  rw [← hi.approvals.eq_of_id_eq (List.mem_filter.mp hx).1 hr hid]
  simpa using (List.mem_filter.mp hx).2

lemma AllFollow.write (h : AllFollow s) (hi : Integrity s) {c : Call} (w : Write ctx s c s') :
    AllFollow s' := by
  cases w with
  | item _ found => exact h.touch hi (existingBook_eq_ok found).1 ctx.now
  | batch _ found _ _ _ _ _ _ entered =>
    rw [applyBatch_frame entered]
    exact h.touch hi (existingBook_eq_ok found).1 ctx.now
  | @request _ _ _ _ _ _ book _ _ _ found editable =>
    have hb := (existingBook_eq_ok found).1
    refine h.changeBook hi hb (keepsPlace_requested _) ?_ ?_
    · intro c _ hne
      simp [Store.requestsOf, request, Ne.symm hne]
    · simp only [List.filter_append, request, List.filter_singleton, beq_self_eq_true]
      exact (h book hb).request editable rfl ⟨fun _ => ⟨rfl, rfl, rfl⟩, by simp⟩
  | @decide verdict _ _ _ _ _ book r text _ admin _ found _ _ latest pending =>
    have hb := (existingBook_eq_ok found).1
    rw [lastApproval?_eq hi] at latest
    obtain ⟨rows, hrows⟩ := List.getLast?_eq_some_iff.mp latest
    have hr : r ∈ s.requestsOf book.id := List.mem_of_getLast? latest
    have hbook : r.book = book.id := by simpa using (List.mem_filter.mp hr).2
    refine h.changeBook hi hb (keepsPlace_judged _ _) ?_ ?_
    · intro c _ hne
      exact requestsOf_answered_of_ne hi (List.mem_filter.mp hr).1 (hbook ▸ Ne.symm hne) _ _ _ _
    · have hn : Numbered (rows ++ [r]) := hrows ▸ hi.approvals.filter _
      have hf := h book hb
      rw [hrows] at hf
      rw [requestsOf_answered, hrows]
      change Follows _ (modify (Row.id r) _ _)
      rw [modify_concat hn]
      exact hf.judge pending verdict admin text

lemma AllFollow.step (h : AllFollow s) (hi : Integrity s) (w : Step ctx s op s') : AllFollow s' := by
  cases w with
  | quiz w | attempt w | queueing _ w =>
    rw [w.frame]
    exact h
  | opening _ w => exact h.opening hi w
  | book w => exact h.write hi w
  | posting _ w =>
    cases w with
    | post _ _ _ open' =>
      exact h.touch hi (existingBook_eq_ok (Sync.postableBook_eq_ok open').1).1 ctx.now

lemma keeps_decided (hi : Integrity s) {r : Approval} (hr : r ∈ s.approvals)
    (decided : r.outcome ≠ .pending) (w : Step ctx s op s') : r ∈ s'.approvals := by
  cases w with
  | quiz w | attempt w | opening _ w | posting _ w | queueing _ w =>
    rw [w.frame]
    exact hr
  | book w =>
    cases w with
    | item => exact hr
    | batch _ _ _ _ _ _ _ _ entered => rw [applyBatch_frame entered]; exact hr
    | request => exact List.mem_append_left _ hr
    | decide _ _ _ _ latest pending =>
      rw [lastApproval?_eq hi] at latest
      have hlast := (List.mem_filter.mp (List.mem_of_getLast? latest)).1
      refine (mem_modify hi.approvals hlast).mpr (.inr ⟨hr, fun hid => decided ?_⟩)
      rw [hi.approvals.eq_of_id_eq hr hlast hid]
      exact pending

lemma records_decider (named : op.NamesDecider) (hi : Integrity s)
    (h : ∀ r ∈ s.approvals, r.outcome ≠ .pending → r.respondedBy.isSome) (w : Step ctx s op s') :
    ∀ r ∈ s'.approvals, r.outcome ≠ .pending → r.respondedBy.isSome := by
  cases w with
  | quiz w | attempt w | opening _ w | posting _ w | queueing _ w =>
    rw [w.frame]
    exact h
  | book w =>
    cases w with
    | item => exact h
    | batch _ _ _ _ _ _ _ _ entered => rw [applyBatch_frame entered]; exact h
    | request =>
      intro r hr hdecided
      rcases List.mem_append.mp hr with hr | hr
      · exact h r hr hdecided
      · simp_all [request]
    | @decide _ _ _ _ _ _ _ _ _ column admin _ _ _ _ latest _ name known =>
      rw [lastApproval?_eq hi] at latest
      have hlast := (List.mem_filter.mp (List.mem_of_getLast? latest)).1
      intro r hr hdecided
      rcases (mem_modify hi.approvals hlast).mp hr with rfl | ⟨hr, -⟩
      · cases admin with
        | none => exact absurd (reference_eq_ok_none known ▸ name) named
        | some n => rfl
      · exact h r hr hdecided

end Steps

/-- What the status of a book and its requests for approval say of each other. -/
structure Reviewed (b : GradeBook) (requests : List Approval) : Prop where
  draft : b.status = .draft ↔ requests = []
  pending : b.status = .pendingApproval ↔ ∃ r, requests.getLast? = some r ∧ r.outcome = .pending
  rejected : b.status = .rejected ↔ ∃ r, requests.getLast? = some r ∧ r.outcome = .rejected
  published : b.status = .published ↔ ∃ r, requests.getLast? = some r ∧ r.outcome = .approved
  unlocked : b.status ≠ .locked
  publishedAt : b.publishedAt.isSome ↔ b.status = .published
  publication : ∀ r, requests.getLast? = some r → r.outcome = .approved →
    b.publishedAt = r.respondedAt
  ordered : requests.Pairwise fun r r' => r.id < r'.id
  earlier : ∀ r ∈ requests.dropLast, r.outcome = .rejected
  onePending : requests.countP (·.outcome = .pending) ≤ 1
  oneApproved : requests.countP (·.outcome = .approved) ≤ 1
  answerable : ∀ r ∈ requests, Answerable r

lemma Follows.count_le_one {b : GradeBook} {requests : List Approval} (h : Follows b requests)
    (outcome : ApprovalOutcome) (ho : outcome ≠ .rejected) :
    requests.countP (·.outcome = outcome) ≤ 1 := by
  rcases List.eq_nil_or_concat' requests with rfl | ⟨init, last, rfl⟩
  · simp
  · have hinit : init.countP (·.outcome = outcome) = 0 := by
      refine List.countP_eq_zero.mpr fun r hr => ?_
      have := h.earlier r (by simpa using hr)
      simp [this, ho.symm]
    rw [List.countP_append, hinit, List.countP_singleton]
    split <;> omega

lemma Follows.reviewed {b : GradeBook} {requests : List Approval} (h : Follows b requests)
    (ordered : requests.Pairwise fun r r' => r.id < r'.id) : Reviewed b requests := by
  have hstatus := h.status
  have hpublished := h.publishedAt
  rcases List.eq_nil_or_concat' requests with rfl | ⟨init, last, rfl⟩
  · constructor <;> simp_all [statusAfter, Option.filter]
  · have hanswered := (h.answerable last (by simp)).answered
    rw [List.getLast?_concat] at hstatus hpublished
    refine ⟨?_, ?_, ?_, ?_, ?_, ?_, ?_, ordered, h.earlier, h.count_le_one .pending (by simp),
      h.count_le_one .approved (by simp), h.answerable⟩
    all_goals
      cases ho : last.outcome <;> simp_all [statusAfter, Option.filter]

/-- In every store that can be reached, the status of a book says what became of its last request for
approval, and decided requests are final. Whoever decides on one is recorded if there is a number to
record. -/
theorem status_follows_requests {P : Context → Service → Prop} {s : Store} (h : Reachable P s) :
    (∀ b ∈ s.books, Reviewed b (s.requestsOf b.id)) ∧
      (∀ r ∈ s.approvals, r.outcome ≠ .pending → ∀ (Q : Context → Service → Prop) (s' : Store),
        Run Q s s' → find? r.id s'.approvals = some r) ∧
      ((∀ ctx op, P ctx op → op.NamesDecider) →
        ∀ r ∈ s.approvals, r.outcome ≠ .pending → r.respondedBy.isSome) := by
  have hi := integrity_of_reachable h
  refine ⟨fun b hb => ?_, fun r hr hdecided Q s' hrun => ?_, fun named => ?_⟩
  · have hfollow : AllFollow s := integrity_invariant h (fun _ _ _ => by simp [AllFollow, Store.ofSchool])
      fun _ _ _ _ _ hi hf w => hf.step hi w
    exact (hfollow b hb).reviewed (hi.approvals.filter _).ascending
  · have hkept : r ∈ s'.approvals :=
      hi.run_invariant hrun hr fun _ _ _ _ _ hi hr w => keeps_decided hi hr hdecided w
    exact find?_of_mem (hi.run_invariant hrun hi fun _ _ _ _ _ hi _ w => hi.step w).approvals hkept
  · exact integrity_invariant h (fun _ _ _ => by simp [Store.ofSchool])
      fun ctx op _ _ hop hi hr w => records_decider (named ctx op hop) hi hr w

/-- The store after a book is opened, put up for approval, and approved by a caller. -/
def approvedBy (admin : Access.Caller) : Store :=
  let start := Scenario.State.start .standard
  start.context.serve
    [.call (.openBook (.int 1)),
      .call (.requestApproval ⟨.int 1, "TEACHER"⟩ (.int 1) .null .null),
      .call (.decide .approve admin (.int 1) .null .null)] start.store

/-- An approved book has its decided request, with who decided on it. -/
theorem status_follows_requests_of_approved :
    let s := approvedBy ⟨.int 3, "ADMIN"⟩
    (∃ b ∈ s.books, b.status = .published ∧ Reviewed b (s.requestsOf b.id)) ∧
      ∃ r ∈ s.approvals, r.outcome = .approved ∧ r.respondedBy.isSome := by
  intro s
  have h : Reachable (fun _ op => op.NamesDecider) s := by
    refine .serve ?_ _ _ _
    simp only [List.forall_mem_cons]
    exact ⟨trivial, trivial, nofun, by simp⟩
  obtain ⟨hbooks, -, hnamed⟩ := status_follows_requests h
  have hb : ∃ b ∈ s.books, b.status = .published := by decide +kernel
  have hr : ∃ r ∈ s.approvals, r.outcome = .approved := by decide +kernel
  obtain ⟨b, hb, hpublished⟩ := hb
  obtain ⟨r, hr, happroved⟩ := hr
  exact ⟨⟨b, hb, hpublished, hbooks b hb⟩, r, hr, happroved,
    hnamed (fun _ _ h => h) r hr (by simp [happroved])⟩

/-- An approval by a caller without a number has nobody who decided on it. -/
theorem approval_without_decider :
    Reachable (fun _ _ => True) (approvedBy ⟨.null, "ADMIN"⟩) ∧
      ∃ r ∈ (approvedBy ⟨.null, "ADMIN"⟩).approvals, r.outcome = .approved ∧ r.respondedBy = none :=
  ⟨.serve (fun _ _ => trivial) _ _ _, by decide +kernel⟩

end Gradebook

end Assessment
