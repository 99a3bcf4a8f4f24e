import Assessment.Proofs.Failures
import Assessment.Proofs.Gradebook.Snapshot

/-!
# Versions count changes

Every write into a book raises its version by one. An operation other than a pass over the queue writes
into a book at most once, so the version tells whether the record of the book has changed; a pass raises
the version once for each of its posts that changed a score of the book.
-/

namespace Assessment.Gradebook

open Access Assessment.Action Sync Table

/-- The versions of books rise by a number each, and a book whose version does not rise keeps its whole
record. -/
structure Raises (n : Int → Nat) (s s' : Store) : Prop where
  integrity : Integrity s'
  books : ∀ b ∈ s.books, ∃ b', (s'.bookRecord b.id).row = some b' ∧
    b'.classSection = b.classSection ∧ b'.version = b.version + n b.id ∧
    (n b.id = 0 → s'.bookRecord b.id = s.bookRecord b.id)

section Raises

variable {s t u : Store} {m n : Int → Nat}

lemma row_eq (hi : Integrity s) {b : GradeBook} (hb : b ∈ s.books) :
    (s.bookRecord b.id).row = some b := find?_of_mem hi.books hb

lemma raises_zero (hi : Integrity s) (hi' : Integrity t)
    (same : ∀ b ∈ s.books, t.bookRecord b.id = s.bookRecord b.id) : Raises 0 s t := by
  refine ⟨hi', fun b hb => ⟨b, ?_, rfl, by simp, fun _ => same b hb⟩⟩
  rw [same b hb]
  exact row_eq hi hb

lemma Raises.trans (h : Raises m s t) (h' : Raises n t u) : Raises (m + n) s u := by
  refine ⟨h'.integrity, fun b hb => ?_⟩
  obtain ⟨c, hrow, hsection, hversion, hsame⟩ := h.books b hb
  obtain ⟨hc, hid⟩ := mem_of_row hrow
  obtain ⟨d, hrow', hsection', hversion', hsame'⟩ := h'.books c hc
  rw [hid] at hrow' hversion' hsame'
  refine ⟨d, hrow', hsection'.trans hsection, ?_, fun hzero => ?_⟩
  · rw [hversion', hversion, Pi.add_apply]
    push_cast
    omega
  · obtain ⟨hm, hn⟩ := Nat.add_eq_zero_iff.mp hzero
    exact (hsame' hn).trans (hsame hm)

lemma raises_of_each (hi : Integrity s) (hi' : Integrity t)
    (each : ∀ b ∈ s.books, t.bookRecord b.id = s.bookRecord b.id ∨
      ∃ b', (t.bookRecord b.id).row = some b' ∧ b'.classSection = b.classSection ∧
        b'.version = b.version + 1) :
    Raises (fun id => if t.bookRecord id = s.bookRecord id then 0 else 1) s t := by
  refine ⟨hi', fun b hb => ?_⟩
  by_cases hsame : t.bookRecord b.id = s.bookRecord b.id
  · exact ⟨b, hsame ▸ row_eq hi hb, rfl, by simp [hsame], fun _ => hsame⟩
  · obtain ⟨b', hrow, hsection, hversion⟩ := (each b hb).resolve_left hsame
    exact ⟨b', hrow, hsection, by simpa [hsame] using hversion, by simp [hsame]⟩

end Raises

/-- No book is touched. -/
def Spares (s s' : Store) : Prop := Integrity s → Raises 0 s s'

/-- Each book is touched once at most. -/
def RaisesOnce (s s' : Store) : Prop := Integrity s → ∃ n, (∀ id, n id ≤ 1) ∧ Raises n s s'

section Composition

variable {s t u : Store}

lemma Spares.refl (s : Store) : Spares s s := fun hi => raises_zero hi hi fun _ _ => rfl

lemma spares_of_eq (h : t = s) : Spares s t := h ▸ Spares.refl s

lemma Spares.trans (h : Spares s t) (h' : Spares t u) : Spares s u := fun hi => by
  have := (h hi).trans (h' (h hi).integrity)
  rwa [add_zero] at this

lemma Spares.once (h : Spares s t) : RaisesOnce s t := fun hi => ⟨0, fun _ => Nat.zero_le 1, h hi⟩

lemma Spares.then (h : Spares s t) (h' : RaisesOnce t u) : RaisesOnce s u := fun hi => by
  obtain ⟨n, hn, hraises⟩ := h' (h hi).integrity
  have := (h hi).trans hraises
  rw [zero_add] at this
  exact ⟨n, hn, this⟩

lemma RaisesOnce.then (h : RaisesOnce s t) (h' : Spares t u) : RaisesOnce s u := fun hi => by
  obtain ⟨n, hn, hraises⟩ := h hi
  have := hraises.trans (h' hraises.integrity)
  rw [add_zero] at this
  exact ⟨n, hn, this⟩

lemma spares_of_takes {α : Type} {R : Store → Store → Prop} {a : Action α} (h : a.Takes R)
    (step : ∀ s s', R s s' → Spares s s') : a.Ensures fun s _ s' => Spares s s' := by
  intro s hs
  obtain ⟨hrivals, hsteps⟩ := h s hs
  refine ⟨hrivals, ?_⟩
  generalize (a s).2.store = s' at hsteps
  induction hsteps with
  | refl => exact .refl _
  | tail _ w ih => exact ih.trans (step _ _ w)

end Composition

section Steps

variable {ctx : Context} {s s' : Store} {op : Service}

lemma step_spares (w : Step ctx s op s') (other : op.poster? = none)
    (none : ∀ c, op = .call c → ¬Write ctx s c s') : Spares s s' := by
  intro hi
  refine raises_zero hi (hi.step w) fun b hb => ?_
  cases w with
  | quiz w | attempt w | queueing _ w => rw [w.frame]; rfl
  | opening _ w => exact bookRecord_opening w hb
  | book w => exact absurd w (none _ rfl)
  | posting posts => simp [posts] at other

lemma Write.once {c : Call} (w : Write ctx s c s') : RaisesOnce s s' := by
  intro hi
  have hposts : (Service.call c).poster? = none := by cases w <;> rfl
  refine ⟨_, fun id => ?_, raises_of_each hi (hi.write w) fun b hb => ?_⟩
  · split <;> omega
  · refine (Write.bookRecord hi hb w).imp_right fun hchange => ?_
    cases hchange with
    | edit _ row => exact ⟨_, row, rfl, rfl⟩
    | request _ record => exact ⟨_, congrArg BookRecord.row record, rfl, rfl⟩
    | decide verdict _ _ record =>
      exact ⟨_, congrArg BookRecord.row record, by cases verdict <;> rfl, by cases verdict <;> rfl⟩
    | post posts => simp [hposts] at posts

/-- Does a post change a score under an item of a book? -/
def postedInto (s : Store) (book : Int) (p : Posted) : Bool :=
  p.changed && s.items.any fun i => i.id == p.item && i.book == book

lemma postedInto_iff (hi : Integrity s) {p : Posted} (changed : p.changed = true) {i : GradeItem}
    (hmem : i ∈ s.items) (named : p.item = i.id) {book : Int} :
    postedInto s book p = true ↔ i.book = book := by
  simp only [postedInto, changed, Bool.true_and, List.any_eq_true, Bool.and_eq_true, beq_iff_eq]
  constructor
  · rintro ⟨j, hj, hid, hbook⟩
    rwa [hi.items.eq_of_id_eq hmem hj (named.symm.trans hid.symm)]
  · intro hbook
    exact ⟨i, hmem, named.symm, hbook⟩

lemma raises_scored (hi : Integrity s) {book : GradeBook} (hbook : book ∈ s.books) {i : GradeItem}
    (hmem : i ∈ s.items) (held : i.book = book.id) {c : ScoreChange} (named : i.id = c.item)
    (actor : Option Int) (now : Time.Instant) :
    Raises (fun id => if book.id = id then 1 else 0) s
      (withScore c actor now { s with books := modify book.id (touched now) s.books }) := by
  have hf := keepsPlace_touched now
  have hi' := hi.changeBook book.id hf
  refine ⟨hi'.withScore ⟨i, hmem, named⟩, fun b hb => ?_⟩
  rcases same_or_other hi hb hbook with rfl | hne
  · have hrow := congrArg BookRecord.row (bookRecord_changeBook_self hf hi.books hb)
    exact ⟨touched now b, hrow, rfl, by simp [touched], by simp⟩
  · have hscored : (withScore c actor now { s with
        books := modify book.id (touched now) s.books }).bookRecord b.id = _ :=
      bookRecord_withScore hi' hmem named (held ▸ Ne.symm hne)
    have hsame := hscored.trans (bookRecord_changeBook_of_ne hf hne)
    refine ⟨b, ?_, rfl, by simp [Ne.symm hne], fun _ => hsame⟩
    rw [hsame]
    exact row_eq hi hb

lemma posts_raises (hi : Integrity s) {poster : Caller} {p : Posted}
    (h : Posts ctx poster s p s') : Raises (fun id => if postedInto s id p then 1 else 0) s s' := by
  cases h with
  | same unchanged =>
    have hzero : (fun id => if postedInto s id p then 1 else 0) = (0 : Int → Nat) := by
      funext id
      simp [postedInto, unchanged]
    rw [hzero]
    exact raises_zero hi hi fun _ _ => rfl
  | @entered a book item score reason actor changed named found submitted manages open' placed =>
    have hbook := (existingBook_eq_ok (postableBook_eq_ok open').1).1
    obtain ⟨hitem, held⟩ := postableItem_eq_ok placed
    have hone : (fun id => if postedInto s id p then 1 else 0) =
        fun id => if book.id = id then 1 else 0 := by
      funext id
      simp only [postedInto_iff hi changed hitem named, held]
    rw [hone]
    exact raises_scored hi hbook hitem held rfl actor ctx.now

lemma done_once {poster : Caller} {p : Option Posted} (h : Done ctx poster s p s') :
    RaisesOnce s s' := by
  cases p with
  | none => exact (spares_of_eq h).once
  | some p =>
    refine fun hi => ⟨_, fun id => ?_, posts_raises hi h⟩
    split <;> omega

lemma spares_jobs (jobs : List SyncJob) : Spares s { s with jobs } :=
  fun hi => raises_zero hi { hi with } fun _ _ => rfl

lemma spares_of_frame (h : s' = { s with jobs := s'.jobs }) : Spares s s' := by
  rw [h]
  exact spares_jobs _

end Steps

section Operations

variable {ctx : Context} {α β : Type} {x : Action α} {f : α → Action β}

lemma spares_of_reads (h : x.Takes fun _ _ => False) : x.Ensures fun s _ s' => Spares s s' :=
  spares_of_takes h fun _ _ => False.elim

lemma once_bind (hx : x.Ensures fun s _ s' => RaisesOnce s s')
    (hf : ∀ a, (f a).Ensures fun s _ s' => Spares s s') :
    (x >>= f).Ensures fun s _ s' => RaisesOnce s s' :=
  .bind hx (fun a => (hf a).mono fun _ _ _ h _ hx => hx.then h) fun _ _ _ h => h

lemma bind_once (hx : x.Ensures fun s _ s' => Spares s s')
    (hf : ∀ a, (f a).Ensures fun s _ s' => RaisesOnce s s') :
    (x >>= f).Ensures fun s _ s' => RaisesOnce s s' :=
  .bind hx (fun a => (hf a).mono fun _ _ _ h _ hx => hx.then h) fun _ _ _ h => h.once

lemma commit_once {t : Transaction α} {c : Call}
    (writes : ∀ s a s', t.run s = .ok (a, s') → s' = s ∨ Write ctx s c s') :
    (Action.commit t).Ensures fun s _ s' => RaisesOnce s s' := by
  refine .commit (fun s a s' h => ?_) fun s _ _ => (Spares.refl s).once
  exact (writes s a s' h).elim (fun hsame => (spares_of_eq hsame).once) Write.once

lemma announced_once {t : Transaction α} {c : Call} (signal : α → Signal)
    (writes : ∀ s a s', t.run s = .ok (a, s') → Write ctx s c s') :
    (do
      let r ← Action.commit t
      Action.send (signal r)
      return r : Action α).Ensures fun s _ s' => RaisesOnce s s' :=
  once_bind (commit_once fun s a s' h => .inr (writes s a s' h)) fun _ =>
    spares_of_reads (.bind (.send _) fun _ => .pure _)

lemma Opening.spares {s s' : Store} (w : Opening ctx s s') : Spares s s' :=
  fun hi => raises_zero hi (hi.opening w) fun _ hb => bookRecord_opening w hb

lemma spares_of_opened {s t : Store} (h : t = s ∨ Opening ctx s t) : Spares s t :=
  h.elim spares_of_eq Opening.spares

lemma addItem_once (caller : Caller) (r : ItemRequest) :
    (Gradebook.addItem ctx caller r).Ensures fun s _ s' => RaisesOnce s s' := by
  refine (addItem_does caller r).mono fun s _ s' hadds => ?_
  rcases hadds with hsame | ⟨item, t, -, hopened, rfl | ⟨-, -, w⟩⟩
  · exact (spares_of_eq hsame).once
  · exact (spares_of_opened (hopened.imp_right fun w => ⟨_, w⟩)).once
  · exact (spares_of_opened (hopened.imp_right fun w => ⟨_, w⟩)).then w.once

lemma enqueue_spares (attempt : Value) : (enqueue ctx attempt).Ensures fun s _ s' => Spares s s' :=
  spares_of_takes (enqueue_takes attempt) fun _ _ w => spares_of_frame w.frame

lemma runJob_once (job : Value) : (runJob ctx job).Ensures fun s _ s' => RaisesOnce s s' :=
  (runJob_ensures job).mono fun _ _ _ ⟨_, hdone, hjobs⟩ => (done_once hdone).then (spares_of_frame hjobs)

lemma syncNow_once (attempt : Value) : (syncNow ctx attempt).Ensures fun s _ s' => RaisesOnce s s' := by
  refine bind_once (enqueue_spares attempt) fun j => ?_
  cases j with
  | none => exact .throw fun s => (Spares.refl s).once
  | some j => exact runJob_once _

lemma onSubmitted_once (attempt : Int) :
    (onSubmitted ctx attempt).Ensures fun s _ s' => RaisesOnce s s' := by
  refine .ite (fun _ => once_bind (syncNow_once _) fun _ => spares_of_reads (.pure _)) fun _ => ?_
  exact bind_once (enqueue_spares _) fun _ => .pure fun s => (Spares.refl s).once

lemma submit_once (caller : Caller) (attempt answers now timeout : Value) :
    (Attempting.submit (onSubmitted ctx) ctx caller attempt answers now timeout).Ensures
      fun s _ s' => RaisesOnce s s' := by
  refine bind_once ?_ fun r => bind_once (spares_of_reads (.send _)) fun _ => ?_
  · refine spares_of_takes (.commit fun _ _ _ h => .inr (Attempting.record_writes h)) fun s s' w hi => ?_
    rw [w.frame]
    exact raises_zero hi { hi with } fun _ _ => rfl
  · refine once_bind (((onSubmitted_once r.1.id).attempt).mono ?_) fun _ => spares_of_reads (.pure _)
    rintro s _ s' ⟨-, -, h⟩
    exact h

lemma call_spares (c : Call) (quiet : (Service.call c).poster? = none)
    (none : ∀ s s', ¬Write ctx s c s') : (c.run ctx).Ensures fun s _ s' => Spares s s' := by
  refine spares_of_takes (call_takes c) fun s s' w => step_spares w quiet ?_
  rintro _ ⟨⟩
  exact none s s'

lemma call_once (c : Call) : (c.run ctx).Ensures fun s _ s' => RaisesOnce s s' := by
  cases c with
  | addItem => exact once_bind (addItem_once _ _) fun _ => spares_of_reads (.read _)
  | upsertScores =>
    exact once_bind (commit_once fun _ _ _ h => upsertScores_writes h) fun _ =>
      spares_of_reads (.read _)
  | requestApproval =>
    exact once_bind (announced_once _ fun _ _ _ h => openRequest_writes h) fun _ =>
      spares_of_reads (.read _)
  | decide =>
    exact once_bind (announced_once _ fun _ _ _ h => decideRequest_writes h) fun _ =>
      spares_of_reads (.read _)
  | submitAttempt => exact once_bind (submit_once _ _ _ _ _) fun _ => spares_of_reads (.read _)
  | postScore r =>
    exact once_bind ((post_ensures r).mono fun _ _ _ h => done_once h) fun _ =>
      spares_of_reads (.pure _)
  | createDraft | addQuestion | updateQuestion | deleteQuestion | deleteQuiz | getQuestions
    | listForTeacher | listPublished | publish | close | startAttempt | viewAttempt | openBook
    | viewBook =>
    refine (call_spares _ rfl fun s s' w => ?_).mono fun _ _ _ h => h.once
    cases w

end Operations

section Services

variable {P : Context → Service → Prop} {ctx : Context}

/-- How often posts change a score under an item of a book. -/
def raisesBy (s : Store) (posts : List Posted) (book : Int) : Nat :=
  posts.countP (postedInto s book)

lemma raisesBy_append (s : Store) (posts rest : List Posted) :
    raisesBy s (posts ++ rest) = raisesBy s posts + raisesBy s rest := by
  funext book
  exact List.countP_append

lemma raisesBy_congr {s t : Store} (items : t.items = s.items) : raisesBy t = raisesBy s := by
  funext posts book
  have hposted : postedInto t book = postedInto s book := by
    funext p
    simp only [postedInto, items]
  simp only [raisesBy, hposted]

lemma runJob_raises (job : Value) :
    (runJob ctx job).Ensures fun s r s' => Integrity s →
      Raises (raisesBy s (posted? r).toList) s s' ∧ s'.items = s.items := by
  refine (runJob_ensures job).mono ?_
  rintro s r s' ⟨t, hdone, hjobs⟩ hi
  have hposts : Raises (raisesBy s (posted? r).toList) s t := by
    cases h : posted? r with
    | none =>
      rw [h] at hdone
      have hsame : t = s := hdone
      rw [hsame]
      exact raises_zero hi hi fun _ _ => rfl
    | some p =>
      rw [h] at hdone
      have hone : raisesBy s [p] = fun id => if postedInto s id p then 1 else 0 := by
        funext id
        simp [raisesBy, List.countP_cons]
      exact hone ▸ posts_raises hi hdone
  have hkept := hposts.trans (spares_of_frame hjobs hposts.integrity)
  rw [add_zero] at hkept
  refine ⟨hkept, ?_⟩
  rw [hjobs, hdone.frame]

/-- A pass raises the version of a book by the number of its posts that change a score there. -/
lemma pass_raises (ctx : Context) (now limit : Value) {s : Store} (hi : Integrity s) :
    Raises (raisesBy s (passPosts ctx now limit s)) s
      ((Service.processPending now limit).after ctx s) := by
  let R : List Posted → Store → Store → Prop := fun posts s t => Integrity s →
    Raises (raisesBy s posts) s t ∧ t.items = s.items
  have nil (s : Store) : R [] s s := fun hi => ⟨raises_zero hi hi fun _ _ => rfl, rfl⟩
  have append {posts rest : List Posted} {s t u : Store} (h : R posts s t) (h' : R rest t u) :
      R (posts ++ rest) s u := by
    intro hi
    obtain ⟨hfirst, hitems⟩ := h hi
    obtain ⟨hrest, hitems'⟩ := h' hfirst.integrity
    rw [raisesBy_congr hitems] at hrest
    rw [raisesBy_append]
    exact ⟨hfirst.trans hrest, hitems'.trans hitems⟩
  exact (pass_induction (R := R) nil append runJob_raises now limit s hi).1

lemma service_once (op : Service) (single : ∀ now limit, op ≠ .processPending now limit) (s : Store) :
    RaisesOnce s (op.after ctx s) := by
  cases op with
  | call c =>
    have h : RaisesOnce s (c.run ctx (.ofStore s)).2.store := (call_once c (.ofStore s) rfl).2
    rwa [← answer_session] at h
  | enqueue attempt => exact ((enqueue_spares attempt) (.ofStore s) rfl).2.once
  | runJob job => exact ((runJob_once job) (.ofStore s) rfl).2
  | syncNow attempt => exact ((syncNow_once attempt) (.ofStore s) rfl).2
  | processPending now limit => exact absurd rfl (single now limit)

end Services

end Assessment.Gradebook
