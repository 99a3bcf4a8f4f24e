import Assessment.Proofs.Gradebook.Entries
import Assessment.Proofs.Sync.Posts

/-!
# What a post answers

Without other writers, what a post answers is decided by what it finds: a submitted attempt, a book that
admits its score, an item for it, and an entry that has that score or another one.
-/

namespace Assessment

namespace Sync

open Access Gradebook Number Request

/-- What a post finds when the score of an attempt can be posted: the attempt is submitted, its section
has a book that admits the score, and an item of that book takes it, as it is on the item's scale. -/
structure Postable (ctx : Context) (s : Store) (a : Attempt) (book : GradeBook) (item : GradeItem)
    (score : Decimal) : Prop where
  found : submittedAttempt a.id s = .ok a
  open' : postableBook ctx a.classSection s = .ok book
  placed : postableItem ctx book a.classSection a.quiz s = .ok item
  scaled : scale (a.score.map Amount.toDecimal) (a.maxScore.map Amount.toDecimal)
    item.maxScore.toDecimal = .ok score

/-- What a post makes of a store, and whether that changes it: the entry of the attempt's enrollment has the
score already, or it takes the score. -/
inductive Settles (ctx : Context) (s : Store) (a : Attempt) (book : GradeBook) (item : GradeItem)
    (score : Decimal) : Bool → Store → Prop
  | same {poster : Value} {text : String}
      (unchanged : ScoreChange.changes ⟨item.id, a.enrollment, some score, poster, text⟩
        (s.entryOf? item.id a.enrollment) = .ok false) : Settles ctx s a book item score false s
  | entered (poster : Value) (text : String) (actor : Option Int) :
      Settles ctx s a book item score true
        (withScore ⟨item.id, a.enrollment, some score, poster, text⟩ actor ctx.now
          { s with books := Table.modify book.id (touched ctx.now) s.books })

section Once

variable {ctx : Context} {s s' : Store} {a : Attempt} {book : GradeBook} {item : GradeItem}
  {score : Decimal} {attempt : Int} {poster : Caller} {reason : Value} {deadline : Option Time.Instant}
  {text : String} {p : Posted}

lemma postOnce_eq_ok (h : (postOnce ctx attempt poster reason deadline).run s = .ok (p, s')) :
    ∃ a book item score, a.id = attempt ∧ Postable ctx s a book item score ∧
      requirePoster ctx poster a.classSection s = .ok () ∧
      p = ⟨a.id, item.id, a.enrollment, score, p.changed⟩ ∧
      Settles ctx s a book item score p.changed s' := by
  obtain ⟨a, book, item, score, text, found, manages, open', placed, scaled, differs, hp, written⟩ :=
    exists_of_postOnce h
  obtain ⟨-, hid, -⟩ := submittedAttempt_eq_ok found
  refine ⟨a, book, item, score, hid, ⟨hid ▸ found, open', placed, scaled⟩, manages, hp, ?_⟩
  rcases written with ⟨unchanged, rfl⟩ | ⟨changed, actor, rfl⟩
  · rw [unchanged] at differs ⊢
    exact .same differs
  · rw [changed]
    exact .entered poster.id text actor

lemma postOnce_same (h : Postable ctx s a book item score)
    (manages : requirePoster ctx poster a.classSection s = .ok ())
    (reads : reasonOr reason syncReason = .ok text) (timely : isExpired ctx.now deadline = false)
    (same : ScoreChange.changes ⟨item.id, a.enrollment, some score, poster.id, text⟩
      (s.entryOf? item.id a.enrollment) = .ok false) :
    (postOnce ctx a.id poster reason deadline).run s =
      .ok (⟨a.id, item.id, a.enrollment, score, false⟩, s) := by
  refine Transaction.run_eq_ok.mpr ⟨.keep ⟨a.id, item.id, a.enrollment, score, false⟩, ?_, rfl⟩
  simp [postOnce, h.found, manages, h.open', h.placed, h.scaled, reads, same, timely]

end Once

/-- What a post reads from its request and from the settings. -/
structure Reads (ctx : Context) (r : PostRequest) (attempt : Int) (deadline : Option Time.Instant) :
    Prop where
  attempt : readPositive "Attempt id" r.attempt = .ok attempt
  deadline : readDeadline? ctx.now r.timeout = .ok deadline
  retries : ∃ n, readSetting ctx.settings.conflictRetries = .ok n ∧ 0 ≤ n

section Requests

variable {ctx : Context} {r : PostRequest} {attempt : Int} {deadline : Option Time.Instant}
  {σ τ : Session} {p : Posted} {s : Store} {fault : Fault}

lemma post_eq (h : Reads ctx r attempt deadline) (hs : σ.rivals = []) :
    ∃ retries, post ctx r σ =
      (some <$> retrying (postOnce ctx attempt r.poster r.reason deadline) retries) σ ∧
      retrying (postOnce ctx attempt r.poster r.reason deadline) retries σ =
        Action.commit (postOnce ctx attempt r.poster r.reason deadline) σ := by
  obtain ⟨n, hn, hnonneg⟩ := h.retries
  refine ⟨n.toNat, ?_, retrying_eq_commit _ _ hs⟩
  unfold post
  rw [Action.bind_of_ok (Action.read_eq_ok.mpr ⟨h.attempt, rfl⟩),
    Action.bind_of_ok (Action.read_eq_ok.mpr ⟨h.deadline, rfl⟩),
    Action.bind_of_ok (Action.read_eq_ok.mpr ⟨hn, rfl⟩), if_neg (not_lt.mpr hnonneg)]

lemma post_of_ok (h : Reads ctx r attempt deadline) (hs : σ.rivals = [])
    (posts : (postOnce ctx attempt r.poster r.reason deadline).run σ.store = .ok (p, s)) :
    post ctx r σ = (.ok (some p), { σ with store := s }) := by
  obtain ⟨retries, hpost, hretrying⟩ := post_eq h hs
  rw [hpost, Action.map_of_ok (hretrying.trans (Action.commit_of_ok hs posts))]

lemma post_of_error (h : Reads ctx r attempt deadline) (hs : σ.rivals = [])
    (fails : (postOnce ctx attempt r.poster r.reason deadline).run σ.store = .error fault) :
    post ctx r σ = (.error fault, σ) := by
  obtain ⟨retries, hpost, hretrying⟩ := post_eq h hs
  rw [hpost, Action.map_of_error (hretrying.trans (Action.commit_of_error hs fails))]

lemma post_eq_some (hs : σ.rivals = []) (hpost : post ctx r σ = (.ok (some p), τ)) :
    ∃ attempt deadline, Reads ctx r attempt deadline ∧
      (postOnce ctx attempt r.poster r.reason deadline).run σ.store = .ok (p, τ.store) ∧
      τ = { σ with store := τ.store } := by
  obtain ⟨attempt, σ₁, h₁, h⟩ := Action.bind_succeeded hpost
  obtain ⟨hattempt, rfl⟩ := Action.read_eq_ok.mp h₁
  obtain ⟨deadline, σ₂, h₂, h⟩ := Action.bind_succeeded h
  obtain ⟨hdeadline, rfl⟩ := Action.read_eq_ok.mp h₂
  obtain ⟨n, σ₃, h₃, h⟩ := Action.bind_succeeded h
  obtain ⟨hn, rfl⟩ := Action.read_eq_ok.mp h₃
  by_cases hnegative : n < 0
  · rw [if_pos hnegative] at h
    cases h
  · have reads : Reads ctx r attempt deadline := ⟨hattempt, hdeadline, n, hn, not_lt.mp hnegative⟩
    refine ⟨attempt, deadline, reads, ?_⟩
    cases hrun : (postOnce ctx attempt r.poster r.reason deadline).run σ.store with
    | error fault =>
      rw [post_of_error reads hs hrun] at hpost
      cases hpost
    | ok x =>
      obtain ⟨q, s⟩ := x
      rw [post_of_ok reads hs hrun] at hpost
      cases hpost
      exact ⟨rfl, rfl⟩

end Requests

end Sync

end Assessment
