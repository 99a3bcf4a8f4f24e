import Assessment.Proofs.Gradebook.Commuting
import Assessment.Proofs.Sync.Landings

/-!
# Posts at different places

A post reads nothing that a post at another place writes, so the two answer the same in either order, and the
stores that they leave differ at most in the numbers of what is new. Of posts at the same place the last one
counts.
-/

namespace Assessment.Sync

open Access Gradebook Number Request Table

/-- Where the score of an attempt is entered: under the item that takes the scores of its quiz, for its
enrollment. -/
def placeOf? (ctx : Context) (s : Store) (attempt : Int) : Option (Int × Int) := do
  let a ← Table.find? attempt s.attempts
  let named ← (target ctx (.int a.classSection) (.int a.quiz) s).toOption
  let item ← (targetItem? named s).toOption.join
  return (item.id, a.enrollment)

/-- The requests name attempts whose scores are entered at different places, or one of them is entered
nowhere. -/
def Apart (ctx : Context) (s : Store) (r r' : PostRequest) : Prop :=
  ∀ n n' place, readPositive "Attempt id" r.attempt = .ok n → readPositive "Attempt id" r'.attempt = .ok n' →
    placeOf? ctx s n = some place → placeOf? ctx s n' ≠ some place

/-- A score that goes into a book for an actor. -/
structure Deposit where
  book : Int
  change : ScoreChange
  actor : Option Int

/-- The store after a score has gone into a book. -/
def Deposit.enter (d : Deposit) (now : Time.Instant) (s : Store) : Store :=
  withScore d.change d.actor now { s with books := modify d.book (touched now) s.books }

/-- For whom the store takes a score. -/
def actorOf (c : ScoreChange) (s : Store) : Except Violation (Option Int) := do
  requireStorable [c.item, c.enrollment]
  requireEncoding [c.reason]
  let actor ← columnOf c.actor
  requireRow c.item s.items
  requireRow c.enrollment s.enrollments
  reference actor s.users

/-- What a post comes to: what it reports, and the score that it enters if that differs. -/
def settle (ctx : Context) (attempt : Int) (poster : Caller) (reason : Value)
    (deadline : Option Time.Instant) (s : Store) : Except Fault (Posted × Option Deposit) := do
  let a ← submittedAttempt attempt s
  requirePoster ctx poster a.classSection s
  let book ← postableBook ctx a.classSection s
  let item ← postableItem ctx book a.classSection a.quiz s
  let score ← (scale (a.score.map Amount.toDecimal) (a.maxScore.map Amount.toDecimal)
    item.maxScore.toDecimal : Except Defect _)
  let reason ← reasonOr reason syncReason
  let change : ScoreChange := ⟨item.id, a.enrollment, some score, poster.id, reason⟩
  let changed ← (change.changes (s.entryOf? item.id a.enrollment) : Except Defect _)
  if isExpired ctx.now deadline then throw (.refused .syncTimedOut)
  let posted : Posted := ⟨a.id, item.id, a.enrollment, score, changed⟩
  if changed then
    let actor ← (actorOf change s).mapError (Violation.fault .recordChanged)
    return (posted, some ⟨book.id, change, actor⟩)
  else return (posted, none)

/-- The store that a post leaves, by the score that it enters. -/
def left (now : Time.Instant) (s : Store) : Option Deposit → Store
  | none => s
  | some d => d.enter now s

/-- What a request comes to. -/
def comesTo (ctx : Context) (r : PostRequest) (s : Store) : Except Fault (Option Posted × Option Deposit) := do
  let attempt ← readPositive "Attempt id" r.attempt
  let deadline ← readDeadline? ctx.now r.timeout
  let retries ← readSetting ctx.settings.conflictRetries
  if retries < 0 then return (none, none)
  let (p, d) ← settle ctx attempt r.poster r.reason deadline s
  return (some p, d)

/-- The score that a request enters. -/
def entering (ctx : Context) (r : PostRequest) (s : Store) : Option Deposit :=
  (comesTo ctx r s).toOption.bind Prod.snd

/-- Scores are posted one after the other, and all of them successfully. -/
inductive Syncs : Store → List Posted → Store → Prop
  | done (s : Store) : Syncs s [] s
  | post {ctx : Context} {r : PostRequest} {s t : Store} {p : Posted} {posts : List Posted} {σ : Session}
      (posted : post ctx r (.ofStore s) = (.ok (some p), σ)) (rest : Syncs σ.store posts t) :
      Syncs s (p :: posts) t

/-- What a post reports as its score is the score of its attempt on the scale of its item. -/
def Scaled (s : Store) (p : Posted) : Prop :=
  ∃ a ∈ s.attempts, ∃ i ∈ s.items, a.id = p.attempt ∧ a.enrollment = p.enrollment ∧ i.id = p.item ∧
    scale (a.score.map Amount.toDecimal) (a.maxScore.map Amount.toDecimal) i.maxScore.toDecimal = .ok p.score

section Settling

variable {ctx : Context} {s : Store} {attempt : Int} {poster : Caller} {reason : Value}
  {deadline : Option Time.Instant} {p : Posted} {d : Deposit}

lemma applyScore_eq (c : ScoreChange) (now : Time.Instant) (s : Store) :
    applyScore c now s = (fun actor => ((), withScore c actor now s)) <$> actorOf c s := by
  unfold applyScore actorOf
  simp only [map_bind]
  rfl

lemma postOnce_run : (postOnce ctx attempt poster reason deadline).run s =
    (fun (p, d) => (p, left ctx.now s d)) <$> settle ctx attempt poster reason deadline s := by
  unfold Transaction.run postOnce settle
  simp only [map_bind, bind_assoc]
  refine bind_congr fun a => bind_congr fun _ => bind_congr_of_ok fun book hbook => ?_
  obtain ⟨hmem, -⟩ := existingBook_eq_ok (postableBook_eq_ok hbook).1
  refine bind_congr fun item => bind_congr fun score => bind_congr fun text => bind_congr fun changed => ?_
  cases isExpired ctx.now deadline with
  | true => rfl
  | false =>
    cases changed with
    | false => rfl
    | true =>
      let c : ScoreChange := ⟨item.id, a.enrollment, some score, poster.id, text⟩
      have henter : enterPosted book c ctx.now s =
          (fun actor => ((), Deposit.enter ⟨book.id, c, actor⟩ ctx.now s)) <$> actorOf c s := by
        unfold enterPosted
        rw [changeBook_of_mem hmem]
        exact applyScore_eq c ctx.now { s with books := modify book.id (touched ctx.now) s.books }
      change Except.mapError _ (enterPosted book c ctx.now s >>= _) =
        _ <$> (Except.mapError _ (actorOf c s) >>= _)
      rw [henter]
      cases actorOf c s <;> rfl

lemma placeOf?_eq {a : Attempt} {book : GradeBook} {item : GradeItem}
    (found : submittedAttempt attempt s = .ok a)
    (placed : postableItem ctx book a.classSection a.quiz s = .ok item) :
    placeOf? ctx s attempt = some (item.id, a.enrollment) := by
  obtain ⟨row, hrow, hsubmitted⟩ := bind_eq_ok.mp found
  obtain ⟨-, hfind⟩ := when_eq_ok.mp hrow
  obtain rfl : row = some a := by
    cases row with
    | none => cases hsubmitted
    | some x =>
      simp only [guard_eq_ok, pure_eq_ok] at hsubmitted
      rw [hsubmitted.2]
  simp only [postableItem, bind_eq_ok, lift_eq_ok] at placed
  obtain ⟨v, htarget, row, hrow, hplaced⟩ := placed
  obtain rfl : row = some item := by
    cases row with
    | none => cases hplaced
    | some x =>
      simp only [guard_eq_ok, pure_eq_ok] at hplaced
      rw [hplaced.2]
  simp [placeOf?, Except.ok.inj hfind, htarget, hrow, Except.toOption]

section Entered

variable (ctx : Context) (d : Deposit) (now : Time.Instant) (s : Store)

lemma postableBook_enter (classSection : Int) : postableBook ctx classSection (d.enter now s) =
    (fun b => if b.id = d.book then touched now b else b) <$> postableBook ctx classSection s := by
  have hbook : existingBook classSection (d.enter now s) = _ :=
    existingBook_modify (keepsPlace_touched now) d.book classSection s
  unfold postableBook
  rw [hbook]
  simp only [map_bind, bind_map_left]
  refine bind_congr fun b => ?_
  have hstatus : (if b.id = d.book then touched now b else b).status = b.status := by split_ifs <;> rfl
  rw [hstatus]
  cases b.status.syncBar? ctx.settings.lateCorrections.truthy <;> rfl

lemma postableItem_enter {book book' : GradeBook} (same : book'.id = book.id) (classSection quiz : Int) :
    postableItem ctx book' classSection quiz (d.enter now s) = postableItem ctx book classSection quiz s := by
  have htarget : target ctx (.int classSection) (.int quiz) (d.enter now s) = _ :=
    target_changed ctx s (keepsPlace_touched now) d.book (.int classSection) (.int quiz)
  unfold postableItem
  rw [htarget, same]
  rfl

end Entered

lemma settle_enter (hi : Gradebook.Integrity s) (now : Time.Instant)
    (apart : placeOf? ctx s attempt ≠ some (d.change.item, d.change.enrollment)) :
    settle ctx attempt poster reason deadline (d.enter now s) =
      settle ctx attempt poster reason deadline s := by
  unfold settle
  refine bind_congr_of_ok fun a found => ?_
  refine bind_congr fun _ => ?_
  rw [postableBook_enter, bind_map_left]
  refine bind_congr fun book => ?_
  have hid : (if book.id = d.book then touched now book else book).id = book.id := by split_ifs <;> rfl
  rw [postableItem_enter ctx d now s hid]
  refine bind_congr_of_ok fun item placed => ?_
  have hplace : (d.change.item, d.change.enrollment) ≠ (item.id, a.enrollment) := fun h =>
    apart ((placeOf?_eq (s := s) found placed).trans (congrArg some h.symm))
  have hentry : (d.enter now s).entryOf? item.id a.enrollment = s.entryOf? item.id a.enrollment :=
    entryOf?_withScore_of_ne (hi.changeBook d.book (keepsPlace_touched now)) hplace
  rw [hentry, hid]
  rfl

lemma settle_eq_ok {deposit : Option Deposit}
    (h : settle ctx attempt poster reason deadline s = .ok (p, deposit)) :
    p.attempt = attempt ∧ placeOf? ctx s attempt = some (p.item, p.enrollment) ∧
      ∀ d, deposit = some d → placeOf? ctx s attempt = some (d.change.item, d.change.enrollment) := by
  simp only [settle, bind_eq_ok, exists_unit, lift_eq_ok, guard_eq_ok] at h
  obtain ⟨a, found, -, book, -, item, placed, score, -, text, -, changed, -, -, h⟩ := h
  have hplace : placeOf? ctx s attempt = some (item.id, a.enrollment) := placeOf?_eq found placed
  obtain ⟨-, hid, -⟩ := submittedAttempt_eq_ok found
  cases changed with
  | true =>
    obtain ⟨actor, -, h⟩ := bind_eq_ok.mp h
    obtain ⟨rfl, rfl⟩ := Prod.mk.inj (pure_eq_ok.mp h)
    refine ⟨hid, hplace, ?_⟩
    rintro d ⟨⟩
    exact hplace
  | false =>
    obtain ⟨rfl, rfl⟩ := Prod.mk.inj (pure_eq_ok.mp h)
    exact ⟨hid, hplace, by simp⟩

end Settling

section Requests

variable {ctx : Context} {r r' : PostRequest} {s t : Store} {p : Posted} {d d' : Deposit} {σ : Session}

/-- What a post answers and leaves is what it comes to. -/
lemma post_eq_comesTo : post ctx r (.ofStore s) =
    ((comesTo ctx r s).map Prod.fst, .ofStore (left ctx.now s (entering ctx r s))) := by
  unfold entering comesTo
  rcases hattempt : readPositive "Attempt id" r.attempt with fault | attempt
  · unfold post
    rw [hattempt]
    rfl
  rcases hdeadline : readDeadline? ctx.now r.timeout with fault | deadline
  · unfold post
    rw [hattempt, hdeadline]
    rfl
  rcases hretries : readSetting ctx.settings.conflictRetries with fault | retries
  · unfold post
    rw [hattempt, hdeadline, hretries]
    rfl
  simp only [bind, Except.bind]
  by_cases hnegative : retries < 0
  · rw [if_pos hnegative]
    unfold post
    rw [hattempt, hdeadline, hretries]
    change (if retries < 0 then pure none else _ : Action (Option Posted)) (.ofStore s) = _
    rw [if_pos hnegative]
    rfl
  · have reads : Reads ctx r attempt deadline := ⟨hattempt, hdeadline, retries, hretries, not_lt.mp hnegative⟩
    have hrun : (postOnce ctx attempt r.poster r.reason deadline).run s = _ := postOnce_run
    rw [if_neg hnegative]
    cases hsettle : settle ctx attempt r.poster r.reason deadline s with
    | error fault =>
      rw [hsettle] at hrun
      exact post_of_error reads rfl hrun
    | ok x =>
      rw [hsettle] at hrun
      exact post_of_ok reads rfl hrun

lemma comesTo_eq_ok {answer : Option Posted} {deposit : Option Deposit}
    (h : comesTo ctx r s = .ok (answer, deposit)) :
    ∃ attempt, readPositive "Attempt id" r.attempt = .ok attempt ∧
      (∀ p, answer = some p → p.attempt = attempt ∧ placeOf? ctx s attempt = some (p.item, p.enrollment)) ∧
      ∀ d, deposit = some d → placeOf? ctx s attempt = some (d.change.item, d.change.enrollment) := by
  simp only [comesTo, bind_eq_ok] at h
  obtain ⟨attempt, hattempt, deadline, -, retries, -, h⟩ := h
  refine ⟨attempt, hattempt, ?_⟩
  split_ifs at h
  · cases h
    exact ⟨by simp, by simp⟩
  · obtain ⟨⟨q, e⟩, hsettle, h⟩ := bind_eq_ok.mp h
    obtain ⟨rfl, rfl⟩ := Prod.mk.inj (pure_eq_ok.mp h)
    obtain ⟨hid, hplace, hdeposit⟩ := settle_eq_ok hsettle
    refine ⟨?_, hdeposit⟩
    rintro p ⟨⟩
    exact ⟨hid, hplace⟩

lemma comesTo_enter (hi : Gradebook.Integrity s) (now : Time.Instant)
    (apart : ∀ n, readPositive "Attempt id" r.attempt = .ok n →
      placeOf? ctx s n ≠ some (d.change.item, d.change.enrollment)) :
    comesTo ctx r (d.enter now s) = comesTo ctx r s := by
  unfold comesTo
  refine bind_congr_of_ok fun attempt hattempt => bind_congr fun deadline => bind_congr fun retries => ?_
  rw [settle_enter hi now (apart attempt hattempt)]

lemma entering_place (h : entering ctx r s = some d) :
    ∃ n, readPositive "Attempt id" r.attempt = .ok n ∧
      placeOf? ctx s n = some (d.change.item, d.change.enrollment) := by
  unfold entering at h
  cases hcomes : comesTo ctx r s with
  | error fault => rw [hcomes] at h; cases h
  | ok x =>
    rw [hcomes] at h
    obtain ⟨n, hn, -, hplace⟩ := comesTo_eq_ok hcomes
    exact ⟨n, hn, hplace d h⟩

lemma Apart.symm (h : Apart ctx s r r') : Apart ctx s r' r :=
  fun n n' place hn hn' hplace hplace' => h n' n place hn' hn hplace' hplace

lemma Apart.comesTo_left (hi : Gradebook.Integrity s) (h : Apart ctx s r r') :
    comesTo ctx r' (left ctx.now s (entering ctx r s)) = comesTo ctx r' s := by
  cases hd : entering ctx r s with
  | none => rfl
  | some d =>
    obtain ⟨n, hn, hplace⟩ := entering_place hd
    exact comesTo_enter hi ctx.now fun n' hn' => h n n' _ hn hn' hplace

lemma Apart.post_after (hi : Gradebook.Integrity s) (h : Apart ctx s r r') :
    post ctx r' (.ofStore (post ctx r (.ofStore s)).2.store) =
      ((comesTo ctx r' s).map Prod.fst,
        .ofStore (left ctx.now (left ctx.now s (entering ctx r s)) (entering ctx r' s))) := by
  have hcomes : comesTo ctx r' (left ctx.now s (entering ctx r s)) = comesTo ctx r' s := h.comesTo_left hi
  have hentering : entering ctx r' (left ctx.now s (entering ctx r s)) = entering ctx r' s :=
    congrArg (fun x => x.toOption.bind Prod.snd) hcomes
  rw [post_eq_comesTo (r := r)]
  change post ctx r' (.ofStore (left ctx.now s (entering ctx r s))) = _
  rw [post_eq_comesTo, hcomes, hentering]

lemma enter_comm (hi : Gradebook.Integrity s) (now : Time.Instant)
    (apart : (d.change.item, d.change.enrollment) ≠ (d'.change.item, d'.change.enrollment)) :
    SameUpToNumbers s (d'.enter now (d.enter now s)) (d.enter now (d'.enter now s)) := by
  have hbooks : modify d.book (touched now) (modify d'.book (touched now) s.books) =
      modify d'.book (touched now) (modify d.book (touched now) s.books) := by
    by_cases hid : d.book = d'.book
    · rw [hid]
    · exact modify_comm (f := touched now) (g := touched now) (fun _ => rfl) (fun _ => rfl) hid
  obtain ⟨-, rows⟩ := withScore_comm hi apart d.actor d'.actor now
  exact ⟨congrArg (fun books => { d.enter now (d'.enter now s) with books }) hbooks, rows⟩

lemma Apart.left_comm (hi : Gradebook.Integrity s) (h : Apart ctx s r r') :
    SameUpToNumbers s (left ctx.now (left ctx.now s (entering ctx r s)) (entering ctx r' s))
      (left ctx.now (left ctx.now s (entering ctx r' s)) (entering ctx r s)) := by
  cases hd : entering ctx r s with
  | none => exact .refl ..
  | some d =>
    cases hd' : entering ctx r' s with
    | none => exact .refl ..
    | some d' =>
      obtain ⟨n, hn, hplace⟩ := entering_place hd
      obtain ⟨n', hn', hplace'⟩ := entering_place hd'
      refine enter_comm hi ctx.now fun hsame => ?_
      exact h n n' _ hn hn' hplace (hsame ▸ hplace')

end Requests

section Sequences

variable {ctx : Context} {r : PostRequest} {s t : Store} {p : Posted} {posts : List Posted} {σ : Session}
  {item enrollment : Int}

lemma frame_of_post (hi : Gradebook.Integrity s) (posted : post ctx r (.ofStore s) = (.ok (some p), σ)) :
    σ.store.attempts = s.attempts ∧ σ.store.items = s.items ∧
      ∀ item enrollment, (p.item, p.enrollment) ≠ (item, enrollment) →
        σ.store.entryOf? item enrollment = s.entryOf? item enrollment := by
  obtain ⟨_, _, -, hrun, -⟩ := post_eq_some rfl posted
  obtain ⟨a, book, i, score, -, -, -, hp, settles⟩ := postOnce_eq_ok hrun
  obtain ⟨-, hitem, henrollment, -⟩ := Posted.mk.inj hp
  generalize p.changed = changed at settles
  generalize σ.store = t at settles
  cases settles with
  | same => exact ⟨rfl, rfl, fun _ _ _ => rfl⟩
  | entered =>
    refine ⟨rfl, rfl, fun item enrollment elsewhere => ?_⟩
    rw [hitem, henrollment] at elsewhere
    exact entryOf?_withScore_of_ne (hi.changeBook book.id (keepsPlace_touched ctx.now)) elsewhere

lemma scored_of_post (hs : Settled s) (hr : InRange s)
    (posted : post ctx r (.ofStore s) = (.ok (some p), σ)) :
    Scaled s p ∧
      ∃ e, σ.store.entryOf? p.item p.enrollment = some e ∧ scoreValue e.score = some p.score.value := by
  obtain ⟨_, _, -, hrun, -⟩ := post_eq_some rfl posted
  obtain ⟨a, book, i, score, -, postable, -, hp, settles⟩ := postOnce_eq_ok hrun
  obtain ⟨hattempt, hitem, henrollment, hscore, -⟩ := Posted.mk.inj hp
  obtain ⟨ha, -, -⟩ := submittedAttempt_eq_ok postable.found
  obtain ⟨hi, -⟩ := postableItem_eq_ok postable.placed
  obtain ⟨n, -, hmax⟩ := (hs.kept.items i hi).1.maxScore
  have hn : n ≤ 999999 := hundredths_le_of_value (hmax ▸ hr i hi)
  have within : Within n score := (scale_between (hmax ▸ postable.scaled)).2
  obtain ⟨-, -, e, he, -, value⟩ := settles.settled postable hs.kept hs.gradebooks (by omega) within
  refine ⟨⟨a, ha, i, hi, hattempt.symm, henrollment.symm, hitem.symm, ?_⟩, e, ?_, ?_⟩
  · rw [hscore, postable.scaled]
  · rw [hitem, henrollment, he]
  · rw [hscore, value]

lemma leads_of_post (posted : post ctx r (.ofStore s) = (.ok (some p), σ)) : Leads s σ.store := by
  have haccounts : (post ctx r).Ensures _ := post_accounts r
  obtain ⟨-, h⟩ := haccounts (.ofStore s) rfl
  rw [posted] at h
  exact h.leads

lemma Syncs.entryOf? (h : Syncs s posts t) (hs : Settled s)
    (elsewhere : ∀ p ∈ posts, (p.item, p.enrollment) ≠ (item, enrollment)) :
    t.entryOf? item enrollment = s.entryOf? item enrollment := by
  induction h with
  | done => rfl
  | post posted _ ih =>
    obtain ⟨hfirst, hrest⟩ := List.forall_mem_cons.mp elsewhere
    obtain ⟨-, -, hkept⟩ := frame_of_post hs.gradebooks posted
    exact (ih (hs.leads (leads_of_post posted)) hrest).trans (hkept item enrollment hfirst)

/-- The last score that is posted at a place is the one that is entered there. -/
lemma Syncs.last (h : Syncs s posts t) (hs : Settled s) (hr : InRange s) {before after : List Posted}
    (split : posts = before ++ p :: after)
    (last : ∀ q ∈ after, (q.item, q.enrollment) ≠ (p.item, p.enrollment)) :
    Scaled s p ∧ ∃ e, t.entryOf? p.item p.enrollment = some e ∧ scoreValue e.score = some p.score.value := by
  induction h generalizing before with
  | done => simp at split
  | @post ctx r s t q posts σ posted rest ih =>
    have hnext := hs.leads (leads_of_post posted)
    cases before with
    | nil =>
      obtain ⟨rfl, rfl⟩ := List.cons.inj split
      obtain ⟨scaled, hentry⟩ := scored_of_post hs hr posted
      rw [rest.entryOf? hnext last]
      exact ⟨scaled, hentry⟩
    | cons _ before =>
      obtain ⟨hattempts, hitems, -⟩ := frame_of_post hs.gradebooks posted
      obtain ⟨-, split⟩ := List.cons.inj split
      obtain ⟨⟨a, ha, i, hi, scaled⟩, hentry⟩ := ih hnext (fun i hi => hr i (hitems ▸ hi)) split
      exact ⟨⟨a, hattempts ▸ ha, i, hitems ▸ hi, scaled⟩, hentry⟩

end Sequences

section Runs

variable {P : Context → Service → Prop} {s : Store}

/-- Requests that name attempts whose scores are entered at different places, or are entered nowhere, are
answered the same in either order, and the stores that they leave then differ at most in the numbers of the
entries and of the rows of the log that are new. A post that succeeds reports the place of its attempt. If the
maxima of the items have at most four digits before the point, then after any sequence of posts that succeed
each place has the score of the last attempt that was posted there, on the scale of the item. -/
theorem posts_commute_and_last_counts (h : Reachable P s) :
    (∀ ctx r r', Apart ctx s r r' →
      let first := post ctx r (.ofStore s)
      let second := post ctx r' (.ofStore s)
      let first' := post ctx r (.ofStore second.2.store)
      let second' := post ctx r' (.ofStore first.2.store)
      first'.1 = first.1 ∧ second'.1 = second.1 ∧ SameUpToNumbers s second'.2.store first'.2.store) ∧
    (∀ ctx r t p σ, post ctx r (.ofStore t) = (.ok (some p), σ) →
      readPositive "Attempt id" r.attempt = .ok p.attempt ∧
        placeOf? ctx t p.attempt = some (p.item, p.enrollment)) ∧
    (InRange s → ∀ posts t, Syncs s posts t → ∀ before p after, posts = before ++ p :: after →
      (∀ q ∈ after, (q.item, q.enrollment) ≠ (p.item, p.enrollment)) →
      Scaled s p ∧
        ∃ e, t.entryOf? p.item p.enrollment = some e ∧ scoreValue e.score = some p.score.value) := by
  have hs := settled_of_reachable h
  refine ⟨fun ctx r r' apart => ?_, fun ctx r t p σ posted => ?_,
    fun hr posts t hposts before p after split last => hposts.last hs hr split last⟩
  · intro first second first' second'
    have hfirst : first' = _ := apart.symm.post_after hs.gradebooks
    have hsecond : second' = _ := apart.post_after hs.gradebooks
    rw [hfirst, hsecond]
    refine ⟨?_, ?_, apart.left_comm hs.gradebooks⟩
    · exact (congrArg Prod.fst post_eq_comesTo).symm
    · exact (congrArg Prod.fst post_eq_comesTo).symm
  · rw [post_eq_comesTo] at posted
    obtain ⟨⟨_, deposit⟩, hcomes, rfl⟩ := map_eq_ok.mp (congrArg Prod.fst posted)
    obtain ⟨attempt, hattempt, hplace, -⟩ := comesTo_eq_ok hcomes
    obtain ⟨rfl, hplace⟩ := hplace p rfl
    exact ⟨hattempt, hplace⟩

end Runs

/-- A student has submitted attempts at two quizzes, and no score has been posted yet. -/
def bothSubmitted : Store :=
  let ctx := (Scenario.State.start .standard).context
  let lazy : Context := { ctx with settings := { ctx.settings with eager := .bool false } }
  lazy.serve [.call (.submitAttempt ⟨.int 4, "STUDENT"⟩ (.int 3) (.list []) .null .null)] bothNamed

/-- Both quizzes have items of their own, so that their scores can be posted in either order; the new entries
have other numbers then. Where both scores go under one item, the one that is posted last stays. -/
theorem posts_commute_and_last_counts_of_both_submitted :
    let ctx := (Scenario.State.start .standard).context
    let common : Context := { ctx with item? := some (.int 1) }
    let s := bothSubmitted
    let r : PostRequest := ⟨.int 1, program, .null, .null⟩
    let r' : PostRequest := ⟨.int 3, ⟨.int 1, "TEACHER"⟩, .null, .null⟩
    let t := (post ctx r' (.ofStore (post ctx r (.ofStore s)).2.store)).2.store
    let u := (post ctx r (.ofStore (post ctx r' (.ofStore s)).2.store)).2.store
    (placeOf? ctx s 1 = some (2, 1) ∧ placeOf? ctx s 3 = some (3, 1) ∧ t.entries ≠ u.entries) ∧
      SameUpToNumbers s t u ∧
      ∃ p q v, Syncs s [p, q] v ∧ placeOf? common s 1 = some (q.item, q.enrollment) ∧
        (p.item, p.enrollment) = (q.item, q.enrollment) ∧ p.score ≠ q.score ∧
        ∃ e, v.entryOf? q.item q.enrollment = some e ∧ scoreValue e.score = some q.score.value := by
  intro ctx common s r r' t u
  have hbegun : Reachable (fun _ _ => True) Attempting.begunAndSubmitted := .serve (fun _ _ => trivial) _ _ _
  have hnamed : Reachable (fun _ _ => True) bothNamed := hbegun.run (.serve fun _ _ => trivial)
  have h : Reachable (fun _ _ => True) s := hnamed.run (.serve fun _ _ => trivial)
  let p : Posted := ⟨3, 1, 1, .finite false 0 (-2), true⟩
  let q : Posted := ⟨1, 1, 1, .finite false 200 (-2), true⟩
  have hplaces : placeOf? ctx s 1 = some (2, 1) ∧ placeOf? ctx s 3 = some (3, 1) ∧ t.entries ≠ u.entries := by
    decide +kernel
  have hposts : (post common r' (.ofStore s)).1 = .ok (some p) ∧
      (post common r (.ofStore (post common r' (.ofStore s)).2.store)).1 = .ok (some q) ∧
      placeOf? common s 1 = some (1, 1) ∧
      ∀ i ∈ s.items, i.maxScore.toDecimal = .finite false 2000 (-2) := by
    decide +kernel
  clear_value s
  obtain ⟨hfirst, hsecond, hcommon, hmaxima⟩ := hposts
  have hsyncs : Syncs s [p, q] _ :=
    .post (Action.eq_of_answer hfirst) (.post (Action.eq_of_answer hsecond) (.done _))
  have hr : InRange s := fun i hi => by
    rw [hmaxima i hi, Decimal.value_finite, Decimal.magnitude_hundredths]
    norm_num
  have hapart : Apart ctx s r r' := by
    intro n n' place hn hn' hplace hplace'
    obtain rfl : 1 = n := Except.ok.inj hn
    obtain rfl : 3 = n' := Except.ok.inj hn'
    rw [hplaces.1] at hplace
    rw [hplaces.2.1, ← hplace] at hplace'
    exact absurd hplace' (by decide)
  obtain ⟨hcommutes, -, hlast⟩ := posts_commute_and_last_counts h
  obtain ⟨-, -, hsame⟩ := hcommutes ctx r r' hapart
  obtain ⟨-, hentry⟩ := hlast hr _ _ hsyncs [p] q [] rfl (List.forall_mem_nil _)
  exact ⟨hplaces, hsame, p, q, _, hsyncs, hcommon, rfl, by decide, hentry⟩

end Assessment.Sync
