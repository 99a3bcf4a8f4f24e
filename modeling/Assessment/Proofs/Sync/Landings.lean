import Assessment.Proofs.Attempt.Selections
import Assessment.Proofs.Sync.Scope
import Assessment.Proofs.Sync.Targets

/-!
# Where posted scores land

Each score that is posted is that of an attempt at a quiz, and once the quiz has an item of its own, that item
takes all of them, whatever else the program is asked for.
-/

namespace Assessment.Sync

open Access Attempting Gradebook Table

/-- An attempt is in the section of its quiz, which was published. -/
def Seated (s : Store) (a : Attempt) : Prop :=
  ∃ q ∈ s.quizzes, q.id = a.quiz ∧ q.classSection = a.classSection ∧ q.status ≠ .draft

/-- A score that was posted is that of an attempt at a quiz. -/
structure ScoreOf (s : Store) (p : Posted) (q : Quiz) : Prop where
  quiz : q ∈ s.quizzes
  attempt : ∃ a ∈ s.attempts, a.id = p.attempt ∧ a.quiz = q.id ∧ a.enrollment = p.enrollment

/-- The score of an attempt at a quiz is posted, as names of items say, after a run of the program. -/
def PostedAfter (P : Context → Service → Prop) (s : Store) (q : Quiz) (p : Posted) : Prop :=
  ∃ (t : Store) (ctx : Context) (op : Service),
    Run P s t ∧ ctx.item? = none ∧ p ∈ op.posts ctx t ∧ ScoreOf (op.after ctx t) p q

section Quizzes

variable {ctx : Context} {s t : Store} {op : Service} {p : Posted} {q : Quiz} {i : GradeItem}

lemma seated_of_step (hi : Quiz.Integrity s) (h : ∀ a ∈ s.attempts, Seated s a) (w : Step ctx s op t) :
    ∀ a ∈ t.attempts, Seated t a := by
  intro a ha
  cases w with
  | quiz w =>
    rw [w.frame] at ha
    obtain ⟨q, hq, hid, hsection, taken⟩ := h a ha
    obtain ⟨q', hq', rfl | ⟨-, now, rfl⟩⟩ := w.later hi hq taken
    · exact ⟨q', hq', hid, hsection, taken⟩
    · exact ⟨_, hq', hid, hsection, nofun⟩
  | attempt w =>
    cases w with
    | start found _ _ opened =>
      rcases List.mem_append.mp ha with ha | ha
      · exact h a ha
      · rw [List.mem_singleton.mp ha]
        obtain ⟨hstatus, -⟩ := requireOpen_eq_ok opened
        exact ⟨_, found, rfl, rfl, by simp [hstatus]⟩
    | submit =>
      obtain ⟨x, hx, rfl⟩ := List.mem_map.mp ha
      obtain ⟨q, hq, hid, hsection, taken⟩ := h x hx
      refine ⟨q, hq, ?_⟩
      split_ifs
      all_goals exact ⟨hid, hsection, taken⟩
  | book w | opening _ w | posting _ w | queueing _ w =>
    rw [w.frame] at ha ⊢
    exact h a ha

/-- What hangs together in a store, as far as it matters where scores land. -/
structure Settled (s : Store) : Prop where
  quizzes : Quiz.Integrity s
  attempts : Attempting.Integrity s
  gradebooks : Gradebook.Integrity s
  kept : Gradebook.Kept s
  seated : ∀ a ∈ s.attempts, Seated s a

lemma Settled.step (h : Settled s) (w : Step ctx s op t) : Settled t where
  quizzes := h.quizzes.step w
  attempts := h.attempts.step h.quizzes w
  gradebooks := h.gradebooks.step w
  kept := h.kept.step h.gradebooks w
  seated := seated_of_step h.quizzes h.seated w

lemma settled_of_reachable {P : Context → Service → Prop} (h : Reachable P s) : Settled s := by
  refine h.invariant (fun users sections enrollments => ?_) fun _ _ _ _ _ hs w => hs.step w
  exact ⟨Quiz.integrity_ofSchool .., Attempting.integrity_ofSchool .., Gradebook.integrity_ofSchool ..,
    ⟨List.forall_mem_nil _, .nil, .nil, List.forall_mem_nil _⟩, List.forall_mem_nil _⟩

lemma Settled.leads (h : Settled s) (hst : Leads s t) : Settled t := by
  induction hst with
  | refl => exact h
  | tail _ w ih =>
    obtain ⟨_, _, -, w⟩ := w
    exact ih.step w

lemma Settled.distinct (h : Settled s) : Distinct s := ⟨h.gradebooks.sections, h.kept.names⟩

lemma Settled.progress (h : Settled s) (hst : Leads s t) {a : Attempt} (ha : a ∈ s.attempts) :
    ∃ a' ∈ t.attempts, Progress a a' := by
  induction hst with
  | refl => exact ⟨a, ha, .inl rfl⟩
  | tail hsu w ih =>
    obtain ⟨b, hb, hab⟩ := ih
    obtain ⟨_, _, -, w⟩ := w
    obtain ⟨c, hc, hbc⟩ := progress_of_step (h.leads hsu).attempts hb w
    exact ⟨c, hc, hab.trans hbc⟩

lemma Accounts.scoreOf (hs : Settled s) {posts : List Posted} (h : Accounts ctx posts s t) (hp : p ∈ posts) :
    ∃ q, ScoreOf t p q := by
  obtain ⟨u, before, after, a, book, item, score, postable, hposted⟩ := h.landed p hp
  obtain ⟨a', ha', hprogress⟩ := (hs.leads before).progress after postable.places.1
  obtain ⟨-, -, henrollment, -⟩ := Posted.mk.inj hposted
  obtain ⟨q, hq, hid, -⟩ := (hs.leads h.leads).seated a' ha'
  refine ⟨q, hq, a', ha', ?_, hid.symm, ?_⟩
  · rw [hprogress.id_eq, hposted]
  · rw [hprogress.enrollment_eq, henrollment]

/-- Once a quiz has an item of its own, its scores are entered under that item. -/
lemma Accounts.item_of_own (hs : Settled s) (standard : ctx.item? = none) {posts : List Posted}
    (h : Accounts ctx posts s t) (hp : p ∈ posts) (scoreOf : ScoreOf t p q) (own : OwnItem s q i) :
    p.item = i.id := by
  obtain ⟨u, before, after, a, book, item, score, postable, hposted⟩ := h.landed p hp
  have hu := hs.leads before
  have ht := hs.leads h.leads
  obtain ⟨a', ha', hprogress⟩ := hu.progress after postable.places.1
  obtain ⟨x, hx, hxid, hxquiz, -⟩ := scoreOf.attempt
  obtain ⟨hattempt, hitem, -⟩ := Posted.mk.inj hposted
  -- The attempt that the score is of is the one that was found when it was posted.
  have hsame : x = a' := ht.attempts.attempts.eq_of_id_eq hx ha'
    ((hxid.trans hattempt).trans hprogress.id_eq.symm)
  obtain ⟨y, hy, hyid, hysection, -⟩ := ht.seated x hx
  have hquiz : y = q := ht.quizzes.quizzes.eq_of_id_eq hy scoreOf.quiz (hyid.trans hxquiz)
  have hnamed : NamedIn u a.classSection (quizItemName (.int a.quiz)) i := by
    have hown := own.leads before
    rwa [← hquiz, hysection, hyid, hsame, hprogress.classSection_eq, hprogress.quiz_eq] at hown
  rw [hitem]
  exact hu.distinct.item_of_own standard postable.placed hnamed

end Quizzes

section Runs

variable {P : Context → Service → Prop} {s : Store} {q : Quiz} {p : Posted} {i : GradeItem}

lemma notBatch_of_posts {ctx : Context} {op : Service} {t : Store} (hp : p ∈ op.posts ctx t) :
    ∀ caller r, op ≠ .call (.upsertScores caller r) := by
  rintro caller r rfl
  cases hp

lemma Run.leads {t : Store} (h : Run P s t) : Leads s t :=
  Relation.ReflTransGen.mono (fun _ _ ⟨ctx, op, _, w⟩ => ⟨ctx, op, trivial, w⟩) _ _ h.steps

lemma PostedAfter.item_eq (hs : Settled s) (h : PostedAfter P s q p) (own : OwnItem s q i) :
    p.item = i.id := by
  obtain ⟨t, ctx, op, hrun, standard, hp, scoreOf⟩ := h
  have accounts : Accounts ctx (op.posts ctx t) t (op.after ctx t) :=
    service_accounts op (notBatch_of_posts hp) t
  exact accounts.item_of_own (hs.leads (Run.leads hrun)) standard hp scoreOf (own.leads (Run.leads hrun))

/-- In every store that can be reached, the item for the scores of a quiz is the one item of the section's
book that is named after the quiz, or else the one for all quizzes, or there is none; the order in which
items are read does not matter. Whatever the program is asked for, it writes scores only where it posts them,
a batch apart that a teacher enters, and each of them is that of an attempt at a quiz. Once the quiz has an
item of its own, that item takes all of its scores from then on; so two quizzes that have items of their own
never share an entry. -/
theorem quiz_scores_keep_their_items (h : Reachable P s) :
    (∀ (ctx : Context) (classSection quiz : Int), ctx.item? = none → isStorable classSection = true →
      ∃ r, Resolves s classSection quiz r ∧ (∀ r', Resolves s classSection quiz r' → r' = r) ∧
        ∀ t : Store, t = { s with items := t.items } → t.items.Perm s.items →
          target ctx (.int classSection) (.int quiz) t = .ok (.ofInt? (r.map (·.id)))) ∧
    (∀ t, Run P s t → ∀ (ctx : Context) (op : Service),
      (∀ caller r, op ≠ .call (.upsertScores caller r)) → WrittenBy (op.posts ctx t) t (op.after ctx t)) ∧
    (∀ t, Run P s t → ∀ (ctx : Context) (op : Service),
      ∀ p ∈ op.posts ctx t, ∃ q, ScoreOf (op.after ctx t) p q) ∧
    (∀ q p i, OwnItem s q i → PostedAfter P s q p → p.item = i.id) ∧
    ∀ q q' p p' i i', q.id ≠ q'.id → OwnItem s q i → OwnItem s q' i' → PostedAfter P s q p →
      PostedAfter P s q' p' → p.item ≠ p'.item := by
  have hs := settled_of_reachable h
  have hd := hs.distinct
  have lands {q : Quiz} {p : Posted} {i : GradeItem} (own : OwnItem s q i) (posted : PostedAfter P s q p) :
      p.item = i.id := posted.item_eq hs own
  refine ⟨fun ctx n quiz standard storable => ?_, fun t hrun ctx op notBatch => ?_,
    fun t hrun ctx op p hp => ?_, fun q p i => lands, fun q q' p p' i i' differ own own' posted posted' => ?_⟩
  · obtain ⟨r, hr⟩ := exists_resolves s n quiz
    refine ⟨r, hr, fun r' hr' => hd.resolves_unique hr' hr, fun t ht items => ?_⟩
    have hbooks : t.books = s.books := by rw [ht]
    exact (hd.perm hbooks items).target_eq standard storable (hr.perm hbooks items)
  · exact (service_accounts op notBatch t).written (integrity_of_leads hs.gradebooks (Run.leads hrun))
  · exact (service_accounts op (notBatch_of_posts hp) t).scoreOf (hs.leads (Run.leads hrun)) hp
  · intro hsame
    have hids : i.id = i'.id := (lands own posted).symm.trans (hsame.trans (lands own' posted'))
    have hitem : i = i' := hs.gradebooks.items.eq_of_id_eq own.item own'.item hids
    exact differ (quizItemName_injective (own.named.symm.trans (hitem ▸ own'.named)))

end Runs

/-- A student has submitted one quiz and works on another one; the book has an item for each of them, and one
for all quizzes. -/
def bothNamed : Store :=
  let teacher : Caller := ⟨.int 1, "TEACHER"⟩
  let option (text : String) (correct : Bool) : Value :=
    .object [("answer_text", .text text), ("is_correct", .bool correct)]
  let question : Quiz.QuestionRequest :=
    ⟨.text "2 + 2 = 4", .text "TRUE_FALSE", .int 1, .list [option "True" true, option "False" false]⟩
  let item (name : String) : Service := .call (.addItem teacher
    ⟨.int 1, .text name, .int 20, .null, .bool true, .null, .null⟩)
  (Scenario.State.start .standard).context.serve
    ([.call (.createDraft teacher
        ⟨.int 1, .text "Products", .int 10, .null, .null, .null, .null, .null, .null⟩)] ++
      List.replicate 10 (.call (.addQuestion teacher (.int 2) question)) ++
      [.call (.publish teacher (.int 2) .null .null),
        .call (.startAttempt ⟨.int 4, "STUDENT"⟩ (.int 2) .null),
        item "Quiz", item " quiz:1 ", item "Quiz:2"]) begunAndSubmitted

/-- Both quizzes have items of their own, and a third one would take the common item. The teacher posts the
score of the first quiz, the submission of the second one posts that, and each lands in the item of its
quiz. -/
theorem quiz_scores_keep_their_items_of_both :
    let ctx := (Scenario.State.start .standard).context
    let s := bothNamed
    let backwards : Store := { s with items := s.items.reverse }
    target ctx (.int 1) (.int 1) backwards = .ok (.int 2) ∧
      target ctx (.int 1) (.int 3) backwards = .ok (.int 1) ∧
      ∃ q ∈ s.quizzes, ∃ q' ∈ s.quizzes, ∃ p p', q.id = 1 ∧ q'.id = 2 ∧
        PostedAfter (fun _ _ => True) s q p ∧ PostedAfter (fun _ _ => True) s q' p' ∧
        p.item = 2 ∧ p'.item = 3 ∧ p.enrollment = p'.enrollment ∧ p.item ≠ p'.item := by
  intro ctx s backwards
  let posting : Service := .call (.postScore ⟨.int 1, ⟨.int 1, "TEACHER"⟩, .text "Quiz counts", .null⟩)
  let submission : Service := .call (.submitAttempt ⟨.int 4, "STUDENT"⟩ (.int 3) (.list []) .null .null)
  have hbegun : Reachable (fun _ _ => True) begunAndSubmitted := .serve (fun _ _ => trivial) _ _ _
  have h : Reachable (fun _ _ => True) s := hbegun.run (.serve fun _ _ => trivial)
  have hnames : (∃ b ∈ s.books, b.id = 1 ∧ b.classSection = 1) ∧
      (∃ i ∈ s.items, ∃ j ∈ s.items, ∃ k ∈ s.items,
        (i.id = 2 ∧ i.book = 1 ∧ nameKey i.name = quizItemName (.int 1)) ∧
        (j.id = 3 ∧ j.book = 1 ∧ nameKey j.name = quizItemName (.int 2)) ∧
        k.id = 1 ∧ k.book = 1 ∧ nameKey k.name = commonItemName) ∧
      (∀ i ∈ s.items, nameKey i.name ≠ quizItemName (.int 3)) ∧
      ∃ q ∈ s.quizzes, ∃ q' ∈ s.quizzes, (q.id = 1 ∧ q.classSection = 1) ∧
        q'.id = 2 ∧ q'.classSection = 1 := by decide +kernel
  have hposts : (∃ p ∈ posting.posts ctx s, p.attempt = 1 ∧ p.enrollment = 1) ∧
      (∃ p ∈ submission.posts ctx s, p.attempt = 3 ∧ p.enrollment = 1) ∧
      (∃ a ∈ (posting.after ctx s).attempts, a.id = 1 ∧ a.quiz = 1 ∧ a.enrollment = 1) ∧
      (∃ a ∈ (submission.after ctx s).attempts, a.id = 3 ∧ a.quiz = 2 ∧ a.enrollment = 1) ∧
      (posting.after ctx s).quizzes = s.quizzes ∧ (submission.after ctx s).quizzes = s.quizzes := by
    decide +kernel
  clear_value s
  obtain ⟨⟨b, hb, hbid, hsection⟩, ⟨i, hi, j, hj, k, hk, ⟨hiid, hibook, hiname⟩, ⟨hjid, hjbook, hjname⟩, hkid,
    hkbook, hkname⟩, hunnamed, q, hq, q', hq', ⟨hqid, hqsection⟩, hqid', hqsection'⟩ := hnames
  obtain ⟨⟨p, hp, hpattempt, hpenrollment⟩, ⟨p', hp', hpattempt', hpenrollment'⟩,
    ⟨a, ha, haid, haquiz, haenrollment⟩, ⟨a', ha', haid', haquiz', haenrollment'⟩, hkept, hkept'⟩ := hposts
  have own : NamedIn s 1 (quizItemName (.int 1)) i := ⟨hi, ⟨b, hb, hbid.trans hibook.symm, hsection⟩, hiname⟩
  have own' : NamedIn s 1 (quizItemName (.int 2)) j := ⟨hj, ⟨b, hb, hbid.trans hjbook.symm, hsection⟩, hjname⟩
  have common : NamedIn s 1 commonItemName k := ⟨hk, ⟨b, hb, hbid.trans hkbook.symm, hsection⟩, hkname⟩
  have hown : OwnItem s q i := by
    unfold OwnItem
    rw [hqid, hqsection]
    exact own
  have hown' : OwnItem s q' j := by
    unfold OwnItem
    rw [hqid', hqsection']
    exact own'
  have hfirst : PostedAfter (fun _ _ => True) s q p := by
    refine ⟨s, ctx, posting, .done, rfl, hp, hkept ▸ hq, a, ha, ?_, ?_, ?_⟩
    · rw [haid, hpattempt]
    · rw [haquiz, hqid]
    · rw [haenrollment, hpenrollment]
  have hsecond : PostedAfter (fun _ _ => True) s q' p' := by
    refine ⟨s, ctx, submission, .done, rfl, hp', hkept' ▸ hq', a', ha', ?_, ?_, ?_⟩
    · rw [haid', hpattempt']
    · rw [haquiz', hqid']
    · rw [haenrollment', hpenrollment']
  obtain ⟨hresolves, -, -, hlands, happart⟩ := quiz_scores_keep_their_items h
  have hreads {n : Int} {x : GradeItem} (resolves : Resolves s 1 n (some x)) :
      target ctx (.int 1) (.int n) backwards = .ok (.int x.id) := by
    obtain ⟨r, -, hunique, hread⟩ := hresolves ctx 1 n rfl rfl
    rw [hread backwards rfl (List.reverse_perm _), ← hunique _ resolves]
    rfl
  have hitem : p.item = i.id := hlands _ _ _ hown hfirst
  have hitem' : p'.item = j.id := hlands _ _ _ hown' hsecond
  have hquizzes : q.id ≠ q'.id := by
    rw [hqid, hqid']
    decide
  refine ⟨?_, ?_, q, hq, q', hq', p, p', hqid, hqid', hfirst, hsecond, hitem.trans hiid, hitem'.trans hjid,
    hpenrollment.trans hpenrollment'.symm, happart q q' p p' i j hquizzes hown hown' hfirst hsecond⟩
  · rw [hreads (.own own), hiid]
  · rw [hreads (.common (fun x hx => hunnamed x hx.item hx.named) common), hkid]

end Assessment.Sync
