import Assessment.Api.Answer
import Assessment.Proofs.Api.Paths
import Assessment.Proofs.Attempt.Scores
import Assessment.Proofs.Json.Nesting

/-!
# Submissions whose body is no object

What a submission holds is read from an object. A list, a text, a number or a truth value in its place is
refused before anything is read from the store, but not if it is empty or zero, or if the request does not say
that it is JSON: then it counts as an object without members, and the attempt is submitted without answers.
What nests deeper than there is room for is not read, and nothing happens.
-/

namespace Assessment.Api

open Access Schema Text

/-- Where an attempt is submitted. -/
def submissionPath (attempt : Nat) : List Char :=
  "/api/attempts/".toList ++ (digitsOfNat attempt ++ "/submit".toList)

def submission : Endpoint := ⟨.post, .submitAttempt, some submissionBody, false⟩

/-- A request posts a JSON value to a path. -/
structure Request.Posts (r : Request) (path : List Char) (v : Value) : Prop where
  method : Method.ofName r.method = .post
  target : r.target = String.ofList path
  body : ∃ text, r.body = some text ∧ hasEncoding text = true ∧
    ∃ room, Json.readBytes room text.toUTF8.toList = .ok v

/-- Does a value count as the body of a request? -/
def Request.counts (r : Request) (v : Value) : Bool := r.contentType.any isJson && v.truthy

/-- How many lists and objects are open at most at once in what is read of the body of a request. -/
def Request.depth (r : Request) : Nat :=
  if r.contentType.any isJson then r.body.elim 0 fun body => Json.depthOfBytes body.toUTF8.toList else 0

section Routing

lemma isPlain_submissionPath (n : Nat) : ∀ c ∈ submissionPath n, isPlain c = true := by
  have hwords : ∀ c ∈ "/api/attempts/".toList ++ "/submit".toList, isPlain c = true :=
    List.all_eq_true.mp (by decide)
  intro c hc
  rcases List.mem_append.mp hc with hc | hc
  · exact hwords c (List.mem_append_left _ hc)
  · rcases List.mem_append.mp hc with hc | hc
    · exact isPlain_of_isDigit (isDigit_of_mem_digits hc)
    · exact hwords c (List.mem_append_right _ hc)

lemma segments_submissionPath (n : Nat) : segments (submissionPath n) =
    [[], "api".toList, "attempts".toList, digitsOfNat n, "submit".toList] := by
  have hdigits : '/' ∉ digitsOfNat n := fun h => absurd (isDigit_of_mem_digits h) (by decide)
  have hpath : submissionPath n =
      [] ++ '/' :: ("api".toList ++ '/' :: ("attempts".toList ++ '/' ::
        (digitsOfNat n ++ '/' :: "submit".toList))) := by
    rfl
  rw [hpath, segments_word_append (by decide), segments_word_append (by decide),
    segments_word_append (by decide), segments_word_append hdigits, segments_of_word (by decide)]

lemma destination_submission (n : Nat) :
    destination .post (submissionPath n) = .endpoint submission [("attempt_id", .int n)] := by
  have hroute : route? (submissionPath n) =
      some (⟨[.word "attempts", attemptNumber, .word "submit"], [submission]⟩, [("attempt_id", .int n)]) := by
    unfold route?
    rw [segments_submissionPath]
    simp [routes, fit?, attemptNumber, quizNumber, questionNumber, sectionNumber, readNumber?_digits, submission]
  unfold destination exactDestination?
  rw [hroute]
  rfl

end Routing

section Bodies

variable {ctx : Context} {t : Session} {r : Request} {caller : Caller} {n : Nat} {v : Value}

lemma load_of_no_object (b : Body) (h : ∀ members, v ≠ .object members) : b.load v = .error notAnObject := by
  cases v with
  | object members => exact absurd rfl (h members)
  | _ => rfl

lemma Request.Posts.readBody {path : List Char} (h : r.Posts path v) (nesting : Nat) :
    readBody nesting r =
      if r.depth ≤ nesting then .ok (if r.counts v then v else .object []) else .error .tooDeep := by
  obtain ⟨text, hbody, -, _, hread⟩ := h.body
  have hvalue := Json.readBytes_of_ok hread nesting
  unfold Api.readBody Request.counts Request.depth
  cases r.contentType.any isJson with
  | true =>
    simp only [hbody, Option.map_some, Option.elim_some, hvalue, if_true, Bool.true_and]
    by_cases hroom : Json.depthOfBytes text.toUTF8.toList ≤ nesting
    · simp only [if_pos hroom]
    · simp only [if_neg hroom]
  | false => rfl

/-- A request that is posted to an attempt's path is answered by the submission of the attempt. -/
lemma answer_submission (h : r.Posts (submissionPath n) v)
    (known : callerOf r.login t.store = .ok (some caller)) {response : Response} {u : Session}
    (called : callEndpoint ctx submission [("attempt_id", .int n)] r caller t = (response, u)) :
    answer ctx r t = (.ok response, u) := by
  have htarget : Target.ofText r.target = .ok ⟨true, submissionPath n⟩ := by
    rw [h.target]
    exact ofText_of_plain (isPlain_submissionPath n) (by decide)
  have hencoded : r.body.all hasEncoding = true := by
    obtain ⟨text, hbody, hencoded, -⟩ := h.body
    rw [hbody]
    exact hencoded
  have hpath : atPath ctx (submissionPath n) r t = (response, u) := by
    unfold atPath atEndpoint
    simp only [h.method, destination_submission, known, called]
    rfl
  unfold answer
  rw [htarget]
  simp only [hencoded, Bool.not_true, Bool.false_eq_true, if_false, if_true, hpath]

lemma exists_outcome (ctx : Context) {α : Type} {a : Action α} {report : Store → α → Value} {c : Call}
    (run : c.run ctx = Call.reported a report) (t : Session) : ∃ o u, c.answer ctx t = (some o, u) := by
  unfold Call.answer
  rw [run]
  rcases h : a t with ⟨fault | x, u⟩
  · have hrun : Call.reported a report t = (.error fault, u) := Action.bind_of_error h
    exact ⟨_, u, by rw [hrun]⟩
  · have hrun : Call.reported a report t = (.ok (some (report u.store x)), u) := Action.bind_of_ok h
    exact ⟨_, u, by rw [hrun]; rfl⟩

lemma submission_refused (hbody : readBody ctx.nesting r = .ok v) (h : ∀ members, v ≠ .object members) :
    callEndpoint ctx submission [("attempt_id", .int n)] r caller t = (.unfit notAnObject, t) := by
  unfold callEndpoint Endpoint.load submission
  simp only [hbody, load_of_no_object submissionBody h, Except.mapError]

lemma submission_of_empty (hbody : readBody ctx.nesting r = .ok (.object [])) {o : Outcome} {u : Session}
    (called : (Call.submitAttempt caller (.int n) (.list []) .null .null).answer ctx t = (some o, u)) :
    callEndpoint ctx submission [("attempt_id", .int n)] r caller t = (.ofOutcome false o, u) := by
  have hload : submissionBody.load (.object []) = .ok (.object [("answers", .list [])]) := rfl
  have hcall : (Operation.submitAttempt.call caller
      (parameters [("attempt_id", .int n)] (.object [("answers", .list [])]))).answer ctx t = (some o, u) := called
  unfold callEndpoint Endpoint.load submission
  simp only [hbody, hload, Except.mapError, hcall]

lemma submission_unread {m : Json.Misread} (hbody : readBody ctx.nesting r = .error m) :
    callEndpoint ctx submission [("attempt_id", .int n)] r caller t = (.internal, t) := by
  unfold callEndpoint Endpoint.load submission
  simp only [hbody]

end Bodies

/-- A user posts a JSON value that is no object to the path where an attempt is submitted. If what is read of it
nests deeper than there is room for, then the answer is that of a failure that nobody foresaw, and the session is
as it was. Otherwise, if the request says that it is JSON, and the value is not empty, zero or false, then the
answer is 400 with the code for invalid input, and the session is as it was too. What is left is submitted as no
answers, with whatever comes of that. -/
theorem submissions_without_object_are_refused_unless_empty {ctx : Context} {t : Session} {r : Request}
    {caller : Caller} {n : Nat} {v : Value} (known : callerOf r.login t.store = .ok (some caller))
    (posts : r.Posts (submissionPath n) v) (noObject : ∀ members, v ≠ .object members) :
    (ctx.nesting < r.depth → answer ctx r t = (.ok .internal, t)) ∧
    (r.depth ≤ ctx.nesting → r.counts v = true → ∃ response, answer ctx r t = (.ok response, t) ∧
      response.status = 400 ∧ response.body.member? "code" = some (.text FailureKind.invalidInput.code)) ∧
    (r.depth ≤ ctx.nesting → r.counts v = false → ∃ o u,
      (Call.submitAttempt caller (.int n) (.list []) .null .null).answer ctx t = (some o, u) ∧
      answer ctx r t = (.ok (.ofOutcome false o), u)) := by
  have hbody := posts.readBody ctx.nesting
  refine ⟨fun deep => ?_, fun room filled => ?_, fun room empty => ?_⟩
  · rw [if_neg (not_le.mpr deep)] at hbody
    exact answer_submission posts known (submission_unread hbody)
  · rw [if_pos room, if_pos filled] at hbody
    exact ⟨_, answer_submission posts known (submission_refused hbody noObject), rfl, rfl⟩
  · rw [if_pos room, empty, if_neg Bool.false_ne_true] at hbody
    obtain ⟨o, u, hcalled⟩ := exists_outcome ctx
      (c := .submitAttempt caller (.int n) (.list []) .null .null) rfl t
    exact ⟨o, u, hcalled, answer_submission posts known (submission_of_empty hbody hcalled)⟩

/-- The student of the attempt that is in progress posts a text of JSON to it. -/
def posted (json : String) : Request :=
  ⟨.account 5, "POST", String.ofList (submissionPath 2), some "application/json", some json⟩

lemma posts_posted {json : String} {v : Value} {r : Nat} (encoded : hasEncoding json = true)
    (read : Json.readBytes r json.toUTF8.toList = .ok v) : (posted json).Posts (submissionPath 2) v := by
  have hmethod : Method.ofName "POST" = .post := by decide +kernel
  exact ⟨hmethod, rfl, json, rfl, encoded, r, read⟩

lemma posts_list : (posted "[1]").Posts (submissionPath 2) (.list [.int 1]) :=
  posts_posted (r := 1) (by decide +kernel) (by decide +kernel)

lemma posts_empty_list : (posted "[]").Posts (submissionPath 2) (.list []) :=
  posts_posted (r := 1) (by decide +kernel) (by decide +kernel)

lemma posts_list_of_list : (posted "[[1]]").Posts (submissionPath 2) (.list [.list [.int 1]]) :=
  posts_posted (r := 2) (by decide +kernel) (by decide +kernel)

lemma callerOf_posted (json : String) :
    callerOf (posted json).login (Session.ofStore Attempting.begunAndSubmitted).store =
      .ok (some ⟨.int 5, "STUDENT"⟩) := by
  have huser : Table.find? 5 (Session.ofStore Attempting.begunAndSubmitted).store.users =
      some ⟨5, "STUDENT", true⟩ := by decide +kernel
  have hstorable : isStorable 5 = true := by decide
  simp [callerOf, posted, hstorable, huser]

/-- The attempt that is in progress is submitted without answers. -/
def emptySubmission : Option Outcome × Session :=
  (Call.submitAttempt ⟨.int 5, "STUDENT"⟩ (.int 2) (.list []) .null .null).answer
    (Scenario.State.start .standard).context (.ofStore Attempting.begunAndSubmitted)

lemma emptySubmission_succeeds : emptySubmission.1.any Outcome.isSuccess = true := by decide +kernel

lemma emptySubmission_submits : emptySubmission.2.store ≠ Attempting.begunAndSubmitted := by decide +kernel

/-- A list with an item is refused, an empty one is not, and a list in a list is not read where there is room for
one list only. -/
theorem submissions_without_object_are_refused_unless_empty_of_lists :
    let ctx := (Scenario.State.start .standard).context
    let t := Session.ofStore Attempting.begunAndSubmitted
    (∃ response, answer ctx (posted "[1]") t = (.ok response, t) ∧ response.status = 400) ∧
      (∃ data u, answer ctx (posted "[]") t = (.ok (.ofOutcome false (.success data)), u)) ∧
      answer { ctx with nesting := 1 } (posted "[[1]]") t = (.ok .internal, t) := by
  intro ctx t
  refine ⟨?_, ?_, ?_⟩
  · have hroom : (posted "[1]").depth ≤ ctx.nesting := by decide +kernel
    have hfilled : (posted "[1]").counts (.list [.int 1]) = true := by decide +kernel
    obtain ⟨response, hanswer, hstatus, -⟩ := (@submissions_without_object_are_refused_unless_empty ctx _ _ _ _ _
      (callerOf_posted "[1]") posts_list nofun).2.1 hroom hfilled
    exact ⟨response, hanswer, hstatus⟩
  · have hroom : (posted "[]").depth ≤ ctx.nesting := by decide +kernel
    have hempty : (posted "[]").counts (.list []) = false := by decide +kernel
    obtain ⟨o, u, hcalled, hanswer⟩ := (@submissions_without_object_are_refused_unless_empty ctx _ _ _ _ _
      (callerOf_posted "[]") posts_empty_list nofun).2.2 hroom hempty
    obtain ⟨data, hdata⟩ := success_of_any emptySubmission_succeeds
    have hsame : o = .success data := Option.some.inj ((congrArg Prod.fst hcalled).symm.trans hdata)
    exact ⟨data, u, hsame ▸ hanswer⟩
  · have hdeep : 1 < (posted "[[1]]").depth := by decide +kernel
    exact (@submissions_without_object_are_refused_unless_empty { ctx with nesting := 1 } _ _ _ _ _
      (callerOf_posted "[[1]]") posts_list_of_list nofun).1 hdeep

/-- An empty list finishes the attempt that it is posted to. -/
theorem empty_list_finishes_attempt :
    ¬∀ (s : Store) (a : Attempt) (r : Request) (v : Value), Reachable (fun _ _ => True) s → a ∈ s.attempts →
      a.status = .inProgress → r.login = .account a.student → r.Posts (submissionPath a.id.toNat) v →
      r.contentType = some "application/json" → (∀ members, v ≠ .object members) → v ≠ .null →
        ∀ ctx : Context, (answer ctx r (.ofStore s)).2.store = s := by
  intro hclaim
  have hattempt : ∃ a ∈ Attempting.begunAndSubmitted.attempts, a.status = .inProgress ∧ a.student = 5 ∧
      a.id.toNat = 2 := by decide +kernel
  obtain ⟨a, ha, hrunning, hstudent, hid⟩ := hattempt
  have hreachable : Reachable (fun _ _ => True) Attempting.begunAndSubmitted := .serve (fun _ _ => trivial) _ _ _
  have hlogin : (posted "[]").login = .account a.student := by rw [hstudent]; rfl
  have hposts : (posted "[]").Posts (submissionPath a.id.toNat) (.list []) := by
    rw [hid]
    exact posts_empty_list
  have hkept := hclaim _ a _ _ hreachable ha hrunning hlogin hposts rfl nofun nofun
    (Scenario.State.start .standard).context
  obtain ⟨o, u, hcalled⟩ := exists_outcome (Scenario.State.start .standard).context
    (c := .submitAttempt ⟨.int 5, "STUDENT"⟩ (.int 2) (.list []) .null .null) rfl
    (.ofStore Attempting.begunAndSubmitted)
  have hempty : (posted "[]").counts (.list []) = false := by decide +kernel
  have hroom : (posted "[]").depth ≤ (Scenario.State.start .standard).context.nesting := by decide +kernel
  have hbody : readBody (Scenario.State.start .standard).context.nesting (posted "[]") = .ok (.object []) := by
    rw [posts_empty_list.readBody, if_pos hroom, hempty]
    rfl
  have hanswer := answer_submission posts_empty_list (callerOf_posted "[]") (submission_of_empty hbody hcalled)
  rw [hanswer] at hkept
  have hsame : emptySubmission.2 = u := congrArg Prod.snd hcalled
  dsimp only at hkept
  rw [← hsame] at hkept
  exact emptySubmission_submits hkept

end Assessment.Api
