import Assessment.Proofs.Gradebook.Answering
import Assessment.Proofs.Gradebook.Overrides
import Assessment.Proofs.Number.Reading
import Assessment.Proofs.Quiz.Edits

/-!
# Numbers that are accepted

The checks of maxima, scores and points accept numbers of hundredths with up to 28 digits. A column holds the
nearest double, and what is read of it is the nearest number of hundredths. Up to `2 ^ 46` that is the number
that was accepted; the next number of hundredths above is already read back as another one.
-/

namespace Assessment

open Access Amount Gradebook Number Quiz Request

namespace Gradebook

section Items

variable {ctx : Context} {caller : Caller} {r : ItemRequest} {s : Store}

lemma addItem_succeeded (h : (Call.addItem caller r).Succeeds ctx s) :
    ∃ d i, checkMaxScore r.maxScore = .ok d ∧
      ((Service.call (.addItem caller r)).after ctx s).items = s.items ++ [i] ∧
      i.maxScore = (ofDecimal? d).getD .zero := by
  obtain ⟨a, σ, hadd, hafter⟩ := h.ran rfl
  obtain ⟨item, σ₁, hread, hadd⟩ := Action.bind_succeeded hadd
  obtain ⟨hchecked, rfl⟩ := Action.read_eq_ok.mp hread
  obtain ⟨b, σ₂, hopen, henter⟩ := Action.bind_succeeded hadd
  obtain ⟨hopened, hrivals⟩ := Action.commit_succeeded rfl hopen
  obtain ⟨hentered, -⟩ := Action.commit_succeeded hrivals henter
  have hopens := openBook_run hopened
  have hitems : σ₂.store.items = s.items := by
    rcases hopens with hsame | w
    · rw [hsame]
      rfl
    · rw [w.frame]
      rfl
  have w := enterItem_writes ((checkItem_opened hopens).trans hchecked) hentered
  rw [hafter, ← hitems]
  generalize σ₂.store = t at w
  generalize σ.store = u at w
  cases w with
  | item checked => exact ⟨_, _, (checkItem_eq_ok checked).2.2.1, rfl, rfl⟩

end Items

section Scores

variable {P : Context → Service → Prop} {ctx : Context} {caller : Caller} {r : BatchRequest} {s t : Store}
  {book : GradeBook} {classSection : Int} {rows enrollments : List Value} {cells : List ScoreCell}
  {changes : List BatchChange} {c : ScoreCell}

lemma readsBack_entered (hc : InHundredths c.score) (nonneg : ∀ d, c.score = some d → 0 ≤ d.value) :
    Option.Rel ReadsBack c.score (c.score.bind ofDecimal?) := by
  cases hd : c.score with
  | none => exact .none
  | some d =>
    obtain ⟨sign, k, hlt, rfl⟩ := hc d hd
    obtain ⟨a, ha, hread⟩ := exists_readsBack (Decimal.value_of_nonneg (nonneg _ hd)).1 hlt
    rw [Option.bind_some, ha]
    exact .some hread

lemma readsBack_unchanged (hk : Kept s) {n : Nat} (within : ∀ d, c.score = some d → Within n d) {actor : Value}
    (h : c.differs s actor = .ok false) :
    Option.Rel ReadsBack c.score ((s.entryOf? c.item.id c.enrollment).bind (·.score)) := by
  have hvalue : scoreValue ((s.entryOf? c.item.id c.enrollment).bind (·.score)) = c.score.map Decimal.value :=
    value_eq_of_unchanged (fun e he _ ha => ⟨false, hk.read_score (entryOf?_eq_some he).1 ha⟩) within h
  cases hscore : (s.entryOf? c.item.id c.enrollment).bind (·.score) with
  | none =>
    rw [hscore] at hvalue
    rw [Option.map_eq_none_iff.mp hvalue.symm]
    exact .none
  | some a =>
    obtain ⟨e, he, ha⟩ := Option.bind_eq_some_iff.mp hscore
    obtain ⟨k, hread⟩ := hk.read_score (entryOf?_eq_some he).1 ha
    rw [hscore] at hvalue
    obtain ⟨d, hd, hsame⟩ := Option.map_eq_some_iff.mp hvalue.symm
    rw [hd]
    exact .some (.of_value hread hsame.symm)

/-- After a batch that is taken, each of its scores is read back. -/
lemma Taken.readsBack (h : Taken ctx caller r s classSection book enrollments rows cells changes t)
    (reachable : Reachable P s) :
    ∀ c ∈ cells, Option.Rel ReadsBack c.score ((t.entryOf? c.item.id c.enrollment).bind (·.score)) := by
  have hk := kept_of_reachable reachable
  obtain ⟨hasks, hapart⟩ := checkCells_iff.mp h.checked
  obtain ⟨p, hp, hchanges⟩ := batchChanges_eq_filter h.differing
  have hrecords : Records ctx.now s t ((cells.filter p).map (·.change caller.id)) :=
    hchanges ▸ h.records reachable
  intro c hc
  obtain ⟨v, -, hv⟩ := exists_of_forall₂ hasks c hc
  obtain ⟨n, -, hmax⟩ := (hk.items c.item (mem_itemsOf.mp (Table.mem_of_find? hv.found).1).1).1.maxScore
  have hbetween := checkScore_between hmax hv.score
  cases hdiffers : p c with
  | true =>
    obtain ⟨e, he, hscore⟩ := entryOf?_of_entered hrecords hc hdiffers
    rw [he, Option.bind_some, hscore]
    exact readsBack_entered (checkScore_inHundredths hv.score) fun d hd => (hbetween d hd).1
  | false =>
    rw [entryOf?_of_left hrecords hapart hc (by simp [hdiffers])]
    exact readsBack_unchanged hk (fun d hd => (hbetween d hd).2) (hdiffers ▸ hp c hc)

end Scores

end Gradebook

section Runs

variable {P : Context → Service → Prop} {s : Store}

/-- In every store that can be reached, what a call that succeeds has accepted is read back: the maximum of an
item that is added, the score of each cell of a batch, and the points of a question that is added or given new
content. It is read as it was accepted if it is at most `2 ^ 46`. -/
theorem accepted_numbers_are_read_back (h : Reachable P s) (ctx : Context) (caller : Caller) :
    (∀ r, (Call.addItem caller r).Succeeds ctx s →
      ∃ d i, checkMaxScore r.maxScore = .ok d ∧
        ((Service.call (.addItem caller r)).after ctx s).items = s.items ++ [i] ∧ ReadsBack d i.maxScore) ∧
    (∀ r, (Call.upsertScores caller r).Succeeds ctx s →
      ∃ classSection book rows enrollments cells,
        readPositive "Class section id" r.classSection = .ok classSection ∧
        s.bookOf? classSection = some book ∧ readItems r.cells = .ok rows ∧
        List.Forall₂ (Asks (s.itemsOf book.id) enrollments) rows cells ∧
        ∀ c ∈ cells, Option.Rel ReadsBack c.score
          ((((Service.call (.upsertScores caller r)).after ctx s).entryOf? c.item.id c.enrollment).bind
            (·.score))) ∧
    (∀ quiz r, (Call.addQuestion caller quiz r).Succeeds ctx s →
      ∃ d k, checkPoints r.points = .ok d ∧
        ((Service.call (.addQuestion caller quiz r)).after ctx s).questions = s.questions ++ [k] ∧
        ReadsBack d k.points) ∧
    ∀ question r, (Call.updateQuestion caller question r).Succeeds ctx s →
      ∃ d, ∃ k ∈ ((Service.call (.updateQuestion caller question r)).after ctx s).questions,
        checkPoints r.points = .ok d ∧ readPositive "Question id" question = .ok k.id ∧ ReadsBack d k.points := by
  refine ⟨fun r hr => ?_, fun r hr => ?_, fun quiz r hr => ?_, fun question r hr => ?_⟩
  · obtain ⟨d, i, hchecked, hitems, hmax⟩ := addItem_succeeded hr
    exact ⟨d, i, hchecked, hitems, hmax ▸ readsBack_of_pos (checkMaxScore_eq_ok hchecked)⟩
  · obtain ⟨a, hrun⟩ := hr.committed rfl
    obtain ⟨classSection, book, enrollments, rows, cells, changes, t, taken, hleft⟩ := upsertScores_iff.mp hrun
    obtain ⟨-, -, hbook⟩ := existingBook_eq_ok taken.found
    refine ⟨classSection, book, rows, enrollments, cells, taken.named, hbook, taken.given,
      (checkCells_iff.mp taken.checked).1, fun c hc => ?_⟩
    have hentries : ((Service.call (.upsertScores caller r)).after ctx s).entries = t.entries :=
      (congrArg (fun x => x.2.entries) hleft).trans (entries_concluded ..)
    unfold Store.entryOf?
    rw [hentries]
    exact taken.readsBack h c hc
  · obtain ⟨a, hrun⟩ := hr.committed rfl
    obtain ⟨q, c, -, -, valid, -, -, hleft⟩ := addQuestion_eq_ok hrun
    rw [hleft]
    exact ⟨c.points, asked q c s, (checkQuestion_given valid).1, rfl,
      readsBack_of_pos (checkQuestion_eq_ok valid).points⟩
  · obtain ⟨a, hrun⟩ := hr.committed rfl
    obtain ⟨k, q, c, found, -, valid, -, -, hleft⟩ := updateQuestion_eq_ok hrun
    obtain ⟨hnamed, hfind, -⟩ := ownedQuestion_found found
    obtain ⟨hk, -⟩ := Table.mem_of_find? hfind
    have hnumbered := (Attempting.integrity_of_reachable h).1.questions
    have hmem : withContent c k ∈ Table.modify k.id (withContent c) s.questions :=
      (Table.mem_modify hnumbered hk).mpr (.inl rfl)
    refine ⟨c.points, withContent c k, ?_, (checkQuestion_given valid).1, hnamed,
      readsBack_of_pos (checkQuestion_eq_ok valid).points⟩
    rw [hleft]
    exact hmem

end Runs

/-- The store after a question is asked in a draft beside three scores. -/
def askedBesideScores : Store :=
  let teacher : Caller := ⟨.int 1, "TEACHER"⟩
  let option (text : String) (correct : Bool) : Value :=
    .object [("answer_text", .text text), ("is_correct", .bool correct)]
  (Scenario.State.start .standard).context.serve
    [.call (.createDraft teacher
      ⟨.int 1, .text "Products", .int 10, .null, .null, .null, .null, .null, .null⟩),
      .call (.addQuestion teacher (.int 1)
        ⟨.text "2 * 2 = 4", .text "TRUE_FALSE", .int 1, .list [option "True" true, option "False" false]⟩)]
    threeEntered

/-- The teacher adds an item, enters a batch, asks a question and gives the first one new points. -/
theorem accepted_numbers_are_read_back_of_rounded :
    let ctx := (Scenario.State.start .standard).context
    let teacher : Caller := ⟨.int 1, "TEACHER"⟩
    let s := askedBesideScores
    let option (text : String) (correct : Bool) : Value :=
      .object [("answer_text", .text text), ("is_correct", .bool correct)]
    let content (points : String) : QuestionRequest :=
      ⟨.text "2 * 5", .text "MCQ", .text points, .list [option "7" false, option "10" true]⟩
    let add : Call := .addItem teacher
      ⟨.int 1, .text "Project", .text "20.005", .null, .bool true, .null, .null⟩
    let enter : Call := .upsertScores teacher ⟨.int 1, .list mixedRows, .null⟩
    let ask : Call := .addQuestion teacher (.int 1) (content "1.255")
    let update : Call := .updateQuestion teacher (.int 1) (content "2.005")
    (∃ i ∈ ((Service.call add).after ctx s).items, ReadsBack (.finite false 2001 (-2)) i.maxScore) ∧
      (∃ item d a, checkScore item (.text "8.505") = .ok (some d) ∧ ReadsBack d a ∧
        (((Service.call enter).after ctx s).entryOf? 1 1).bind (·.score) = some a) ∧
      (∃ k ∈ ((Service.call ask).after ctx s).questions, ReadsBack (.finite false 126 (-2)) k.points) ∧
      ∃ k ∈ ((Service.call update).after ctx s).questions, k.id = 1 ∧
        ReadsBack (.finite false 200 (-2)) k.points := by
  intro ctx teacher s option content add enter ask update
  have hentered : Reachable (fun _ _ => True) threeEntered := .serve (fun _ _ => trivial) _ _ _
  have h : Reachable (fun _ _ => True) s := hentered.run (.serve fun _ _ => trivial)
  have hcalls : ∀ c ∈ [add, enter, ask, update], c.Succeeds ctx s := by decide +kernel
  simp only [List.forall_mem_cons] at hcalls
  obtain ⟨hadd, henter, hask, hupdate, -⟩ := hcalls
  have hscore : ((((Service.call enter).after ctx s).entryOf? 1 1).bind (·.score)).isSome = true := by
    decide +kernel
  obtain ⟨hitems, hscores, hasked, hupdated⟩ := accepted_numbers_are_read_back h ctx teacher
  refine ⟨?_, ?_, ?_, ?_⟩
  · obtain ⟨d, i, hd, hleft, hread⟩ := hitems _ hadd
    obtain rfl : .finite false 2001 (-2) = d := Except.ok.inj (Eq.trans (by decide +kernel) hd)
    exact ⟨i, by rw [hleft]; exact List.mem_append_right _ (List.mem_singleton_self i), hread⟩
  · obtain ⟨_, _, rows, _, cells, -, -, hrows, hcells, hread⟩ := hscores _ henter
    obtain rfl : mixedRows = rows := Except.ok.inj ((readItems_list mixedRows).symm.trans hrows)
    unfold mixedRows at hcells
    obtain ⟨c, rest, hfirst, -, rfl⟩ := List.forall₂_cons_left_iff.mp hcells
    have hitem : c.item.id = 1 := Except.ok.inj (hfirst.item.symm.trans rfl)
    have henrollment : c.enrollment = 1 := Except.ok.inj (hfirst.enrollment.symm.trans rfl)
    have hentry := hread c (List.mem_cons_self ..)
    rw [hitem, henrollment] at hentry
    obtain ⟨a, ha⟩ := Option.isSome_iff_exists.mp hscore
    have hgiven := hfirst.score
    rw [ha] at hentry ⊢
    generalize c.score = score at hentry hgiven
    cases hentry with
    | some hread => exact ⟨c.item, _, a, hgiven, hread, rfl⟩
  · obtain ⟨d, k, hd, hleft, hread⟩ := hasked _ _ hask
    obtain rfl : .finite false 126 (-2) = d := Except.ok.inj (Eq.trans (by decide +kernel) hd)
    exact ⟨k, by rw [hleft]; exact List.mem_append_right _ (List.mem_singleton_self k), hread⟩
  · obtain ⟨d, k, hk, hd, hnamed, hread⟩ := hupdated _ _ hupdate
    obtain rfl : .finite false 200 (-2) = d := Except.ok.inj (Eq.trans (by decide +kernel) hd)
    exact ⟨k, hk, (Except.ok.inj (hnamed.symm.trans rfl)), hread⟩

/-- A hundredth above `2 ^ 46` is accepted as a maximum, and a hundredth more is read back. -/
theorem accepted_maximum_is_read_back_larger :
    let ctx := (Scenario.State.start .standard).context
    let s := (Scenario.State.start .standard).store
    let maximum : Value := .text "70368744177664.01"
    let add : Call := .addItem ⟨.int 1, "TEACHER"⟩
      ⟨.int 1, .text "Midterm", maximum, .null, .bool true, .null, .null⟩
    add.Succeeds ctx s ∧ checkMaxScore maximum = .ok (.finite false 7036874417766401 (-2)) ∧
      ((Service.call add).after ctx s).items.map (·.maxScore.toDecimal) =
        [.finite false 7036874417766402 (-2)] := by
  decide +kernel

end Assessment
