import Assessment.Proofs.Number.Hundredths
import Assessment.Proofs.Outcomes
import Assessment.Proofs.Readers
import Assessment.Proofs.Runs

/-!
# Failures that are foreseen

A call that is not carried out is answered with what stands against it, unless something went wrong that
no answer foresees. Which failures a computation can end in is found out along its binds; what a part
yields when it does not fail is known to the parts after it.
-/

namespace Assessment

variable {ε ε' α β : Type}

/-- A computation fails in ways that satisfy a condition, if it fails. -/
def FailsOnly (P : ε → Prop) (x : Except ε α) : Prop := ∀ e, x = .error e → P e

namespace FailsOnly

variable {P : ε → Prop} {x : Except ε α} {f : α → Except ε β} {e : ε}

lemma of_ok {a : α} (h : x = .ok a) : FailsOnly P x := fun e he => by simp [h] at he

lemma pure (a : α) : FailsOnly P (Pure.pure a : Except ε α) := of_ok rfl

lemma error (h : P e) : FailsOnly P (.error e : Except ε α) := fun _ he => Except.error.inj he ▸ h

lemma throw (h : P e) : FailsOnly P (MonadExcept.throw e : Except ε α) := error h

lemma bind (hx : FailsOnly P x) (hf : ∀ a, x = .ok a → FailsOnly P (f a)) : FailsOnly P (x >>= f) := by
  cases x with
  | error e => exact error (hx e rfl)
  | ok a => exact hf a rfl

lemma ite {c : Prop} [Decidable c] {y : Except ε α} (hx : c → FailsOnly P x) (hy : ¬c → FailsOnly P y) :
    FailsOnly P (if c then x else y) := by
  by_cases h : c
  · rw [if_pos h]
    exact hx h
  · rw [if_neg h]
    exact hy h

lemma guard {c : Prop} [Decidable c] {k : β → Except ε α} (h : P e) (hx : ¬c → FailsOnly P x) :
    FailsOnly P (if c then MonadExcept.throw e >>= k else x) := ite (fun _ => error h) hx

lemma mapError {Q : ε' → Prop} {g : ε → ε'} (hx : FailsOnly P x) (hg : ∀ e, P e → Q (g e)) :
    FailsOnly Q (x.mapError g) := by
  cases x with
  | error e => exact error (hg e (hx e rfl))
  | ok a => exact of_ok rfl

lemma lift {P : Fault → Prop} {x : Except Defect α} {a : α} (h : x = .ok a) :
    FailsOnly P (liftM x : Except Fault α) := of_ok (lift_eq_ok.mpr h)

lemma commit {P : Fault → Prop} {t : Transaction α} {σ : Session} (decides : FailsOnly P (t σ.store))
    (changes : ∀ change, t σ.store = .ok (.write change) → ∀ s, FailsOnly P (change s)) :
    FailsOnly P (Action.commit t σ).1 := by
  unfold Action.commit
  cases ht : t σ.store with
  | error fault => exact error (decides fault ht)
  | ok d =>
    cases d with
    | keep answer => exact of_ok rfl
    | write change =>
      have hchange := changes change ht σ.yield.store
      dsimp only
      cases hs : change σ.yield.store with
      | error fault => exact error (hchange fault hs)
      | ok r => exact of_ok rfl

end FailsOnly

/-- The kinds of failures that say what stands against a call: what it was given, the state of things, a
change that came in between, or something that does not exist. -/
def FailureKind.isForeseen : FailureKind → Bool
  | invalidInput | invalidState | conflict | notFound | itemNotFound | gradebookNotFound => true
  | _ => false

/-- A computation fails with foreseen failures only. -/
def Foreseen (x : Except Fault α) : Prop := FailsOnly (fun fault => fault.kind.isForeseen = true) x

/-- A violation by values that the store can hold. -/
def Violation.Fits : Violation → Prop
  | constraint | stale => True
  | unfit _ => False

/-- A change is not refused because of a value that the store cannot hold. -/
def Fitting (x : Except Violation α) : Prop := FailsOnly Violation.Fits x

/-- A call is answered with success or with a failure that is foreseen. -/
def Outcome.IsForeseen : Option Outcome → Prop
  | some (.success _) => True
  | some (.failure f) => f.kind.isForeseen = true
  | none => False

section Changes

lemma fault_of_fits {conflict : Refusal} {v : Violation} (h : conflict.kind.isForeseen = true) (hv : v.Fits) :
    (v.fault conflict).kind.isForeseen = true := by
  cases v with
  | unfit => exact hv.elim
  | constraint | stale => exact h

lemma Fitting.foreseen {conflict : Refusal} {x : Except Violation α} (hx : Fitting x)
    (h : conflict.kind.isForeseen = true) : Foreseen (x.mapError (Violation.fault conflict)) :=
  FailsOnly.mapError hx fun _ => fault_of_fits h

lemma fitting_requireRow [Row α] (id : Int) (rows : List α) : Fitting (requireRow id rows) :=
  .ite (fun _ => .of_ok rfl) fun _ => .error trivial

lemma fitting_requireEncoding {texts : List String} (h : ∀ s ∈ texts, Text.hasEncoding s = true) :
    Fitting (requireEncoding texts) :=
  .ite (fun _ => .of_ok rfl) fun hc => absurd (List.all_eq_true.mpr h) hc

lemma fitting_requireStorable {numbers : List Int} (h : ∀ n ∈ numbers, isStorable n = true) :
    Fitting (requireStorable numbers) :=
  .ite (fun _ => .of_ok rfl) fun hc => absurd (List.all_eq_true.mpr h) hc

lemma columnOf_storable {n : Int} (h : isStorable n = true) :
    columnOf (.int n) = .ok (some (.whole n)) := by
  simp [columnOf, Value.numericCell?, Value.cell?, h, Cell.numeric]

lemma foreseen_queryWith {numbers : List Int} (h : ∀ n ∈ numbers, isStorable n = true) :
    Foreseen (queryWith numbers) :=
  .ite (fun _ => .of_ok rfl) fun hc => absurd (List.all_eq_true.mpr h) hc

lemma foreseen_change {conflict : Refusal} (h : conflict.kind.isForeseen = true) {c : Change α} {s : Store}
    (hc : Fitting (c s)) : Foreseen ((Decision.change conflict c).apply s) := hc.foreseen h

lemma foreseen_run {t : Transaction α} {s : Store} (decides : Foreseen (t s))
    (changes : ∀ d, t s = .ok d → Foreseen (d.apply s)) : Foreseen (t.run s) :=
  FailsOnly.bind decides changes

end Changes

section Readers

open Number Request

/-- A text, or the absent value. -/
def Value.IsTextual (v : Value) : Prop := v = .null ∨ ∃ s, v = .text s

/-- An integer, or the absent value. -/
def Value.IsIntegral (v : Value) : Prop := v = .null ∨ ∃ n, v = .int n

/-- A text, if it is one, that has an encoding. -/
def Value.IsEncodable (v : Value) : Prop := ∀ s, v = .text s → Text.hasEncoding s = true

/-- An integer, if it is one, that a column can hold. -/
def Value.IsStorable (v : Value) : Prop := ∀ n, v = .int n → isStorable n = true

/-- A decimal, if it reads as one, that has at most 26 digits before the point once it is rounded. -/
def Value.HasFewDigits (v : Value) : Prop := ∀ d, Decimal.read? v.display = some d → d.FewDigits

variable {label : String} {v : Value}

lemma readTrimmed_textual (h : v.IsTextual) :
    ∃ t, readTrimmed v = .ok t ∧ (v.IsEncodable → Text.hasEncoding t = true) := by
  have hempty : Text.hasEncoding "" = true := by decide
  rcases h with rfl | ⟨s, rfl⟩
  · exact ⟨"", rfl, fun _ => hempty⟩
  · unfold readTrimmed
    split_ifs
    · exact ⟨"", rfl, fun _ => hempty⟩
    · exact ⟨Text.trim s, rfl, fun hs => Text.hasEncoding_trim (hs s rfl)⟩

lemma foreseen_readPositive (h : v.IsIntegral) : Foreseen (readPositive label v) := by
  rcases h with rfl | ⟨n, rfl⟩
  · exact .error rfl
  · change Foreseen (if 0 < n then (.ok n : Except Fault Int) else .error (.refused (.notPositive label)))
    exact .ite (fun _ => .of_ok rfl) fun _ => .error rfl

lemma foreseen_readDecimal : Foreseen (readDecimal label v) := by
  unfold readDecimal
  split
  · exact .ite (fun _ => .of_ok rfl) fun _ => .error rfl
  · exact .error rfl

lemma toHundredths_readDecimal (h : v.HasFewDigits) {d : Decimal} (hd : readDecimal label v = .ok d)
    (mode : Rounding) : ∃ s c, d.toHundredths mode = .ok (.finite s c (-2)) := by
  obtain ⟨hread, hfinite⟩ := readDecimal_eq_ok hd
  exact Decimal.toHundredths_isOk hfinite (h d hread)

lemma foreseen_readScore? (h : v.HasFewDigits) : Foreseen (readScore? label v) := by
  refine .ite (fun _ => .of_ok rfl) fun _ => .bind foreseen_readDecimal fun d hd => ?_
  obtain ⟨s, c, hrounded⟩ := toHundredths_readDecimal h hd .halfUp
  exact .bind (.lift hrounded) fun _ _ => .pure _

end Readers

section Calls

/-- From a store, without other writers, an action fails with foreseen failures only. -/
def Action.ForeseenFrom (s : Store) (a : Action α) : Prop := a.Ensures fun t r _ => t = s → Foreseen r

lemma foreseenFrom_commit {s : Store} {t : Transaction α} (h : Foreseen (t.run s)) :
    (Action.commit t).ForeseenFrom s :=
  .commit (fun _ _ _ _ _ => .of_ok rfl) fun _ fault hfault hs => .error (h fault (hs ▸ hfault))

lemma answer_isForeseen {ctx : Context} {s : Store} {a : Action α} {report : Store → α → Value} {c : Call}
    (run : c.run ctx = Call.reported a report) (h : a.ForeseenFrom s) :
    Outcome.IsForeseen (c.answer ctx (.ofStore s)).1 := by
  have hreported : (Call.reported a report).Ensures fun t r _ => t = s →
      Foreseen r ∧ ∀ data, r = .ok data → data.isSome := by
    refine .bind h (fun x => .read fun t u _ hu => ?_) fun _ fault _ hfault ht => ?_
    · exact ⟨.of_ok rfl, fun data hdata => by cases hdata; rfl⟩
    · exact ⟨.error (hfault ht fault rfl), nofun⟩
  obtain ⟨-, hforeseen⟩ := run ▸ hreported (.ofStore s) rfl
  obtain ⟨hfails, hyields⟩ := hforeseen rfl
  cases hr : (c.run ctx (.ofStore s)).1 with
  | error fault =>
    rw [answer_of_error hr]
    exact hfails fault hr
  | ok data =>
    obtain ⟨v, rfl⟩ := Option.isSome_iff_exists.mp (hyields data hr)
    rw [answer_of_ok hr]
    trivial

end Calls

end Assessment
