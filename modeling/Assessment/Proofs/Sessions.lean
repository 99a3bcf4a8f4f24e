import Assessment.Proofs.Checks
import Assessment.Proofs.Tables
import Assessment.Store.Transaction
import Mathlib.Logic.Relation

/-!
# Sessions without other writers

A transaction that nobody interferes with carries out its decision on the very store that it has read.
An operation made of such transactions takes the store through a sequence of writes, and what each
transaction may write is all that the operation may do.
-/

namespace Assessment

variable {α β : Type}

/-- Carries out a decision. -/
def Decision.apply : Decision α → Store → Except Fault (α × Store)
  | .keep answer, s => .ok (answer, s)
  | .write change, s => change s

/-- Reads a store, decides, and carries the decision out on the same store. -/
def Transaction.run (t : Transaction α) (s : Store) : Except Fault (α × Store) := do
  (← t s).apply s

@[simp]
lemma Decision.apply_change {conflict : Refusal} {c : Change α} {s : Store} {r : α × Store} :
    (Decision.change conflict c).apply s = .ok r ↔ c s = .ok r := by
  simp [Decision.change, Decision.apply]

@[simp]
lemma Decision.apply_keep {a : α} {s : Store} {r : α × Store} :
    (Decision.keep a).apply s = .ok r ↔ (a, s) = r := by
  simp [Decision.apply]

@[simp]
lemma Decision.apply_write {change : Store → Except Fault (α × Store)} {s : Store} :
    (Decision.write change).apply s = change s := rfl

@[simp]
lemma Transaction.run_eq_ok {t : Transaction α} {s : Store} {r : α × Store} :
    t.run s = .ok r ↔ ∃ d, t s = .ok d ∧ d.apply s = .ok r := by
  simp [Transaction.run]

section References

variable [Row α] {rows : List α}

lemma requireRow_eq_ok {id : Int} {u : Unit} :
    requireRow id rows = .ok u ↔ ∃ r ∈ rows, Row.id r = id := by
  simp [requireRow, Table.has_iff]

lemma reference_eq_ok_some {column : Option Cell} {n : Int} (h : reference column rows = .ok (some n)) :
    column = some (.whole n) ∧ ∃ r ∈ rows, Row.id r = n := by
  unfold reference at h
  split at h
  · simp at h
  · simp only [when_eq_ok, Except.ok.injEq, Option.some.injEq] at h
    obtain ⟨hrow, rfl⟩ := h
    exact ⟨rfl, Table.has_iff.mp hrow⟩
  · simp at h

lemma reference_eq_ok_none {column : Option Cell} (h : reference column rows = .ok none) :
    column = none := by
  unfold reference at h
  split at h <;> simp_all

lemma requiredReference_eq_ok {column : Option Cell} {n : Int}
    (h : requiredReference column rows = .ok n) :
    column = some (.whole n) ∧ ∃ r ∈ rows, Row.id r = n := by
  simp only [requiredReference, bind_eq_ok] at h
  obtain ⟨found, hf, h⟩ := h
  cases found with
  | none => simp at h
  | some m =>
    simp only [pure_eq_ok] at h
    rw [h] at hf
    exact reference_eq_ok_some hf

end References

namespace Action

lemma bind_of_ok {x : Action α} {f : α → Action β} {s s' : Session} {a : α}
    (h : x s = (.ok a, s')) : (x >>= f) s = f a s' := by
  change (ExceptT.bindCont f (x s).1) (x s).2 = _
  rw [h]
  rfl

lemma bind_of_error {x : Action α} {f : α → Action β} {s s' : Session} {fault : Fault}
    (h : x s = (.error fault, s')) : (x >>= f) s = (.error fault, s') := by
  change (ExceptT.bindCont f (x s).1) (x s).2 = _
  rw [h]
  rfl

lemma eq_of_answer {x : Action α} {s : Session} {a : α} (h : (x s).1 = .ok a) : x s = (.ok a, (x s).2) :=
  Prod.ext h rfl

lemma bind_session {x : Action α} {f : α → Action β} (quiet : ∀ a t, (f a t).2 = t) (s : Session) :
    ((x >>= f) s).2 = (x s).2 := by
  rcases hx : x s with ⟨_ | a, t⟩
  · rw [bind_of_error hx]
  · rw [bind_of_ok hx]
    exact quiet a t

lemma bind_succeeded {x : Action α} {f : α → Action β} {s t : Session} {b : β}
    (h : (x >>= f) s = (.ok b, t)) : ∃ a u, x s = (.ok a, u) ∧ f a u = (.ok b, t) := by
  rcases hx : x s with ⟨r, u⟩
  cases r with
  | error fault =>
    rw [bind_of_error hx] at h
    cases h
  | ok a =>
    rw [bind_of_ok hx] at h
    exact ⟨a, u, rfl, h⟩

lemma map_of_ok {x : Action α} {g : α → β} {s s' : Session} {a : α} (h : x s = (.ok a, s')) :
    (g <$> x) s = (.ok (g a), s') := by
  rw [← bind_pure_comp, bind_of_ok h]
  rfl

lemma map_of_error {x : Action α} {g : α → β} {s s' : Session} {fault : Fault}
    (h : x s = (.error fault, s')) : (g <$> x) s = (.error fault, s') := by
  rw [← bind_pure_comp, bind_of_error h]

lemma read_eq_ok {r : Store → Except Fault α} {s t : Session} {a : α} :
    Action.read r s = (.ok a, t) ↔ r s.store = .ok a ∧ s = t := Prod.mk_inj

lemma commit_of_ok {t : Transaction α} {s : Session} {a : α} {store : Store} (hs : s.rivals = [])
    (h : t.run s.store = .ok (a, store)) : commit t s = (.ok a, { s with store }) := by
  obtain ⟨d, hd, ha⟩ := Transaction.run_eq_ok.mp h
  unfold commit
  rw [hd]
  cases d with
  | keep answer => cases ha; rfl
  | write change =>
    have hy : s.yield = s := by simp [Session.yield, hs]
    simp only [Decision.apply_write] at ha
    simp only [hy, ha]

lemma commit_of_error {t : Transaction α} {s : Session} {fault : Fault} (hs : s.rivals = [])
    (h : t.run s.store = .error fault) : commit t s = (.error fault, s) := by
  unfold commit
  cases ht : t s.store with
  | error e =>
    rw [Transaction.run, ht] at h
    cases h
    rfl
  | ok d =>
    rw [Transaction.run, ht] at h
    cases d with
    | keep answer => cases h
    | write change =>
      have hc : change s.store = .error fault := h
      have hy : s.yield = s := by simp [Session.yield, hs]
      simp only [hy, hc]

lemma commit_succeeded {t : Transaction α} {s s' : Session} {a : α} (hs : s.rivals = [])
    (h : commit t s = (.ok a, s')) : t.run s.store = .ok (a, s'.store) ∧ s'.rivals = [] := by
  cases hrun : t.run s.store with
  | error fault =>
    rw [commit_of_error hs hrun] at h
    cases h
  | ok r =>
    rw [commit_of_ok hs hrun] at h
    cases h
    exact ⟨rfl, hs⟩

/-- From a session without other writers, an action takes the store through writes of one kind. -/
def TakesFrom (R : Store → Store → Prop) (s : Session) (a : Action α) : Prop :=
  (a s).2.rivals = [] ∧ Relation.ReflTransGen R s.store (a s).2.store

/-- An action does so from every such session. -/
def Takes (R : Store → Store → Prop) (a : Action α) : Prop :=
  ∀ s : Session, s.rivals = [] → a.TakesFrom R s

variable {R R' : Store → Store → Prop} {x : Action α} {f : α → Action β} {s : Session}

/-- What follows an action may rely on the answer it gave and on the writes it made. -/
lemma TakesFrom.bind (hx : x.TakesFrom R s)
    (hf : ∀ a s', x s = (.ok a, s') → s'.rivals = [] → Relation.ReflTransGen R s.store s'.store →
      (f a).TakesFrom R s') : (x >>= f).TakesFrom R s := by
  obtain ⟨hrivals, hwrites⟩ := hx
  rcases h : x s with ⟨r, s'⟩
  rw [h] at hrivals hwrites
  cases r with
  | error fault =>
    unfold TakesFrom
    rw [bind_of_error h]
    exact ⟨hrivals, hwrites⟩
  | ok a =>
    obtain ⟨hrivals', hwrites'⟩ := hf a s' h hrivals hwrites
    unfold TakesFrom
    rw [bind_of_ok h]
    exact ⟨hrivals', hwrites.trans hwrites'⟩

/-- A transaction either leaves the store alone or makes one write. -/
lemma TakesFrom.commit {t : Transaction α} (hs : s.rivals = [])
    (h : ∀ a s', t.run s.store = .ok (a, s') → s' = s.store ∨ R s.store s') :
    TakesFrom R s (Action.commit t) := by
  unfold TakesFrom
  cases ht : t.run s.store with
  | error fault =>
    rw [commit_of_error hs ht]
    exact ⟨hs, .refl⟩
  | ok r =>
    obtain ⟨a, store⟩ := r
    rw [commit_of_ok hs ht]
    refine ⟨hs, ?_⟩
    rcases h _ _ ht with rfl | hr
    · exact .refl
    · exact .single hr

namespace Takes

lemma mono (h : x.Takes R) (hR : ∀ s s', R s s' → R' s s') : x.Takes R' :=
  fun s hs => ⟨(h s hs).1, Relation.ReflTransGen.mono hR _ _ (h s hs).2⟩

lemma pure (a : α) : Takes R (Pure.pure a : Action α) := fun _ hs => ⟨hs, .refl⟩

lemma throw (fault : Fault) : Takes R (MonadExcept.throw fault : Action α) :=
  fun _ hs => ⟨hs, .refl⟩

lemma read (r : Store → Except Fault α) : Takes R (Action.read r) := fun _ hs => ⟨hs, .refl⟩

lemma send (signal : Signal) : Takes R (Action.send signal) := fun _ hs => ⟨hs, .refl⟩

lemma commit {t : Transaction α} (h : ∀ s a s', t.run s = .ok (a, s') → s' = s ∨ R s s') :
    Takes R (Action.commit t) := fun _ hs => .commit hs fun a s' => h _ a s'

lemma bind (hx : x.Takes R) (hf : ∀ a, (f a).Takes R) : (x >>= f).Takes R :=
  fun s hs => (hx s hs).bind fun a s' _ hs' _ => hf a s' hs'

lemma map (hx : x.Takes R) (g : α → β) : (g <$> x).Takes R := by
  have h : g <$> x = x >>= fun a => Pure.pure (g a) := (bind_pure_comp g x).symm
  rw [h]
  exact hx.bind fun a => .pure (g a)

lemma attempt {x : Action Unit} (hx : x.Takes R) : (Action.attempt x).Takes R := fun s hs => hx s hs

lemma outcome (hx : x.Takes R) : (Action.outcome x).Takes R := fun s hs => hx s hs

lemma ite {c : Prop} [Decidable c] {y : Action α} (hx : x.Takes R) (hy : y.Takes R) :
    (if c then x else y).Takes R := by
  by_cases h : c <;> simp [h, hx, hy]

end Takes

/-- An action that sends no signal. -/
def Silent (a : Action α) : Prop := ∀ s, (a s).2.sent = s.sent

namespace Silent

lemma pure (a : α) : (Pure.pure a : Action α).Silent := fun _ => rfl

lemma throw (fault : Fault) : (MonadExcept.throw fault : Action α).Silent := fun _ => rfl

lemma read (r : Store → Except Fault α) : (Action.read r).Silent := fun _ => rfl

lemma commit (t : Transaction α) : (Action.commit t).Silent := by
  intro s
  have hyield : s.yield.sent = s.sent := by
    unfold Session.yield
    split <;> rfl
  unfold Action.commit
  rcases t s.store with fault | answer | change
  · rfl
  · rfl
  · dsimp only
    cases change s.yield.store <;> exact hyield

lemma bind (hx : x.Silent) (hf : ∀ a, (f a).Silent) : (x >>= f).Silent := by
  intro s
  rcases h : x s with ⟨r, s'⟩
  have hsent : s'.sent = s.sent := by simpa [h] using hx s
  cases r with
  | error fault => rw [bind_of_error h, hsent]
  | ok a => rw [bind_of_ok h, hf a s', hsent]

lemma map (hx : x.Silent) (g : α → β) : (g <$> x).Silent := by
  have h : g <$> x = x >>= fun a => Pure.pure (g a) := (bind_pure_comp g x).symm
  rw [h]
  exact hx.bind fun a => .pure (g a)

lemma outcome (hx : x.Silent) : (Action.outcome x).Silent := hx

lemma ite {c : Prop} [Decidable c] {y : Action α} (hx : x.Silent) (hy : y.Silent) :
    (if c then x else y).Silent := by
  by_cases h : c <;> simp [h, hx, hy]

end Silent

end Action

end Assessment
