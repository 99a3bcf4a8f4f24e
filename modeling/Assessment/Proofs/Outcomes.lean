import Assessment.Proofs.Sessions

/-!
# What an action ensures

Without other writers, what an action answers and the store that it leaves depend on the store that it
starts from alone. A condition on these three is carried through an action part by part. An action whose
last transaction is followed by nothing that can fail leaves the store as it was when it fails.
-/

namespace Assessment.Action

variable {α β : Type}

/-- From every session without other writers, the store before, the result and the store after satisfy
a condition. -/
def Ensures (Q : Store → Except Fault α → Store → Prop) (a : Action α) : Prop :=
  ∀ s : Session, s.rivals = [] → (a s).2.rivals = [] ∧ Q s.store (a s).1 (a s).2.store

variable {Q Q' : Store → Except Fault α → Store → Prop} {R : Store → Except Fault β → Store → Prop}
  {x : Action α} {f : α → Action β}

namespace Ensures

lemma mono (h : x.Ensures Q) (hQ : ∀ s r s', Q s r s' → Q' s r s') : x.Ensures Q' :=
  fun s hs => ⟨(h s hs).1, hQ _ _ _ (h s hs).2⟩

lemma pure {a : α} (h : ∀ s, Q s (.ok a) s) : Ensures Q (Pure.pure a) := fun _ hs => ⟨hs, h _⟩

lemma throw {fault : Fault} (h : ∀ s, Q s (.error fault) s) :
    Ensures Q (MonadExcept.throw fault) := fun _ hs => ⟨hs, h _⟩

lemma read {r : Store → Except Fault α} (h : ∀ s, Q s (r s) s) : Ensures Q (Action.read r) :=
  fun _ hs => ⟨hs, h _⟩

lemma send {Q : Store → Except Fault Unit → Store → Prop} (h : ∀ s, Q s (.ok ()) s)
    (signal : Signal) : Ensures Q (Action.send signal) := fun _ hs => ⟨hs, h _⟩

lemma commit {t : Transaction α} (ok : ∀ s a s', t.run s = .ok (a, s') → Q s (.ok a) s')
    (error : ∀ s fault, t.run s = .error fault → Q s (.error fault) s) :
    Ensures Q (Action.commit t) := by
  intro s hs
  cases ht : t.run s.store with
  | error fault =>
    rw [commit_of_error hs ht]
    exact ⟨hs, error _ _ ht⟩
  | ok r =>
    obtain ⟨a, store⟩ := r
    rw [commit_of_ok hs ht]
    exact ⟨hs, ok _ _ _ ht⟩

lemma bind (hx : x.Ensures Q)
    (ok : ∀ a, (f a).Ensures fun t r u => ∀ s, Q s (.ok a) t → R s r u)
    (error : ∀ s fault t, Q s (.error fault) t → R s (.error fault) t) :
    (x >>= f).Ensures R := by
  intro s hs
  obtain ⟨hrivals, hq⟩ := hx s hs
  rcases h : x s with ⟨r, t⟩
  rw [h] at hrivals hq
  cases r with
  | error fault =>
    rw [bind_of_error h]
    exact ⟨hrivals, error _ _ _ hq⟩
  | ok a =>
    rw [bind_of_ok h]
    obtain ⟨hrivals', hr⟩ := ok a t hrivals
    exact ⟨hrivals', hr _ hq⟩

lemma read_bind {r : Store → Except Fault α}
    (ok : ∀ a, (f a).Ensures fun s b u => r s = .ok a → R s b u)
    (error : ∀ s fault, r s = .error fault → R s (.error fault) s) :
    (Action.read r >>= f).Ensures R := by
  refine bind (Q := fun s a t => r s = a ∧ t = s) (read fun _ => ⟨rfl, rfl⟩) (fun a => ?_) ?_
  · refine (ok a).mono ?_
    rintro t b u h s ⟨ha, rfl⟩
    exact h ha
  · rintro s fault t ⟨hfault, rfl⟩
    exact error t fault hfault

lemma map (hx : x.Ensures Q) {g : α → β} (ok : ∀ s a t, Q s (.ok a) t → R s (.ok (g a)) t)
    (error : ∀ s fault t, Q s (.error fault) t → R s (.error fault) t) :
    (g <$> x).Ensures R := by
  have h : g <$> x = x >>= fun a => Pure.pure (g a) := (bind_pure_comp g x).symm
  rw [h]
  exact hx.bind (fun a => .pure fun t s => ok s a t) error

lemma reads (h : x.Takes fun _ _ => False) : x.Ensures fun s _ s' => s' = s := by
  intro s hs
  obtain ⟨hrivals, hsteps⟩ := h s hs
  exact ⟨hrivals, hsteps.cases_tail.elim id fun ⟨_, _, w⟩ => w.elim⟩

lemma followed {W : Store → Store → Prop} (hx : x.Ensures fun s _ s' => W s s')
    (hf : ∀ a, (f a).Takes fun _ _ => False) : (x >>= f).Ensures fun s _ s' => W s s' := by
  refine hx.bind (fun a => (reads (hf a)).mono ?_) fun _ _ _ h => h
  rintro t _ _ rfl s h
  exact h

lemma attempt {x : Action Unit} {Q : Store → Except Fault Unit → Store → Prop} (hx : x.Ensures Q) :
    (Action.attempt x).Ensures fun s r s' => r = .ok () ∧ ∃ r', Q s r' s' :=
  fun s hs => ⟨(hx s hs).1, rfl, (x s).1, (hx s hs).2⟩

lemma outcome (hx : x.Ensures Q) :
    (Action.outcome x).Ensures fun s r s' => ∃ r', r = .ok r' ∧ Q s r' s' :=
  fun s hs => ⟨(hx s hs).1, (x s).1, rfl, (hx s hs).2⟩

lemma ite {c : Prop} [Decidable c] {y : Action α} (hx : c → x.Ensures Q) (hy : ¬c → y.Ensures Q) :
    (if c then x else y).Ensures Q := by
  by_cases h : c
  · rw [if_pos h]
    exact hx h
  · rw [if_neg h]
    exact hy h

end Ensures

/-- An action that fails leaves the store as it was. -/
def RollsBack (a : Action α) : Prop := a.Ensures fun s r s' => ∀ fault, r = .error fault → s' = s

/-- An action that does not fail. -/
def Succeeds (a : Action α) : Prop := a.Ensures fun _ r _ => ∀ fault, r ≠ .error fault

namespace Succeeds

lemma pure (a : α) : (Pure.pure a : Action α).Succeeds := Ensures.pure fun _ _ => by simp

lemma read (r : Store → α) : (Action.read fun s => .ok (r s)).Succeeds := Ensures.read fun _ _ => by simp

lemma send (signal : Signal) : (Action.send signal).Succeeds := Ensures.send (fun _ _ => by simp) _

lemma attempt {x : Action Unit} {W : Store → Store → Prop} (hx : x.Takes W) :
    (Action.attempt x).Succeeds := by
  intro s hs
  refine ⟨(hx s hs).1, fun fault => ?_⟩
  change (Except.ok () : Except Fault Unit) ≠ .error fault
  simp

lemma bind (hx : x.Succeeds) (hf : ∀ a, (f a).Succeeds) : (x >>= f).Succeeds :=
  Ensures.bind hx (fun a => (hf a).mono fun _ _ _ h _ _ => h)
    fun _ fault _ h => absurd rfl (h fault)

end Succeeds

namespace RollsBack

lemma read (r : Store → Except Fault α) : (Action.read r).RollsBack := Ensures.read fun _ _ _ => rfl

lemma throw (fault : Fault) : (MonadExcept.throw fault : Action α).RollsBack :=
  Ensures.throw fun _ _ _ => rfl

lemma commit (t : Transaction α) : (Action.commit t).RollsBack :=
  Ensures.commit (fun _ _ _ _ _ h => by simp at h) fun _ _ _ _ _ => rfl

lemma read_bind {r : Store → Except Fault α} (hf : ∀ a, (f a).RollsBack) :
    (Action.read r >>= f).RollsBack :=
  Ensures.read_bind (fun a => (hf a).mono fun _ _ _ h _ => h) fun _ _ _ _ _ => rfl

lemma followed (hx : x.RollsBack) (hf : ∀ a, (f a).Succeeds) : (x >>= f).RollsBack :=
  Ensures.bind hx (fun a => (hf a).mono fun _ _ _ h _ _ fault hfault => absurd hfault (h fault))
    fun _ fault _ h _ _ => h fault rfl

lemma map (hx : x.RollsBack) (g : α → β) : (g <$> x).RollsBack :=
  Ensures.map hx (fun _ _ _ _ _ h => by simp at h) fun _ fault _ h _ _ => h fault rfl

lemma ite {c : Prop} [Decidable c] {y : Action α} (hx : x.RollsBack) (hy : y.RollsBack) :
    (if c then x else y).RollsBack := Ensures.ite (fun _ => hx) fun _ => hy

end RollsBack

end Assessment.Action
