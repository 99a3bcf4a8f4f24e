import Assessment.Proofs.Number.Texts
import Assessment.Proofs.Schema.Loading
import Assessment.Proofs.Time.Texts
import Assessment.Schema.Payload

/-!
# Responses that are sent back

A response carries decimals and times as texts. A field of a request body that admits a decimal or a time loads such a
text as the value that the text was made of.
-/

namespace Assessment

open Number Time

namespace Schema

section Problems

lemma Reading.result_eq_error {r : Reading} {p : Problems} :
    r.result = .error p ↔ r.problems ≠ [] ∧ p = .members r.problems := by
  cases hnone : r.problems <;> simp [Reading.result, hnone, eq_comm]

lemma Reading.problem_foldl {parts : List (String × Except Problems Value)} {r : Reading} {q : String × Problems}
    (h : q ∈ (parts.foldl (fun r p => r.add p.1 p.2) r).problems) : q ∈ r.problems ∨ (q.1, .error q.2) ∈ parts := by
  induction parts generalizing r with
  | nil => exact .inl h
  | cons p parts ih =>
    rcases ih h with hq | hq
    · cases hp : p.2 with
      | ok x =>
        simp only [Reading.add, hp] at hq
        exact .inl hq
      | error e =>
        simp only [Reading.add, hp] at hq
        rcases List.mem_append.mp hq with hq | hq
        · exact .inl hq
        · obtain rfl := List.mem_singleton.mp hq
          exact .inr (List.mem_cons.mpr (.inl (Prod.ext rfl hp.symm)))
    · exact .inr (List.mem_cons_of_mem _ hq)

/-- A body that is refused as an object has problems at parts that could not be read, and nowhere else. -/
lemma Body.load_eq_error {b : Body} {ms : List (String × Value)} {p : Problems}
    (h : b.load (.object ms) = .error p) :
    ∃ ps, p = .members ps ∧ ps ≠ [] ∧ ∀ q ∈ ps, (q.1, .error q.2) ∈ b.parts (.object ms) := by
  rw [Body.load_object] at h
  generalize hr : (b.parts (.object ms)).foldl (fun r p => r.add p.1 p.2) Reading.nothing = r at h
  cases hresult : r.result with
  | ok values => simp [hresult, Except.map] at h
  | error p' =>
    rw [hresult] at h
    obtain rfl : p' = p := by simpa [Except.map] using h
    obtain ⟨hsome, hmembers⟩ := Reading.result_eq_error.mp hresult
    refine ⟨r.problems, hmembers, hsome, fun q hq => ?_⟩
    rcases Reading.problem_foldl (hr ▸ hq) with hnone | hpart
    · cases hnone
    · exact hpart

end Problems

/-- A body with a value under a name is loaded with another value under it, or refused for members of other names. -/
structure Body.Takes (b : Body) (name : String) (given taken : Value) : Prop where
  loaded : ∀ {v x : Value}, v.member? name = some given → b.load v = .ok x → x.memberOrNull name = taken
  accepted : ∀ {v : Value} {p : Problems}, v.member? name = some given → b.load v = .error p →
    ∃ ps, p = .members ps ∧ ps ≠ [] ∧ name ∉ ps.map Prod.fst

section Taking

variable {b : Body} {f : Field} {name : String} {given taken : Value}

lemma Body.Takes.exists_load (h : b.Takes name given taken) {v : Value} (hv : v.member? name = some given)
    (hload : (b.load v).isOk = true) : ∃ x, b.load v = .ok x ∧ x.memberOrNull name = taken := by
  cases hx : b.load v with
  | ok x => exact ⟨x, rfl, h.loaded hv hx⟩
  | error p =>
    rw [hx] at hload
    cases hload

lemma Body.takes_of_read (distinct : b.names.Nodup) (hf : f ∈ b.fields) (h : f.read (some given) = .ok taken) :
    b.Takes f.name given taken := by
  have hpart {v : Value} (hv : v.member? f.name = some given) : (f.name, .ok taken) ∈ b.parts v := by
    refine List.mem_append_left _ (List.mem_map.mpr ⟨f, hf, ?_⟩)
    rw [hv, h]
    rfl
  constructor
  · intro v x hv hload
    obtain ⟨members, rfl, hyield⟩ := Body.load_eq_ok hload
    obtain ⟨y, hread, hmember⟩ := hyield.member (b.parts_names v ▸ distinct) (hpart hv)
    rw [hmember]
    exact (Except.ok.inj hread).symm
  · intro v p hv hload
    cases v with
    | object ms =>
      obtain ⟨ps, rfl, hsome, hproblems⟩ := Body.load_eq_error hload
      refine ⟨ps, rfl, hsome, fun hname => ?_⟩
      obtain ⟨q, hq, hqname⟩ := List.mem_map.mp hname
      have hsame : (q.1, Except.error q.2) = (f.name, Except.ok taken) :=
        List.inj_on_of_nodup_map (b.parts_names _ ▸ distinct) (hproblems q hq) (hpart hv) hqname
      cases (Prod.ext_iff.mp hsame).2
    | _ => cases hv

/-- The decimals whose text is taken for them are those that are ever read. -/
lemma Field.read_decimal_iff (hkind : f.kind = .decimal) {d : Decimal} :
    f.read (some (Value.decimal d).plain) = .ok (.decimal d) ↔ d.Held := by
  have hread : f.read (some (Value.decimal d).plain) = readDecimal (.text d.text) := by
    simp [Field.read, hkind, Value.plain, Value.isNull, Kind.read]
  rw [hread]
  constructor
  · intro h
    unfold readDecimal at h
    cases hd : Decimal.read? (Value.text d.text).display with
    | none => simp [hd] at h
    | some x =>
      by_cases hfinite : x.isFinite = true
      · simp only [hd, hfinite, if_true, Except.ok.injEq, Value.decimal.injEq] at h
        subst h
        exact Decimal.held_of_read? hd hfinite
      · simp [hd, hfinite] at h
  · intro held
    unfold readDecimal
    simp [Value.display, held.read?_text, held.isFinite]

lemma Field.read_moment (hkind : f.kind = .moment) {t : Instant} (hlow : 0 ≤ t.micros) (hhigh : t.micros < endOfTime) :
    f.read (some (Value.ofInstant t).plain) = .ok (.ofInstant t) := by
  have hread : Iso.timestamp? t.timestamp.text = some t.timestamp := Instant.timestamp?_text hlow hhigh
  have hmoment : readMoment (.text t.timestamp.text) = .ok (.ofInstant t) := by
    unfold readMoment
    simp only [hread]
    rfl
  simp [Field.read, hkind, Value.plain, Value.ofInstant, Value.isNull, Kind.read, hmoment]

end Taking

/-- The text that a response carries for a finite decimal is loaded as that decimal, with its sign, digits and exponent,
by every field that admits decimals; the text of an instant is loaded as that instant by every field that admits times.
Such a text is never what a body is refused for. -/
theorem texts_of_responses_are_taken :
    (∀ d : Decimal, d.Held → ∀ b ∈ [questionBody, itemBody, ⟨cellFields, none⟩], ∀ f ∈ b.fields, f.kind = .decimal →
      b.Takes f.name (Value.decimal d).plain (.decimal d)) ∧
    ∀ t : Instant, 0 ≤ t.micros → t.micros < endOfTime → ∀ b ∈ [quizBody, publishBody], ∀ f ∈ b.fields,
      f.kind = .moment → b.Takes f.name (Value.ofInstant t).plain (.ofInstant t) := by
  constructor
  · intro d held b hb f hf hkind
    have distinct : ∀ b ∈ [questionBody, itemBody, ⟨cellFields, none⟩], b.names.Nodup := by decide
    exact Body.takes_of_read (distinct b hb) hf ((Field.read_decimal_iff hkind).mpr held)
  · intro t hlow hhigh b hb f hf hkind
    have distinct : ∀ b ∈ [quizBody, publishBody], b.names.Nodup := by decide
    exact Body.takes_of_read (distinct b hb) hf (Field.read_moment hkind hlow hhigh)

/-- A score below zero and the end of a quiz, as a response carries them. -/
theorem score_and_window_are_taken :
    let d : Decimal := .finite true 750 (-2)
    let t : Instant := .ofDateTime ⟨2026, 3, 1⟩ 9 30 0
    let cell : Value := .object [("grade_item_id", .int 4), ("enrollment_id", .int 5), ("score", .text "-7.50")]
    let window : Value := .object [("end_at", .text "2026-03-01T09:30:00+00:00")]
    (d.Held ∧ ∃ x, Body.load ⟨cellFields, none⟩ cell = .ok x ∧ x.memberOrNull "score" = .decimal d) ∧
      (0 ≤ t.micros ∧ t.micros < endOfTime) ∧
      ∃ x, publishBody.load window = .ok x ∧ x.memberOrNull "end_at" = .ofInstant t := by
  intro d t cell window
  have held : d.Held := .finite (by decide) (by decide +kernel)
  have inTime : 0 ≤ t.micros ∧ t.micros < endOfTime := by decide +kernel
  have hscore : Body.Takes ⟨cellFields, none⟩ "score" (.text "-7.50") (.decimal d) :=
    texts_of_responses_are_taken.1 d held _ (by simp) ⟨"score", .decimal, none, true⟩ (by simp [cellFields]) rfl
  have hend : publishBody.Takes "end_at" (.text "2026-03-01T09:30:00+00:00") (.ofInstant t) := by
    have htext : (Value.ofInstant t).plain = .text "2026-03-01T09:30:00+00:00" := by decide +kernel
    have htaken := texts_of_responses_are_taken.2 t inTime.1 inTime.2 publishBody (by simp)
      (.optional "end_at" .moment) (by simp [publishBody, windowFields]) rfl
    rwa [htext] at htaken
  exact ⟨⟨held, hscore.exists_load rfl (by decide +kernel)⟩, inTime, hend.exists_load rfl (by decide +kernel)⟩

end Schema

end Assessment
