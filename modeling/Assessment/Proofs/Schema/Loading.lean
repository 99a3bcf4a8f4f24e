import Assessment.Proofs.Checks
import Assessment.Schema.Body

/-!
# What a loaded body holds

A body that is loaded is an object with one member for each of its fields, in their order, and no other.
A member is of the kind of its field, or it is the field's default, or absent where the field admits
that; the items of a list are loaded objects themselves.
-/

namespace Assessment.Schema

/-- The values that a kind of field is read as. -/
inductive Kind.Yields : Kind → Value → Prop
  | text (low high : Option Nat) (s : String) : Yields (.text low high) (.text s)
  | integer (n : Int) : Yields .integer (.int n)
  | strictInteger (n : Int) : Yields .strictInteger (.int n)
  | decimal {d : Number.Decimal} (finite : d.isFinite = true) : Yields .decimal (.decimal d)
  | boolean (b : Bool) : Yields .boolean (.bool b)
  | moment (t : Time.Timestamp) : Yields .moment (.moment t)

/-- The values that a field holds once it is read. -/
inductive Field.Holds (f : Field) : Value → Prop
  | given {x : Value} (yields : f.kind.Yields x) : Holds f x
  | standard {x : Value} (default : f.default? = some x) : Holds f x
  | absent (nullable : f.nullable = true) : Holds f .null

section Fields

lemma Field.holds_required {name : String} {k : Kind} {x : Value} (h : (Field.required name k).Holds x) :
    k.Yields x := by
  cases h with
  | given yields => exact yields
  | standard default => cases default
  | absent nullable => cases nullable

lemma Field.holds_withDefault {name : String} {k : Kind} {v x : Value}
    (h : (Field.withDefault name k v).Holds x) : x = v ∨ k.Yields x := by
  cases h with
  | given yields => exact .inr yields
  | standard default => exact .inl (Option.some.inj default).symm
  | absent nullable => cases nullable

lemma Field.holds_optional {name : String} {k : Kind} {x : Value} (h : (Field.optional name k).Holds x) :
    x = .null ∨ k.Yields x := by
  cases h with
  | given yields => exact .inr yields
  | standard default => exact .inl (Option.some.inj default).symm
  | absent => exact .inl rfl

lemma readText_eq_ok {low high : Option Nat} {v x : Value} (h : readText low high v = .ok x) :
    ∃ s, x = .text s := by
  cases v with
  | text s =>
    refine ⟨s, ?_⟩
    cases low <;> cases high <;> simp only [readText, unless_eq_ok, Except.ok.injEq] at h
    · exact h.symm
    · exact h.2.symm
    · exact h.symm
    · exact h.2.symm
  | _ => cases h

lemma readInteger_eq_ok {v x : Value} (h : readInteger v = .ok x) : ∃ n, x = .int n := by
  unfold readInteger at h
  split at h
  · cases h
  · split at h
    · exact ⟨_, (Except.ok.inj h).symm⟩
    · cases h
    · cases h

lemma readDecimal_eq_ok {v x : Value} (h : readDecimal v = .ok x) :
    ∃ d, d.isFinite = true ∧ x = .decimal d := by
  unfold readDecimal at h
  split at h
  · cases h
  · split at h
    · cases h
    · rename_i d _
      simp only [when_eq_ok, Except.ok.injEq] at h
      exact ⟨d, h.1, h.2.symm⟩

lemma readBoolean_eq_ok {v x : Value} (h : readBoolean v = .ok x) : ∃ b, x = .bool b := by
  unfold readBoolean at h
  split at h
  · exact ⟨_, (Except.ok.inj h).symm⟩
  · split_ifs at h <;> exact ⟨_, (Except.ok.inj h).symm⟩
  · split_ifs at h <;> exact ⟨_, (Except.ok.inj h).symm⟩

lemma readMoment_eq_ok {v x : Value} (h : readMoment v = .ok x) : ∃ t, x = .moment t := by
  unfold readMoment at h
  split at h
  · split at h
    · cases h
    · exact ⟨_, (Except.ok.inj h).symm⟩
  · cases h

lemma Kind.read_yields {k : Kind} {v x : Value} (h : k.read v = .ok x) : k.Yields x := by
  cases k with
  | text low high =>
    obtain ⟨s, rfl⟩ := readText_eq_ok h
    exact .text low high s
  | integer =>
    obtain ⟨n, rfl⟩ := readInteger_eq_ok h
    exact .integer n
  | strictInteger =>
    cases v with
    | int n =>
      cases h
      exact .strictInteger n
    | _ => cases h
  | decimal =>
    obtain ⟨d, finite, rfl⟩ := readDecimal_eq_ok h
    exact .decimal finite
  | boolean =>
    obtain ⟨b, rfl⟩ := readBoolean_eq_ok h
    exact .boolean b
  | moment =>
    obtain ⟨t, rfl⟩ := readMoment_eq_ok h
    exact .moment t

lemma Field.read_holds {f : Field} {v? : Option Value} {x : Value} (h : f.read v? = .ok x) : f.Holds x := by
  cases v? with
  | none =>
    cases hd : f.default? with
    | none => simp [Field.read, hd] at h
    | some d =>
      simp only [Field.read, hd, Except.ok.injEq] at h
      exact .standard (h ▸ hd)
  | some v =>
    unfold Field.read at h
    by_cases hv : v.isNull = true
    · simp only [if_pos hv, when_eq_ok, Except.ok.injEq] at h
      obtain ⟨hnullable, rfl⟩ := h
      exact .absent hnullable
    · simp only [if_neg hv] at h
      exact .given (Kind.read_yields h)

end Fields

section Bodies

/-- What is read of a value for a body: a reading for each field, and one for the list. -/
def Body.parts (b : Body) (v : Value) : List (String × Except Problems Value) :=
  b.fields.map (fun f => (f.name, (f.read (v.member? f.name)).mapError .single)) ++
    b.list?.toList.map fun f => (f.name, f.read (v.member? f.name))

/-- Readings that all succeed, and the members that they yield. -/
def Yield (parts : List (String × Except Problems Value)) (members : List (String × Value)) : Prop :=
  List.Forall₂ (fun p m => p.1 = m.1 ∧ p.2 = .ok m.2) parts members

lemma Reading.result_eq_ok {r : Reading} {values : List (String × Value)} :
    r.result = .ok values ↔ r.problems = [] ∧ r.values = values := by
  simp [Reading.result, List.isEmpty_iff]

lemma Reading.result_foldl {parts : List (String × Except Problems Value)} {r : Reading}
    {values : List (String × Value)}
    (h : (parts.foldl (fun r p => r.add p.1 p.2) r).result = .ok values) :
    r.problems = [] ∧ ∃ new, values = r.values ++ new ∧ Yield parts new := by
  induction parts generalizing r with
  | nil =>
    obtain ⟨hnone, rfl⟩ := Reading.result_eq_ok.mp h
    exact ⟨hnone, [], by simp, .nil⟩
  | cons p parts ih =>
    obtain ⟨hnone, new, rfl, hyield⟩ := ih h
    cases hp : p.2 with
    | error e => simp [Reading.add, hp] at hnone
    | ok x =>
      simp only [Reading.add, hp] at hnone ⊢
      exact ⟨hnone, (p.1, x) :: new, by simp, .cons ⟨rfl, hp⟩ hyield⟩

lemma Body.load_object (b : Body) (ms : List (String × Value)) : b.load (.object ms) =
    ((b.parts (.object ms)).foldl (fun r p => r.add p.1 p.2) Reading.nothing).result.map .object := by
  unfold Body.load Body.addList Body.parts
  rw [List.foldl_append, List.foldl_map, List.foldl_map]
  cases b.list? <;> rfl

lemma Body.load_eq_ok {b : Body} {v x : Value} (h : b.load v = .ok x) :
    ∃ members, x = .object members ∧ Yield (b.parts v) members := by
  cases v with
  | object ms =>
    rw [Body.load_object, map_eq_ok] at h
    obtain ⟨members, hmembers, rfl⟩ := h
    obtain ⟨-, new, rfl, hyield⟩ := Reading.result_foldl hmembers
    exact ⟨_, rfl, hyield⟩
  | _ => cases h

lemma Yield.member {parts : List (String × Except Problems Value)} {members : List (String × Value)}
    (h : Yield parts members) (distinct : (parts.map Prod.fst).Nodup) {p : String × Except Problems Value}
    (hp : p ∈ parts) : ∃ x, p.2 = .ok x ∧ (Value.object members).memberOrNull p.1 = x := by
  induction h with
  | nil => cases hp
  | @cons q m parts members hm _ ih =>
    obtain ⟨hname, hread⟩ := hm
    obtain ⟨hfirst, hrest⟩ := List.nodup_cons.mp distinct
    rcases List.mem_cons.mp hp with rfl | hp
    · exact ⟨m.2, hread, by simp [Value.memberOrNull, Value.member?, hname]⟩
    · have hne : ¬m.1 = p.1 := by
        rw [← hname]
        exact fun heq => hfirst (heq ▸ List.mem_map_of_mem hp)
      obtain ⟨x, hx, hmember⟩ := ih hrest hp
      refine ⟨x, hx, ?_⟩
      rw [← hmember]
      simp [Value.memberOrNull, Value.member?, hne]

lemma Yield.names {parts : List (String × Except Problems Value)} {members : List (String × Value)}
    (h : Yield parts members) : members.map Prod.fst = parts.map Prod.fst := by
  induction h with
  | nil => rfl
  | cons hm _ ih => rw [List.map_cons, List.map_cons, ih, hm.1]

lemma Yield.part {parts : List (String × Except Problems Value)} {members : List (String × Value)}
    (h : Yield parts members) {m : String × Value} (hm : m ∈ members) : ∃ p ∈ parts, p.2 = .ok m.2 := by
  induction h with
  | nil => cases hm
  | @cons q m' parts members hfirst _ ih =>
    rcases List.mem_cons.mp hm with rfl | hm
    · exact ⟨q, List.mem_cons_self .., hfirst.2⟩
    · obtain ⟨p, hp, hread⟩ := ih hm
      exact ⟨p, List.mem_cons_of_mem _ hp, hread⟩

/-- The names of the members that a body has. -/
def Body.names (b : Body) : List String := b.fields.map (·.name) ++ b.list?.toList.map (·.name)

lemma Body.parts_names (b : Body) (v : Value) : (b.parts v).map Prod.fst = b.names := by
  simp [Body.parts, Body.names, Function.comp_def]

variable {b : Body} {v x : Value}

lemma Body.load_field (h : b.load v = .ok x) (distinct : b.names.Nodup) {f : Field} (hf : f ∈ b.fields) :
    f.Holds (x.memberOrNull f.name) := by
  obtain ⟨members, rfl, hyield⟩ := Body.load_eq_ok h
  have hpart : (f.name, (f.read (v.member? f.name)).mapError .single) ∈ b.parts v :=
    List.mem_append_left _ (List.mem_map_of_mem hf)
  obtain ⟨x, hread, hmember⟩ := hyield.member (b.parts_names v ▸ distinct) hpart
  rw [hmember]
  exact Field.read_holds (mapError_eq_ok.mp hread)

lemma Body.load_required (h : b.load v = .ok x) (distinct : b.names.Nodup) {name : String} {k : Kind}
    (hf : Field.required name k ∈ b.fields) : k.Yields (x.memberOrNull name) :=
  Field.holds_required (Body.load_field h distinct hf)

lemma Body.load_optional (h : b.load v = .ok x) (distinct : b.names.Nodup) {name : String} {k : Kind}
    (hf : Field.optional name k ∈ b.fields) : x.memberOrNull name = .null ∨ k.Yields (x.memberOrNull name) :=
  Field.holds_optional (Body.load_field h distinct hf)

lemma Body.load_other (h : b.load v = .ok x) {name : String} (hn : name ∉ b.names) :
    x.member? name = none := by
  obtain ⟨members, rfl, hyield⟩ := Body.load_eq_ok h
  rw [← b.parts_names v, ← hyield.names] at hn
  have hnone : members.find? (·.1 == name) = none := by
    refine List.find?_eq_none.mpr fun m hm hname => hn ?_
    rw [← beq_iff_eq.mp hname]
    exact List.mem_map_of_mem hm
  rw [Value.member?, hnone]
  rfl

lemma Fields.load_eq (fields : Fields) (v : Value) : fields.load v = Body.load ⟨fields, none⟩ v := by
  cases v <;> rfl

lemma readItems_eq_ok {fields : Fields} {items : List Value} (h : readItems fields items = .ok x) :
    ∃ loaded, x = .list loaded ∧ ∀ y ∈ loaded, ∃ w, Body.load ⟨fields, none⟩ w = .ok y := by
  have hparts : readItems fields items =
      ((items.zipIdx.map fun p => (toString p.2, readItem fields p.1)).foldl
        (fun r p => r.add p.1 p.2) Reading.nothing).result.map fun members => .list (members.map (·.2)) := by
    rw [List.foldl_map]
    rfl
  rw [hparts, map_eq_ok] at h
  obtain ⟨members, hmembers, rfl⟩ := h
  obtain ⟨-, new, rfl, hyield⟩ := Reading.result_foldl hmembers
  refine ⟨_, rfl, fun y hy => ?_⟩
  obtain ⟨m, hm, rfl⟩ := List.mem_map.mp hy
  obtain ⟨p, hp, hread⟩ := hyield.part hm
  obtain ⟨⟨w, i⟩, -, rfl⟩ := List.mem_map.mp hp
  simp only [readItem, unless_eq_ok] at hread
  exact ⟨w, Fields.load_eq fields w ▸ hread.2⟩

lemma Body.load_items (h : b.load v = .ok x) (distinct : b.names.Nodup) {f : ListField}
    (hf : b.list? = some f) (required : f.default? = none) :
    ∃ items, x.memberOrNull f.name = .list items ∧
      ∀ y ∈ items, ∃ w, Body.load ⟨f.fields, none⟩ w = .ok y := by
  obtain ⟨members, rfl, hyield⟩ := Body.load_eq_ok h
  have hpart : (f.name, f.read (v.member? f.name)) ∈ b.parts v := by
    refine List.mem_append_right _ (List.mem_map_of_mem ?_)
    rw [hf]
    exact List.mem_singleton_self f
  obtain ⟨x, hread, hmember⟩ := hyield.member (b.parts_names v ▸ distinct) hpart
  rw [hmember]
  unfold ListField.read at hread
  split at hread
  · simp [required] at hread
  · cases hread
  · exact readItems_eq_ok hread
  · cases hread

end Bodies

end Assessment.Schema
