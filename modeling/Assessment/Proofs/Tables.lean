import Assessment.Store.Table
import Mathlib.Data.List.Induction
import Mathlib.Tactic

/-!
# Numbered tables

The rows of a table are numbered by positive numbers that ascend. Adding, changing and removing rows
keeps that, and it makes the number of a row a name for it.
-/

namespace Assessment.Table

variable {α : Type} [Row α]

/-- The rows of a table carry positive numbers, each larger than the one before. -/
structure Numbered (rows : List α) : Prop where
  positive : ∀ r ∈ rows, 0 < Row.id r
  ascending : rows.Pairwise fun a b => Row.id a < Row.id b

lemma le_foldl_max {a n : Int} {ns : List Int} (h : n ∈ a :: ns) : n ≤ ns.foldl max a := by
  induction ns generalizing a n with
  | nil => simp_all
  | cons m ns ih =>
    rw [List.foldl_cons]
    rcases List.mem_cons.mp h with rfl | h
    · exact le_trans (le_max_left _ _) (ih (List.mem_cons_self ..))
    · rcases List.mem_cons.mp h with rfl | h
      · exact le_trans (le_max_right _ _) (ih (List.mem_cons_self ..))
      · exact ih (List.mem_cons_of_mem _ h)

lemma lt_nextId {rows : List α} {r : α} (h : r ∈ rows) : Row.id r < nextId rows := by
  have hmem : Row.id r ∈ 0 :: rows.map Row.id := List.mem_cons_of_mem _ (List.mem_map_of_mem h)
  have := le_foldl_max hmem
  unfold nextId
  omega

lemma nextId_pos (rows : List α) : 0 < nextId rows := by
  have hmem : (0 : Int) ∈ 0 :: rows.map Row.id := List.mem_cons_self ..
  have := le_foldl_max hmem
  unfold nextId
  omega

lemma foldl_max_le {a n : Int} {ns : List Int} (ha : a ≤ n) (h : ∀ m ∈ ns, m ≤ n) : ns.foldl max a ≤ n := by
  induction ns generalizing a with
  | nil => exact ha
  | cons m ns ih =>
    obtain ⟨hm, hrest⟩ := List.forall_mem_cons.mp h
    exact ih (max_le ha hm) hrest

lemma nextId_le {rows : List α} {n : Int} (hn : 0 ≤ n) (h : ∀ r ∈ rows, Row.id r ≤ n) :
    nextId rows ≤ n + 1 := by
  have hmax := foldl_max_le hn (List.forall_mem_map.mpr h)
  unfold nextId
  omega

lemma nextId_concat {rows : List α} {r : α} (h : Row.id r = nextId rows) :
    nextId (rows ++ [r]) = nextId rows + 1 := by
  unfold nextId at h ⊢
  rw [List.map_append, List.foldl_append]
  simp only [List.map_cons, List.map_nil, List.foldl_cons, List.foldl_nil]
  omega

namespace Numbered

variable {rows : List α}

lemma nil : Numbered ([] : List α) := ⟨by simp, .nil⟩

lemma eq_of_id_eq (hn : Numbered rows) {a b : α} (ha : a ∈ rows) (hb : b ∈ rows)
    (h : Row.id a = Row.id b) : a = b := by
  induction rows with
  | nil => simp at ha
  | cons r rows ih =>
    obtain ⟨hr, hp⟩ := List.pairwise_cons.mp hn.ascending
    have ht : Numbered rows := ⟨fun x hx => hn.positive x (List.mem_cons_of_mem _ hx), hp⟩
    rcases List.mem_cons.mp ha with hax | ha <;> rcases List.mem_cons.mp hb with hbx | hb
    · rw [hax, hbx]
    · have := hr b hb
      rw [← hax] at this
      omega
    · have := hr a ha
      rw [← hbx] at this
      omega
    · exact ih ht ha hb

lemma concat (hn : Numbered rows) {r : α} (h : Row.id r = nextId rows) :
    Numbered (rows ++ [r]) where
  positive x hx := by
    rcases List.mem_append.mp hx with hx | hx
    · exact hn.positive x hx
    · rw [List.mem_singleton.mp hx, h]
      exact nextId_pos rows
  ascending := by
    refine List.pairwise_append.mpr ⟨hn.ascending, List.pairwise_singleton .., ?_⟩
    intro a ha b hb
    rw [List.mem_singleton.mp hb, h]
    exact lt_nextId ha

lemma filter (hn : Numbered rows) (p : α → Bool) : Numbered (rows.filter p) where
  positive r hr := hn.positive r (List.mem_filter.mp hr).1
  ascending := hn.ascending.filter p

lemma map (hn : Numbered rows) {f : α → α} (hf : ∀ r, Row.id (f r) = Row.id r) :
    Numbered (rows.map f) where
  positive r hr := by
    obtain ⟨x, hx, rfl⟩ := List.mem_map.mp hr
    rw [hf]
    exact hn.positive x hx
  ascending := by
    rw [List.pairwise_map]
    exact hn.ascending.imp fun h => by simpa only [hf] using h

lemma modify (hn : Numbered rows) (id : Int) {f : α → α} (hf : ∀ r, Row.id (f r) = Row.id r) :
    Numbered (modify id f rows) :=
  hn.map fun r => by
    by_cases h : Row.id r = id
    · rw [if_pos h, hf]
    · rw [if_neg h]

lemma remove (hn : Numbered rows) (id : Int) : Numbered (remove id rows) := hn.filter _

end Numbered

lemma append_eq {rows : List α} {makes : List (Int → α)}
    (hid : ∀ make ∈ makes, ∀ n, Row.id (make n) = n) :
    append rows makes = rows ++ makes.mapIdx fun i make => make (nextId rows + i) := by
  induction makes generalizing rows with
  | nil => simp [append]
  | cons make makes ih =>
    have hmake := hid make (List.mem_cons_self ..)
    rw [append, ih fun m hm => hid m (List.mem_cons_of_mem _ hm), nextId_concat (hmake _),
      List.mapIdx_cons, List.append_assoc]
    have hshift (i : Nat) : nextId rows + 1 + (i : Int) = nextId rows + ((i + 1 : Nat) : Int) := by
      omega
    simp only [hshift]
    simp

lemma Numbered.append {rows : List α} (hn : Numbered rows) {makes : List (Int → α)}
    (hid : ∀ make ∈ makes, ∀ n, Row.id (make n) = n) : Numbered (append rows makes) := by
  induction makes generalizing rows with
  | nil => exact hn
  | cons make makes ih =>
    exact ih (hn.concat (hid make (List.mem_cons_self ..) _))
      fun m hm => hid m (List.mem_cons_of_mem _ hm)

variable {rows : List α} {id : Int} {r : α} {f : α → α}

lemma mem_append {makes : List (Int → α)} (h : r ∈ append rows makes) :
    r ∈ rows ∨ ∃ make ∈ makes, ∃ n, r = make n := by
  induction makes generalizing rows with
  | nil => exact .inl h
  | cons make makes ih =>
    rcases ih h with h | ⟨m, hm, n, rfl⟩
    · rcases List.mem_append.mp h with h | h
      · exact .inl h
      · exact .inr ⟨make, List.mem_cons_self .., _, List.mem_singleton.mp h⟩
    · exact .inr ⟨m, List.mem_cons_of_mem _ hm, n, rfl⟩

lemma mem_of_find? (h : find? id rows = some r) : r ∈ rows ∧ Row.id r = id :=
  ⟨List.mem_of_find?_eq_some h, by simpa using List.find?_some h⟩

lemma find?_of_mem (hn : Numbered rows) (hr : r ∈ rows) : find? (Row.id r) rows = some r := by
  cases h : find? (Row.id r) rows with
  | none => simpa using List.find?_eq_none.mp h r hr
  | some x => rw [hn.eq_of_id_eq (mem_of_find? h).1 hr (mem_of_find? h).2]

lemma has_iff : has id rows = true ↔ ∃ r ∈ rows, Row.id r = id := by
  simp [has]

lemma mem_modify (hn : Numbered rows) {q : α} (hq : q ∈ rows) :
    r ∈ modify (Row.id q) f rows ↔ r = f q ∨ (r ∈ rows ∧ Row.id r ≠ Row.id q) := by
  constructor
  · intro h
    obtain ⟨x, hx, rfl⟩ := List.mem_map.mp h
    by_cases hid : Row.id x = Row.id q
    · rw [if_pos hid, hn.eq_of_id_eq hx hq hid]
      exact .inl rfl
    · rw [if_neg hid]
      exact .inr ⟨hx, hid⟩
  · rintro (rfl | ⟨hr, hid⟩)
    · exact List.mem_map.mpr ⟨q, hq, if_pos rfl⟩
    · exact List.mem_map.mpr ⟨r, hr, if_neg hid⟩

lemma modify_eq_self (h : ∀ r ∈ rows, Row.id r ≠ id) : modify id f rows = rows := by
  conv_rhs => rw [← List.map_id rows]
  exact List.map_congr_left fun r hr => if_neg (h r hr)

lemma map_modify {β : Type} {key : α → β} (hf : ∀ r, key (f r) = key r) :
    (modify id f rows).map key = rows.map key := by
  rw [modify, List.map_map]
  refine List.map_congr_left fun r _ => ?_
  by_cases h : Row.id r = id <;> simp [h, hf]

lemma nextId_modify (hf : ∀ r, Row.id (f r) = Row.id r) : nextId (modify id f rows) = nextId rows := by
  rw [nextId, nextId, map_modify hf]

lemma modify_comm {g : α → α} {m n : Int} (hf : ∀ r, Row.id (f r) = Row.id r)
    (hg : ∀ r, Row.id (g r) = Row.id r) (hne : m ≠ n) :
    modify m f (modify n g rows) = modify n g (modify m f rows) := by
  simp only [modify, List.map_map]
  refine List.map_congr_left fun r _ => ?_
  by_cases hm : Row.id r = m
  · have hn : Row.id r ≠ n := fun hn => hne (hm.symm.trans hn)
    simp [hm, hf, hne]
  · by_cases hn : Row.id r = n <;> simp [hm, hn, hg, hne.symm]

lemma modify_concat_of_ne (h : Row.id r ≠ id) : modify id f (rows ++ [r]) = modify id f rows ++ [r] := by
  simp [modify, h]

lemma search_modify_of_same {p : α → Bool} (hp : ∀ r, p (f r) = p r) :
    (modify id f rows).find? p = (rows.find? p).map fun r => if Row.id r = id then f r else r := by
  have hcomp : p ∘ (fun r => if Row.id r = id then f r else r) = p := by
    funext r
    by_cases h : Row.id r = id <;> simp [h, hp]
  rw [modify, List.find?_map, hcomp]

lemma find?_modify {n : Int} (hf : ∀ r, Row.id (f r) = Row.id r) :
    find? n (modify id f rows) = (find? n rows).map fun r => if Row.id r = id then f r else r :=
  search_modify_of_same fun r => by rw [hf]

lemma find?_concat (h : r ∈ rows) (x : α) : find? (Row.id r) (rows ++ [x]) = find? (Row.id r) rows := by
  have hsome : (find? (Row.id r) rows).isSome := List.find?_isSome.mpr ⟨r, h, by simp⟩
  unfold find? at hsome ⊢
  rw [List.find?_append, Option.or_of_isSome hsome]

lemma modify_concat (hn : Numbered (rows ++ [r])) : modify (Row.id r) f (rows ++ [r]) = rows ++ [f r] := by
  have hrows : modify (Row.id r) f rows = rows := by
    refine modify_eq_self fun x hx => ?_
    have := (List.pairwise_append.mp hn.ascending).2.2 x hx r (List.mem_singleton_self r)
    omega
  conv_rhs => rw [← hrows]
  simp [modify]

/-- A change of a row puts the changed row in its place. -/
lemma Numbered.modify_eq_replace (hn : Numbered rows) (hr : r ∈ rows) :
    Table.modify (Row.id r) f rows = Table.modify (Row.id r) (fun _ => f r) rows := by
  refine List.map_congr_left fun x hx => ?_
  by_cases hid : Row.id x = Row.id r
  · rw [if_pos hid, if_pos hid, hn.eq_of_id_eq hx hr hid]
  · rw [if_neg hid, if_neg hid]

lemma Numbered.replace (hn : Numbered rows) {r' : α} (h : Row.id r' = id) :
    Numbered (Table.modify id (fun _ => r') rows) :=
  hn.map fun r => by
    by_cases hid : Row.id r = id
    · rw [if_pos hid, h, hid]
    · rw [if_neg hid]

lemma Numbered.map_replace (hn : Numbered rows) (hr : r ∈ rows) {β : Type} {key : α → β} {r' : α}
    (h : key r' = key r) : (Table.modify (Row.id r) (fun _ => r') rows).map key = rows.map key := by
  rw [Table.modify, List.map_map]
  refine List.map_congr_left fun x hx => ?_
  by_cases hid : Row.id x = Row.id r
  · simp [hn.eq_of_id_eq hx hr hid, h]
  · simp [hid]

lemma search_modify {p : α → Bool} (h : ∀ r ∈ rows, Row.id r = id → ¬p r = true ∧ ¬p (f r) = true) :
    (modify id f rows).find? p = rows.find? p := by
  induction rows with
  | nil => rfl
  | cons x rows ih =>
    have hrest := ih fun r hr => h r (List.mem_cons_of_mem _ hr)
    simp only [modify, List.map_cons] at hrest ⊢
    by_cases hid : Row.id x = id
    · obtain ⟨hx, hfx⟩ := h x (List.mem_cons_self ..) hid
      rw [if_pos hid, List.find?_cons_of_neg hfx, List.find?_cons_of_neg hx, hrest]
    · rw [if_neg hid, List.find?_cons, List.find?_cons, hrest]

lemma filter_modify {p : α → Bool} (hp : ∀ r, p (f r) = p r) :
    (modify id f rows).filter p = modify id f (rows.filter p) := by
  induction rows with
  | nil => rfl
  | cons x rows ih =>
    have hx : p (if Row.id x = id then f x else x) = p x := by
      by_cases h : Row.id x = id <;> simp [h, hp]
    simp only [modify, List.map_cons, List.filter_cons, hx] at ih ⊢
    by_cases h : p x = true <;> simp [h, ih]

lemma filter_not_modify (hn : Numbered rows) {p : α → Bool} {q : α} (hq : q ∈ rows) (h : p q = true)
    (h' : p (f q) = true) :
    (modify (Row.id q) f rows).filter (fun r => !p r) = rows.filter fun r => !p r := by
  have hsame (r : α) (hr : r ∈ rows) : r = q ∨ Row.id r ≠ Row.id q :=
    or_iff_not_imp_right.mpr fun hid => hn.eq_of_id_eq hr hq (not_not.mp hid)
  clear hn hq
  induction rows with
  | nil => rfl
  | cons x rows ih =>
    have hrest := ih fun r hr => hsame r (List.mem_cons_of_mem _ hr)
    simp only [modify, List.map_cons] at hrest ⊢
    rcases hsame x (List.mem_cons_self ..) with rfl | hid
    · rw [if_pos rfl, List.filter_cons_of_neg (by simp [h']), List.filter_cons_of_neg (by simp [h]), hrest]
    · rw [if_neg hid, List.filter_cons, List.filter_cons, hrest]

/-- A change of one row changes a count by what it does to that row. -/
lemma Numbered.countP_modify (hn : Numbered rows) (hr : r ∈ rows) (p : α → Bool) :
    (Table.modify (Row.id r) f rows).countP p + (if p r then 1 else 0) =
      rows.countP p + if p (f r) then 1 else 0 := by
  obtain ⟨before, after, rfl⟩ := List.append_of_mem hr
  obtain ⟨-, hafter, hbefore⟩ := List.pairwise_append.mp hn.ascending
  have hsame : Table.modify (Row.id r) f before = before :=
    modify_eq_self fun x hx => (hbefore x hx r (List.mem_cons_self ..)).ne
  have hsame' : Table.modify (Row.id r) f after = after :=
    modify_eq_self fun x hx => ((List.pairwise_cons.mp hafter).1 x hx).ne'
  have hsplit : Table.modify (Row.id r) f (before ++ r :: after) = before ++ f r :: after := by
    conv_rhs => rw [← hsame, ← hsame']
    simp [Table.modify]
  rw [hsplit, List.countP_append, List.countP_append, List.countP_cons, List.countP_cons]
  omega

lemma Numbered.countP_remove (hn : Numbered rows) (hr : r ∈ rows) {p : α → Bool} (h : p r = false) :
    (Table.remove (Row.id r) rows).countP p = rows.countP p := by
  rw [Table.remove, List.countP_filter]
  refine List.countP_congr fun x hx => ?_
  by_cases hid : Row.id x = Row.id r
  · simp [hn.eq_of_id_eq hx hr hid, h]
  · simp [hid]

lemma Numbered.countP_eq_one (hn : Numbered rows) (hr : r ∈ rows) {p : α → Bool} (h : p r = true)
    (only : ∀ x ∈ rows, p x = true → Row.id x = Row.id r) : rows.countP p = 1 := by
  have hnodup : (rows.filter p).Nodup := (hn.ascending.imp fun hlt heq => (heq ▸ hlt).ne rfl).filter p
  have hmem (x : α) : x ∈ rows.filter p ↔ x ∈ [r] := by
    rw [List.mem_filter, List.mem_singleton]
    constructor
    · rintro ⟨hx, hp⟩
      exact hn.eq_of_id_eq hx hr (only x hx hp)
    · rintro rfl
      exact ⟨hr, h⟩
  rw [List.countP_eq_length_filter,
    ((List.perm_ext_iff_of_nodup hnodup (List.nodup_singleton r)).mpr hmem).length_eq]
  rfl

lemma filter_not_append {β : Type} {p : β → Bool} {old new : List β} (h : ∀ r ∈ new, p r = true) :
    (old ++ new).filter (fun r => !p r) = old.filter fun r => !p r := by
  rw [List.filter_append, List.append_right_eq_self]
  exact List.filter_eq_nil_iff.mpr fun r hr => by simp [h r hr]

lemma has_modify {n : Int} (hf : ∀ r, Row.id (f r) = Row.id r) : has n (modify id f rows) = has n rows := by
  have hids (xs : List α) : has n xs = (xs.map Row.id).any (· == n) := by
    rw [List.any_map]
    rfl
  rw [hids, hids, map_modify hf]

lemma has_concat_of_ne {n : Int} (h : Row.id r ≠ n) : has n (rows ++ [r]) = has n rows := by
  simp [has, h]

lemma latest?_eq (hn : Numbered rows) (p : α → Bool) :
    latest? p rows = (rows.filter p).getLast? := by
  have hys := (hn.filter p).ascending
  unfold latest?
  generalize rows.filter p = ys at hys ⊢
  induction ys using List.reverseRecOn with
  | nil => rfl
  | append_singleton ys y ih =>
    obtain ⟨hp, -, hlt⟩ := List.pairwise_append.mp hys
    rw [List.foldl_append, ih hp, List.foldl_cons, List.foldl_nil, List.getLast?_concat]
    cases h : ys.getLast? with
    | none => rfl
    | some b => exact if_pos (hlt b (List.mem_of_getLast? h) y (List.mem_singleton_self y))

section References

variable {ρ β : Type} [Row β]

/-- Every row of a table names a row of another one. -/
def Refers (key : ρ → Int) (rows : List ρ) (targets : List β) : Prop :=
  ∀ r ∈ rows, ∃ t ∈ targets, Row.id t = key r

namespace Refers

variable {key : ρ → Int} {rows : List ρ} {targets : List β}

lemma nil : Refers key [] targets := by simp [Refers]

lemma concat (h : Refers key rows targets) {r : ρ} (hr : ∃ t ∈ targets, Row.id t = key r) :
    Refers key (rows ++ [r]) targets := by
  intro x hx
  rcases List.mem_append.mp hx with hx | hx
  · exact h x hx
  · rw [List.mem_singleton.mp hx]
    exact hr

lemma subset (h : Refers key rows targets) {rows' : List ρ} (hs : rows' ⊆ rows) :
    Refers key rows' targets := fun r hr => h r (hs hr)

lemma modify [Row ρ] (h : Refers key rows targets) (id : Int) {f : ρ → ρ} (hf : ∀ r, key (f r) = key r) :
    Refers key (modify id f rows) targets := by
  intro x hx
  obtain ⟨r, hr, rfl⟩ := List.mem_map.mp hx
  obtain ⟨t, ht, hid⟩ := h r hr
  refine ⟨t, ht, hid.trans ?_⟩
  by_cases hc : Row.id r = id <;> simp [hc, hf]

lemma of_map_eq (h : Refers key rows targets) {rows' : List ρ} (hsame : rows'.map key = rows.map key) :
    Refers key rows' targets := by
  intro r hr
  obtain ⟨x, hx, hkey⟩ := List.mem_map.mp (hsame ▸ List.mem_map_of_mem hr)
  rw [← hkey]
  exact h x hx

lemma concat_target (h : Refers key rows targets) (t : β) : Refers key rows (targets ++ [t]) := by
  intro r hr
  obtain ⟨u, hu, hid⟩ := h r hr
  exact ⟨u, List.mem_append_left _ hu, hid⟩

lemma modify_target (h : Refers key rows targets) (id : Int) {f : β → β}
    (hf : ∀ t, Row.id (f t) = Row.id t) : Refers key rows (Table.modify id f targets) := by
  intro r hr
  obtain ⟨t, ht, hid⟩ := h r hr
  refine ⟨_, List.mem_map_of_mem ht, ?_⟩
  by_cases hc : Row.id t = id <;> simp [hc, hf, ← hid]

lemma ne_nextId (h : Refers key rows targets) {r : ρ} (hr : r ∈ rows) : key r ≠ nextId targets := by
  obtain ⟨t, ht, hid⟩ := h r hr
  have := lt_nextId ht
  omega

end Refers

end References

end Assessment.Table
