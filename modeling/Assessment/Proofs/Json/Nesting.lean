import Assessment.Json.Encoding
import Assessment.Proofs.Checks
import Assessment.Proofs.Digits
import Mathlib.Data.List.TakeWhile

/-!
# How deep JSON nests

What holds a value is read if there is room for as many lists and objects as are open in it at once, and is
too deep otherwise. How many they are is counted from its brackets, without those in texts.
-/

namespace Assessment.Json

open Text

mutual

/-- How many brackets are open at most at once in characters that begin outside of texts. -/
def depthFrom (opened : Nat) : List Char → Nat
  | [] => opened
  | c :: rest =>
    if c = '"' then depthInText opened rest
    else if c = '[' ∨ c = '\x7b' then depthFrom (opened + 1) rest
    else if c = ']' ∨ c = '\x7d' then max opened (depthFrom (opened - 1) rest)
    else depthFrom opened rest

/-- How many brackets are open at most at once in characters that begin in a text. -/
def depthInText (opened : Nat) : List Char → Nat
  | [] => opened
  | '\\' :: _ :: rest => depthInText opened rest
  | c :: rest => if c = '"' then depthFrom opened rest else depthInText opened rest

end

/-- How many lists and objects are open at most at once. -/
def depth (cs : List Char) : Nat := depthFrom 0 cs

/-- Characters that open and close nothing. -/
def isNeutral (c : Char) : Bool := !(['"', '[', '\x7b', ']', '\x7d'].contains c)

section Neutral

variable {opened : Nat} {c : Char} {p cs rest : List Char}

lemma depthFrom_cons (h : isNeutral c = true) : depthFrom opened (c :: rest) = depthFrom opened rest := by
  simp only [isNeutral, List.contains_eq_mem, Bool.not_eq_true', decide_eq_false_iff_not, List.mem_cons,
    List.not_mem_nil, or_false, not_or] at h
  obtain ⟨hquote, hsquare, hcurly, hsquare', hcurly'⟩ := h
  rw [depthFrom, if_neg hquote, if_neg (not_or.mpr ⟨hsquare, hcurly⟩), if_neg (not_or.mpr ⟨hsquare', hcurly'⟩)]

lemma depthFrom_append (h : ∀ c ∈ p, isNeutral c = true) :
    depthFrom opened (p ++ rest) = depthFrom opened rest := by
  induction p with
  | nil => rfl
  | cons c p ih =>
    rw [List.cons_append, depthFrom_cons (h c List.mem_cons_self)]
    exact ih fun x hx => h x (List.mem_cons_of_mem c hx)

lemma depthFrom_drop (hp : p <+: cs) (h : ∀ c ∈ p, isNeutral c = true) :
    depthFrom opened (cs.drop p.length) = depthFrom opened cs := by
  obtain ⟨rest, rfl⟩ := hp
  rw [List.drop_left, depthFrom_append h]

lemma isNeutral_of_isDigit (h : isDigit c = true) : isNeutral c = true := by
  have hvalues : ∀ k : Fin 10, isNeutral (Char.ofNat (48 + k)) = true := by decide
  obtain ⟨k, rfl⟩ := exists_of_isDigit (isDigit_eq c ▸ h)
  exact hvalues k

lemma isNeutral_of_isSpace (h : isSpace c = true) : isNeutral c = true := by
  have hspaces : ∀ c ∈ [' ', '\t', '\n', '\r'], isNeutral c = true := List.all_eq_true.mp (by decide)
  simp only [isSpace, Bool.or_eq_true, beq_iff_eq, or_assoc] at h
  exact hspaces c (by simpa using h)

lemma depthFrom_skipSpace (cs : List Char) : depthFrom opened (skipSpace cs) = depthFrom opened cs := by
  conv_rhs => rw [← List.takeWhile_append_dropWhile (p := isSpace) (l := cs)]
  exact (depthFrom_append fun c hc => isNeutral_of_isSpace (List.mem_takeWhile_imp hc)).symm

end Neutral

section Atoms

variable {opened : Nat} {c : Char} {cs rest : List Char} {v : Value}

lemma hexValue_isPlain {n : Nat} (h : hexValue? c = some n) : c ≠ '"' ∧ c ≠ '\\' := by
  have hvalues : hexValue? '"' = none ∧ hexValue? '\\' = none := by decide
  constructor
  · rintro rfl
    rw [hvalues.1] at h
    cases h
  · rintro rfl
    rw [hvalues.2] at h
    cases h

lemma depthInText_cons (h : c ≠ '"' ∧ c ≠ '\\') : depthInText opened (c :: rest) = depthInText opened rest := by
  rw [depthInText, if_neg h.1]
  rintro a b rfl
  exact absurd rfl h.2

lemma depthInText_hex4 {n : Nat} (h : hex4? cs = some (n, rest)) :
    depthInText opened cs = depthInText opened rest := by
  match cs with
  | a :: b :: c :: d :: more =>
    simp only [hex4?, Option.bind_eq_bind, Option.bind_eq_some_iff, Option.some.injEq, Prod.mk.injEq] at h
    obtain ⟨_, ha, _, hb, _, hc, _, hd, -, rfl⟩ := h
    rw [depthInText_cons (hexValue_isPlain ha), depthInText_cons (hexValue_isPlain hb),
      depthInText_cons (hexValue_isPlain hc), depthInText_cons (hexValue_isPlain hd)]

lemma depthInText_unicodeEscape (h : unicodeEscape? cs = some (c, rest)) :
    depthInText opened cs = depthInText opened rest := by
  simp only [unicodeEscape?, Option.bind_eq_bind, Option.bind_eq_some_iff] at h
  obtain ⟨⟨n, more⟩, hfirst, h⟩ := h
  have hsame : ∀ {a b : Char} {xs : List Char}, some (a, xs) = some (b, rest) → xs = rest :=
    fun h => (Prod.mk.inj (Option.some.inj h)).2
  rw [depthInText_hex4 hfirst]
  dsimp only at h
  split at h
  · split at h
    · split at h
      · rename_i hsecond
        split at h
        · obtain rfl := hsame h
          simp only [depthInText, depthInText_hex4 hsecond]
        · exact hsame h ▸ rfl
      · exact hsame h ▸ rfl
    · exact hsame h ▸ rfl
  · split at h <;> exact hsame h ▸ rfl

lemma depthInText_string {fuel : Nat} {s : List Char} (h : string? fuel cs = some (s, rest)) :
    depthInText opened cs = depthFrom opened rest := by
  fun_induction string? fuel cs generalizing s with
  | case1 => cases h
  | case2 => cases h
  | case3 =>
    cases h
    rfl
  | case4 _ more ih =>
    simp only [Option.bind_eq_bind, Option.bind_eq_some_iff, Prod.exists] at h
    obtain ⟨c, after, hescape, s', rest', hstring, heq⟩ := h
    cases heq
    rw [depthInText, depthInText_unicodeEscape hescape, ih after hstring]
  | case5 _ e more _ ih =>
    simp only [Option.bind_eq_bind, Option.bind_eq_some_iff, Prod.exists] at h
    obtain ⟨c, -, s', rest', hstring, heq⟩ := h
    cases heq
    rw [depthInText, ih hstring]
  | case6 => cases h
  | case7 _ c more hquote _ _ hplain ih =>
    simp only [Option.bind_eq_bind, Option.bind_eq_some_iff, Prod.exists] at h
    obtain ⟨s', rest', hstring, heq⟩ := h
    cases heq
    rw [depthInText_cons ⟨hquote, fun heq => hplain (.inr heq)⟩, ih hstring]

/-! What is read of a number is digits, signs, a point and the letter of a power. -/

lemma neutral_wholeDigits (cs : List Char) : wholeDigits cs <+: cs ∧ ∀ c ∈ wholeDigits cs, isNeutral c = true := by
  unfold wholeDigits
  split
  · exact ⟨⟨_, rfl⟩, by simp [isNeutral]⟩
  · constructor
    · exact List.takeWhile_prefix isDigit
    · exact fun c hc => isNeutral_of_isDigit (List.mem_takeWhile_imp hc)

lemma depthFrom_fraction (cs : List Char) (h : fractionDigits cs ≠ []) :
    depthFrom opened (cs.drop ((fractionDigits cs).length + 1)) = depthFrom opened cs := by
  unfold fractionDigits at h ⊢
  split at h
  · rename_i rest
    have hdigits : rest.takeWhile isDigit <+: rest := List.takeWhile_prefix isDigit
    rw [depthFrom_cons (by decide : isNeutral '.' = true), List.drop_succ_cons]
    exact depthFrom_drop hdigits fun c hc => isNeutral_of_isDigit (List.mem_takeWhile_imp hc)
  · exact absurd rfl h

lemma neutral_exponentChars (cs : List Char) :
    exponentChars cs <+: cs ∧ ∀ c ∈ exponentChars cs, isNeutral c = true := by
  have hnone : ∀ {cs : List Char}, [] <+: cs ∧ ∀ c ∈ ([] : List Char), isNeutral c = true := by simp
  match cs with
  | [] => exact hnone
  | c :: rest =>
    rw [exponentChars]
    extract_lets sign digits
    have hsigns : rest.takeWhile (fun c => c = '+' ∨ c = '-') <+: rest := List.takeWhile_prefix _
    have hfirst : sign <+: rest.takeWhile (fun c => c = '+' ∨ c = '-') := List.take_prefix 1 _
    have hsign : sign <+: rest := hfirst.trans hsigns
    have hdigits : digits <+: rest.drop sign.length := List.takeWhile_prefix isDigit
    have hboth : sign ++ digits <+: rest := by
      obtain ⟨more, hmore⟩ := hsign
      rw [← hmore, List.drop_left] at hdigits
      rw [← hmore]
      exact (List.prefix_append_right_inj sign).mpr hdigits
    split_ifs with hletter
    · exact hnone
    · refine ⟨List.cons_prefix_cons.mpr ⟨rfl, hboth⟩, fun x hx => ?_⟩
      rcases List.mem_cons.mp hx with rfl | hx
      · rcases hletter with rfl | rfl <;> decide
      rcases List.mem_append.mp hx with hx | hx
      · have hx := List.mem_takeWhile_imp (List.mem_of_mem_take hx)
        rcases of_decide_eq_true hx with rfl | rfl <;> decide
      · exact isNeutral_of_isDigit (List.mem_takeWhile_imp hx)
    · exact hnone

lemma depthFrom_number (h : number? cs = some (v, rest)) : depthFrom opened cs = depthFrom opened rest := by
  unfold number? at h
  extract_lets sign body whole rest₁ fraction rest₂ power rest₃ at h
  have hsign : depthFrom opened body = depthFrom opened cs := by
    by_cases hminus : cs.head? = some '-'
    · obtain ⟨more, rfl⟩ := List.head?_eq_some_iff.mp hminus
      exact (depthFrom_cons (by decide : isNeutral '-' = true)).symm
    · simp only [body, sign, if_neg hminus, List.length_nil, List.drop_zero]
  have hwhole : depthFrom opened rest₁ = depthFrom opened body :=
    depthFrom_drop (neutral_wholeDigits body).1 (neutral_wholeDigits body).2
  have hfraction : depthFrom opened rest₂ = depthFrom opened rest₁ := by
    by_cases hnone : fraction.isEmpty = true
    · simp only [rest₂, if_pos hnone]
    · simp only [rest₂, if_neg hnone]
      exact depthFrom_fraction rest₁ fun hnil => hnone (List.isEmpty_iff.mpr hnil)
  have hpower : depthFrom opened rest₃ = depthFrom opened rest₂ :=
    depthFrom_drop (neutral_exponentChars rest₂).1 (neutral_exponentChars rest₂).2
  have hrest : rest₃ = rest := by
    split_ifs at h
    · exact (Prod.mk.inj (Option.some.inj h)).2
    · exact (Prod.mk.inj (Option.some.inj h)).2
    · obtain ⟨_, -, heq⟩ := Option.map_eq_some_iff.mp h
      exact (Prod.mk.inj heq).2
  rw [← hrest, hpower, hfraction, hwhole, hsign]

lemma depthFrom_atom (h : atom? cs = some (v, rest)) : depthFrom opened cs = depthFrom opened rest := by
  -- the words are read as they stand
  have hword : ∀ (word : String) {w : Value} {more : List Char}, word.toList.all isNeutral = true →
      some (w, more) = some (v, rest) → depthFrom opened (word.toList ++ more) = depthFrom opened rest := by
    intro word w more hneutral heq
    rw [depthFrom_append (List.all_eq_true.mp hneutral), (Prod.mk.inj (Option.some.inj heq)).2]
  unfold atom? at h
  split at h
  · exact hword "null" (by decide) h
  · exact hword "true" (by decide) h
  · exact hword "false" (by decide) h
  · exact hword "NaN" (by decide) h
  · exact hword "Infinity" (by decide) h
  · exact hword "-Infinity" (by decide) h
  · simp only [Option.bind_eq_bind, Option.bind_eq_some_iff, Prod.exists] at h
    obtain ⟨s, more, hstring, heq⟩ := h
    rw [depthFrom, if_pos rfl, depthInText_string hstring, (Prod.mk.inj (Option.some.inj heq)).2]
  · exact depthFrom_number h

end Atoms

/-- A reader finds something at the start of characters if there is room for some levels, and too little room
otherwise. The levels are those of the brackets that it passes, the last of which may close brackets that were
open before. -/
structure Nests {α : Type} (read : Nat → List Char → Except Misread (α × List Char)) (closed : Nat)
    (cs : List Char) (a : α) (rest : List Char) (levels : Nat) : Prop where
  reads : ∀ room, read room cs = if levels ≤ room then .ok (a, rest) else .error .tooDeep
  passes : ∀ opened, depthFrom (opened + closed) cs = max (opened + closed + levels) (depthFrom opened rest)

lemma le_depthFrom (opened : Nat) (cs : List Char) : opened ≤ depthFrom opened cs := by
  refine depthFrom.induct (fun opened cs => opened ≤ depthFrom opened cs)
    (fun opened cs => opened ≤ depthInText opened cs) ?_ ?_ ?_ ?_ ?_ ?_ ?_ ?_ ?_ opened cs
  · exact fun opened => le_rfl
  · intro opened rest ih
    simpa [depthFrom] using ih
  · intro opened c rest hquote hopens ih
    rw [depthFrom, if_neg hquote, if_pos hopens]
    omega
  · intro opened c rest hquote hopens hcloses ih
    rw [depthFrom, if_neg hquote, if_neg hopens, if_pos hcloses]
    omega
  · intro opened c rest hquote hopens hcloses ih
    rwa [depthFrom, if_neg hquote, if_neg hopens, if_neg hcloses]
  · exact fun opened => le_rfl
  · intro opened c rest ih
    rwa [depthInText]
  · intro opened rest hplain ih
    rwa [depthInText, if_pos rfl]
    exact hplain
  · intro opened c rest hplain hquote ih
    rwa [depthInText, if_neg hquote]
    exact hplain

section Brackets

variable {α : Type} {close : Char} {cs after more rest : List Char} {a : α} {as : List α} {fuel : Nat}

section Series

variable {one : List Char → Except Misread (α × List Char)}

lemma series_of_error {m : Misread} (h : one cs = .error m) : series one close (fuel + 1) cs = .error m := by
  rw [series, h]
  rfl

lemma series_last (h : one cs = .ok (a, after)) (hend : skipSpace after = close :: rest) (hcomma : close ≠ ',') :
    series one close (fuel + 1) cs = .ok ([a], rest) := by
  rw [series, h]
  simp only [bind, Except.bind, hend, if_neg hcomma, if_true]

lemma series_more (h : one cs = .ok (a, after)) (hcomma : skipSpace after = ',' :: more) :
    series one close (fuel + 1) cs =
      (series one close fuel (skipSpace more)).map fun r => (a :: r.1, r.2) := by
  rw [series, h]
  simp only [bind, Except.bind, hcomma, if_true]
  rcases series one close fuel (skipSpace more) with m | r <;> rfl

lemma series_eq_ok (h : series one close (fuel + 1) cs = .ok (as, rest)) :
    ∃ a after, one cs = .ok (a, after) ∧
      (skipSpace after = close :: rest ∧ close ≠ ',' ∧ as = [a] ∨
        ∃ more as', skipSpace after = ',' :: more ∧
          series one close fuel (skipSpace more) = .ok (as', rest) ∧ as = a :: as') := by
  simp only [series, bind_eq_ok, Prod.exists] at h
  obtain ⟨a, after, hone, h⟩ := h
  refine ⟨a, after, hone, ?_⟩
  split at h
  · cases h
  · rename_i c more hafter
    split_ifs at h with hcomma hclose
    · subst hcomma
      simp only [bind_eq_ok, Prod.exists] at h
      obtain ⟨as', after', has, heq⟩ := h
      cases heq
      exact .inr ⟨more, as', hafter, has, rfl⟩
    · subst hclose
      cases h
      exact .inl ⟨hafter, hcomma, rfl⟩

end Series

lemma depthFrom_close (h : close = ']' ∨ close = '\x7d') (opened : Nat) :
    depthFrom (opened + 1) (close :: rest) = max (opened + 1) (depthFrom opened rest) := by
  rcases h with rfl | rfl <;> simp [depthFrom]

variable {one : Nat → List Char → Except Misread (α × List Char)} {room : Nat}

lemma series_nests (hclose : close = ']' ∨ close = '\x7d') {fuel : Nat} {as : List α}
    (hone : ∀ {cs a rest}, one room cs = .ok (a, rest) → ∃ levels, Nests one 0 cs a rest levels)
    (h : series (one room) close fuel cs = .ok (as, rest)) :
    ∃ levels, Nests (fun room => series (one room) close fuel) 1 cs as rest levels := by
  induction fuel generalizing cs as with
  | zero => cases h
  | succ fuel ih =>
    obtain ⟨a, after, ha, ⟨hend, hcomma, rfl⟩ | ⟨more, as', hmore, has, rfl⟩⟩ := series_eq_ok h
    · obtain ⟨levels, nests⟩ := hone ha
      refine ⟨levels, fun room => ?_, fun opened => ?_⟩
      · have hreads := nests.reads room
        split_ifs at hreads ⊢
        · exact series_last hreads hend hcomma
        · exact series_of_error hreads
      · have hcs : depthFrom (opened + 1) cs = max (opened + 1 + levels) (depthFrom (opened + 1) after) :=
          nests.passes (opened + 1)
        have hafter : depthFrom (opened + 1) after = max (opened + 1) (depthFrom opened rest) := by
          rw [← depthFrom_skipSpace, hend, depthFrom_close hclose]
        omega
    · obtain ⟨levels, nests⟩ := hone ha
      obtain ⟨levels', nests'⟩ := ih has
      refine ⟨max levels levels', fun room => ?_, fun opened => ?_⟩
      · have hreads := nests.reads room
        have hrest := nests'.reads room
        by_cases hroom : levels ≤ room
        · rw [if_pos hroom] at hreads
          rw [series_more hreads hmore, hrest]
          simp only [max_le_iff, hroom, true_and]
          split_ifs <;> rfl
        · rw [if_neg hroom] at hreads
          rw [series_of_error hreads, if_neg fun hmax => hroom (le_of_max_le_left hmax)]
      · have hcs : depthFrom (opened + 1) cs = max (opened + 1 + levels) (depthFrom (opened + 1) after) :=
          nests.passes (opened + 1)
        have hafter : depthFrom (opened + 1) after = depthFrom (opened + 1) (skipSpace more) := by
          rw [← depthFrom_skipSpace after, hmore, depthFrom_cons (by decide), depthFrom_skipSpace]
        have hmore := nests'.passes opened
        omega

lemma enclosed_nests (hclose : close = ']' ∨ close = '\x7d')
    (hone : ∀ {cs a rest}, one room cs = .ok (a, rest) → ∃ levels, Nests one 0 cs a rest levels)
    (h : enclosed (one room) close cs = .ok (as, rest)) :
    ∃ levels, Nests (fun room => enclosed (one room) close) 1 cs as rest levels := by
  by_cases hempty : (skipSpace cs).head? = some close
  · have hreads : ∀ room, enclosed (one room) close cs = .ok ([], (skipSpace cs).tail) := fun room => if_pos hempty
    rw [hreads room] at h
    cases h
    refine ⟨0, fun room => hreads room, fun opened => ?_⟩
    rw [Nat.add_zero, ← depthFrom_close hclose, ← depthFrom_skipSpace cs]
    obtain ⟨more, hmore⟩ := List.head?_eq_some_iff.mp hempty
    rw [hmore, List.tail_cons]
  · have hreads : ∀ room, enclosed (one room) close cs =
        series (one room) close ((skipSpace cs).length + 1) (skipSpace cs) := fun room => if_neg hempty
    rw [hreads room] at h
    obtain ⟨levels, nests⟩ := series_nests hclose hone h
    refine ⟨levels, fun room => (hreads room).trans (nests.reads room), fun opened => ?_⟩
    rw [← depthFrom_skipSpace cs]
    exact nests.passes opened

end Brackets

section Values

variable {cs more rest : List Char} {room : Nat}

lemma orMalformed_eq_ok {α : Type} {o : Option α} {a : α} : orMalformed o = .ok a ↔ o = some a := by
  cases o <;> simp [orMalformed]

lemma depthFrom_memberName {opened : Nat} {name : String} (h : memberName? cs = some (name, rest)) :
    depthFrom opened cs = depthFrom opened rest := by
  unfold memberName? at h
  split at h
  · simp only [Option.bind_eq_bind, Option.bind_eq_some_iff, Prod.exists] at h
    obtain ⟨s, after, hstring, h⟩ := h
    split at h
    · rename_i hcolon
      cases h
      rw [depthFrom, if_pos rfl, depthInText_string hstring, ← depthFrom_skipSpace after, hcolon,
        depthFrom_cons (by decide), depthFrom_skipSpace]
    · cases h
  · cases h

lemma member_nests {one : Nat → List Char → Except Misread (Value × List Char)} {m : String × Value}
    (hone : ∀ {cs v rest}, one room cs = .ok (v, rest) → ∃ levels, Nests one 0 cs v rest levels)
    (h : member (one room) cs = .ok (m, rest)) :
    ∃ levels, Nests (fun room => member (one room)) 0 cs m rest levels := by
  simp only [member, bind_eq_ok, orMalformed_eq_ok, Prod.exists] at h
  obtain ⟨name, after, hname, v, rest', hvalue, heq⟩ := h
  cases heq
  obtain ⟨levels, nests⟩ := hone hvalue
  refine ⟨levels, fun room => ?_, fun opened => ?_⟩
  · simp only [member, hname, orMalformed, bind, Except.bind, nests.reads room]
    split_ifs <;> rfl
  · exact (depthFrom_memberName hname).trans (nests.passes opened)

lemma value_list (room : Nat) (more : List Char) :
    value (room + 1) ('[' :: more) = (enclosed (value room) ']' more).map fun r => (.list r.1, r.2) := by
  rw [value]
  rcases enclosed (value room) ']' more with e | r <;> rfl

lemma value_object (room : Nat) (more : List Char) :
    value (room + 1) ('\x7b' :: more) =
      (enclosed (member (value room)) '\x7d' more).map fun r => (.object (KeyedList.ofList r.1), r.2) := by
  rw [value]
  rcases enclosed (member (value room)) '\x7d' more with e | r <;> rfl

lemma value_atom (h : ∀ more, cs ≠ '[' :: more) (h' : ∀ more, cs ≠ '\x7b' :: more) (room : Nat) :
    value room cs = orMalformed (atom? cs) := by
  unfold value
  split
  · exact absurd rfl (h _)
  · exact absurd rfl (h' _)
  · exact absurd rfl (h _)
  · exact absurd rfl (h' _)
  · rfl

lemma Nests.between {α : Type} {inner : Nat → List Char → Except Misread (List α × List Char)} {c : Char}
    {as : List α} {levels : Nat} (nests : Nests inner 1 more as rest levels) (make : List α → Value)
    (hopens : c = '[' ∨ c = '\x7b') (hfull : value 0 (c :: more) = .error .tooDeep)
    (hroom : ∀ room, value (room + 1) (c :: more) = (inner room more).map fun r => (make r.1, r.2)) :
    Nests value 0 (c :: more) (make as) rest (levels + 1) := by
  refine ⟨fun room => ?_, fun opened => ?_⟩
  · cases room with
    | zero => exact hfull
    | succ room =>
      rw [hroom room, nests.reads room]
      simp only [Nat.add_le_add_iff_right]
      split_ifs <;> rfl
  · have hpass := nests.passes opened
    have hquote : c ≠ '"' := by rcases hopens with rfl | rfl <;> decide
    rw [Nat.add_zero, depthFrom, if_neg hquote, if_pos hopens, hpass]
    omega

lemma atom_nests {v : Value} (hlist : ∀ more, cs ≠ '[' :: more) (hobject : ∀ more, cs ≠ '\x7b' :: more)
    (h : value room cs = .ok (v, rest)) : Nests value 0 cs v rest 0 := by
  have hreads := value_atom hlist hobject
  rw [hreads] at h
  have hatom : atom? cs = some (v, rest) := orMalformed_eq_ok.mp h
  refine ⟨fun room => ?_, fun opened => ?_⟩
  · rw [hreads, h, if_pos (Nat.zero_le room)]
  · rw [depthFrom_atom hatom]
    exact (max_eq_right (le_depthFrom opened rest)).symm

/-- A value that is read with some room is read with all the room that its levels need, and with less it is
too deep. The induction is on the room, which is what the reader recurses on. -/
lemma value_nests {v : Value} (h : value room cs = .ok (v, rest)) : ∃ levels, Nests value 0 cs v rest levels := by
  induction room generalizing cs v rest with
  | zero =>
    refine ⟨0, atom_nests ?_ ?_ h⟩ <;> rintro more rfl <;> cases h
  | succ room ih =>
    by_cases hlist : ∃ more, cs = '[' :: more
    · obtain ⟨more, rfl⟩ := hlist
      rw [value_list, map_eq_ok] at h
      obtain ⟨⟨items, after⟩, hitems, heq⟩ := h
      cases heq
      obtain ⟨levels, nests⟩ := enclosed_nests (.inl rfl) ih hitems
      exact ⟨levels + 1, nests.between .list (.inl rfl) rfl fun room => value_list room more⟩
    by_cases hobject : ∃ more, cs = '\x7b' :: more
    · obtain ⟨more, rfl⟩ := hobject
      rw [value_object, map_eq_ok] at h
      obtain ⟨⟨members, after⟩, hmembers, heq⟩ := h
      cases heq
      have hnests : ∃ levels,
          Nests (fun room => enclosed (member (value room)) '\x7d') 1 more members after levels :=
        enclosed_nests (.inr rfl) (member_nests ih) hmembers
      obtain ⟨levels, nests⟩ := hnests
      exact ⟨levels + 1, nests.between (fun members => .object (KeyedList.ofList members)) (.inr rfl) rfl
        fun room => value_object room more⟩
    · exact ⟨0, atom_nests (fun more heq => hlist ⟨more, heq⟩) (fun more heq => hobject ⟨more, heq⟩) h⟩

end Values

lemma depthFrom_withoutMark (opened : Nat) (cs : List Char) :
    depthFrom opened (withoutMark cs) = depthFrom opened cs := by
  unfold withoutMark
  split_ifs with hmark
  · obtain ⟨more, rfl⟩ := List.head?_eq_some_iff.mp hmark
    exact (depthFrom_cons (by decide)).symm
  · rfl

/-- What is read with some room is read with as much room as it is deep, and with less it is too deep. -/
theorem readChars_of_ok {cs : List Char} {v : Value} {room : Nat} (h : readChars room cs = .ok v) (room' : Nat) :
    readChars room' cs = if depth cs ≤ room' then .ok v else .error .tooDeep := by
  unfold readChars at h ⊢
  rcases hvalue : value room (skipSpace (withoutMark cs)) with e | ⟨w, rest⟩
  · rw [hvalue] at h
    cases h
  rw [hvalue] at h
  dsimp only at h
  split_ifs at h with hrest
  cases h
  obtain ⟨levels, nests⟩ := value_nests hvalue
  have hdepth : depth cs = levels := by
    have hend : depthFrom 0 rest = 0 := by rw [← depthFrom_skipSpace, List.isEmpty_iff.mp hrest, depthFrom]
    have hpass := nests.passes 0
    rw [depthFrom_skipSpace, depthFrom_withoutMark, hend] at hpass
    exact hpass.trans (by omega)
  rw [nests.reads room', hdepth]
  by_cases hroom : levels ≤ room'
  · simp only [if_pos hroom, if_pos hrest]
  · simp only [if_neg hroom]

/-- How many lists and objects are open at most at once in the characters of bytes. -/
def depthOfBytes (bs : List UInt8) : Nat := (chars? bs).elim 0 depth

theorem readBytes_of_ok {bs : List UInt8} {v : Value} {room : Nat} (h : readBytes room bs = .ok v) (room' : Nat) :
    readBytes room' bs = if depthOfBytes bs ≤ room' then .ok v else .error .tooDeep := by
  unfold readBytes at h ⊢
  rcases hchars : chars? bs with - | cs
  · rw [hchars] at h
    cases h
  · rw [hchars] at h
    rw [depthOfBytes, hchars]
    exact readChars_of_ok h room'

end Assessment.Json
