import RuleBook.Proofs.Notation.Escape

/-!
# What stands between quotes

A backslash that begins an escape is read with it, any other backslash stands for itself, and
so does every other character.  An escape is one of seven characters, or a UTF-16 unit, where
the two halves of a surrogate pair are read together.  The first digit of a unit may be a plus
sign, which is the one place where more is read than four hexadecimal digits.
-/

namespace RuleBook.Notation

open Reader Text

/-! ## Decoding -/

def letterEscapes : List (Char × Char) :=
  [('"', '"'), ('\'', '\''), ('\\', '\\'), ('/', '/'), ('n', '\n'), ('r', '\r'), ('t', '\t')]

def unitAt? (value? : List Char → Option Nat) : List Char → Option (Nat × List Char)
  | 'u' :: a :: b :: c :: d :: rest => (value? [a, b, c, d]).map (·, rest)
  | _ => none

/-- An escape behind a backslash, the character it stands for, and what follows it. -/
inductive Escape (value? : List Char → Option Nat) : List Char → Char → List Char → Prop
  | letter {e c : Char} {rest : List Char} (h : (e, c) ∈ letterEscapes) :
      Escape value? (e :: rest) c rest
  | pair {raw more rest : List Char} {high low : Nat}
      (hhigh : unitAt? value? raw = some (high, '\\' :: more))
      (hlow : unitAt? value? more = some (low, rest))
      (hhigh' : 0xd800 ≤ high ∧ high < 0xdc00) (hlow' : 0xdc00 ≤ low ∧ low < 0xe000) :
      Escape value? raw (Char.ofNat (0x10000 + (high - 0xd800) * 0x400 + (low - 0xdc00))) rest
  | unit {raw rest : List Char} {unit : Nat} (hunit : unitAt? value? raw = some (unit, rest))
      (hlone : 0xd800 ≤ unit ∧ unit < 0xdc00 → ∀ more low after, rest = '\\' :: more →
        unitAt? value? more = some (low, after) → ¬(0xdc00 ≤ low ∧ low < 0xe000)) :
      Escape value? raw
        (if 0xd800 ≤ unit ∧ unit < 0xe000 then '\ufffd' else Char.ofNat unit) rest

/-- What a text between quotes stands for, from left to right. -/
inductive Decodes (value? : List Char → Option Nat) : List Char → List Char → Prop
  | nil : Decodes value? [] []
  | plain {c : Char} {raw text : List Char} (hc : c ≠ '\\') (h : Decodes value? raw text) :
      Decodes value? (c :: raw) (c :: text)
  | escape {c : Char} {raw rest text : List Char} (he : Escape value? raw c rest)
      (h : Decodes value? rest text) : Decodes value? ('\\' :: raw) (c :: text)
  | kept {raw text : List Char} (hn : ∀ c rest, ¬Escape value? raw c rest)
      (h : Decodes value? raw text) : Decodes value? ('\\' :: raw) ('\\' :: text)

section

variable {value? : List Char → Option Nat} {raw rest rest' text text' : List Char} {c c' : Char}
  {unit : Nat}

theorem unitAt?_eq_some_iff : unitAt? value? raw = some (unit, rest) ↔
    ∃ x y z w, raw = 'u' :: x :: y :: z :: w :: rest ∧ value? [x, y, z, w] = some unit := by
  constructor
  · intro h
    unfold unitAt? at h
    split at h
    · next x y z w more =>
      obtain ⟨u, hu, heq⟩ := Option.map_eq_some_iff.1 h
      cases heq
      exact ⟨x, y, z, w, rfl, hu⟩
    · cases h
  · rintro ⟨x, y, z, w, rfl, h⟩
    simp [unitAt?, h]

theorem not_letterEscapes_u : ('u', c) ∉ letterEscapes := by
  simp [letterEscapes]

theorem unitAt?_letter {e : Char} (h : (e, c) ∈ letterEscapes) (rest : List Char) :
    unitAt? value? (e :: rest) = none := by
  rw [Option.eq_none_iff_forall_ne_some]
  rintro ⟨u, more⟩ hu
  obtain ⟨x, y, z, w, heq, -⟩ := unitAt?_eq_some_iff.1 hu
  cases heq
  exact not_letterEscapes_u h

theorem letterEscapes_unique {e : Char} (h : (e, c) ∈ letterEscapes)
    (h' : (e, c') ∈ letterEscapes) : c = c' := by
  have hunique : ∀ p ∈ letterEscapes, ∀ q ∈ letterEscapes, p.1 = q.1 → p.2 = q.2 := by decide
  exact hunique _ h _ h' rfl

theorem Escape.unique (h : Escape value? raw c rest) (h' : Escape value? raw c' rest') :
    c = c' ∧ rest = rest' := by
  cases h with
  | letter h =>
      cases h' with
      | letter h' => exact ⟨letterEscapes_unique h h', rfl⟩
      | pair hhigh => rw [unitAt?_letter h] at hhigh; cases hhigh
      | unit hunit => rw [unitAt?_letter h] at hunit; cases hunit
  | pair hhigh hlow hhigh' hlow' =>
      cases h' with
      | letter h' => rw [unitAt?_letter h'] at hhigh; cases hhigh
      | pair hhigh2 hlow2 =>
          rw [hhigh] at hhigh2
          cases hhigh2
          rw [hlow] at hlow2
          cases hlow2
          exact ⟨rfl, rfl⟩
      | unit hunit hlone =>
          rw [hhigh] at hunit
          cases hunit
          exact absurd hlow' (hlone hhigh' _ _ _ rfl hlow)
  | unit hunit hlone =>
      cases h' with
      | letter h' => rw [unitAt?_letter h'] at hunit; cases hunit
      | pair hhigh hlow hhigh' hlow' =>
          rw [hhigh] at hunit
          cases hunit
          exact absurd hlow' (hlone hhigh' _ _ _ rfl hlow)
      | unit hunit' =>
          rw [hunit] at hunit'
          cases hunit'
          exact ⟨rfl, rfl⟩

theorem Decodes.unique (h : Decodes value? raw text) (h' : Decodes value? raw text') :
    text = text' := by
  induction h generalizing text' with
  | nil => cases h'; rfl
  | plain hc _ ih =>
      cases h' with
      | plain _ h' => rw [ih h']
      | escape => exact absurd rfl hc
      | kept => exact absurd rfl hc
  | escape he _ ih =>
      cases h' with
      | plain hc => exact absurd rfl hc
      | escape he' h' =>
          obtain ⟨rfl, rfl⟩ := he.unique he'
          rw [ih h']
      | kept hn => exact absurd he (hn _ _)
  | kept hn _ ih =>
      cases h' with
      | plain hc => exact absurd rfl hc
      | escape he => exact absurd he (hn _ _)
      | kept _ h' => rw [ih h']

theorem length_of_unitAt? (h : unitAt? value? raw = some (unit, rest)) :
    raw.length = rest.length + 5 := by
  obtain ⟨x, y, z, w, rfl, -⟩ := unitAt?_eq_some_iff.1 h
  rfl

theorem Escape.length_lt (h : Escape value? raw c rest) : rest.length < raw.length := by
  cases h with
  | letter => exact Nat.lt_succ_self _
  | pair hhigh hlow =>
      have hmore := length_of_unitAt? hlow
      rw [length_of_unitAt? hhigh, List.length_cons]
      omega
  | unit hunit =>
      rw [length_of_unitAt? hunit]
      omega

theorem exists_decodes (value? : List Char → Option Nat) (raw : List Char) :
    ∃ text, Decodes value? raw text := by
  induction hlength : raw.length using Nat.strong_induction_on generalizing raw with
  | _ n ih =>
      subst hlength
      cases raw with
      | nil => exact ⟨[], .nil⟩
      | cons c raw =>
          obtain ⟨text, htext⟩ := ih raw.length (Nat.lt_succ_self _) raw rfl
          by_cases hc : c = '\\'
          · subst hc
            by_cases hescape : ∃ c rest, Escape value? raw c rest
            · obtain ⟨c, rest, he⟩ := hescape
              obtain ⟨more, hmore⟩ := ih rest.length (Nat.lt_succ_of_lt he.length_lt) rest rfl
              exact ⟨c :: more, .escape he hmore⟩
            · exact ⟨'\\' :: text, .kept (fun c rest he => hescape ⟨c, rest, he⟩) htext⟩
          · exact ⟨c :: text, .plain hc htext⟩

end

/-! ## Digits -/

theorem hexValue?_lt {c : Char} {value : Nat} (h : hexValue? c = some value) : value < 16 := by
  have hless {last : Char} (hc : c ≤ last) : c.toNat ≤ last.toNat := UInt32.le_iff_toNat_le.1 hc
  rw [hexValue?] at h
  split_ifs at h with hdigit hlower hupper
  · cases h
    exact (Nat.sub_le_sub_right (hless hdigit.2) _).trans_lt (by decide)
  · cases h
    exact (Nat.add_le_add_right (Nat.sub_le_sub_right (hless hlower.2) _) _).trans_lt (by decide)
  · cases h
    exact (Nat.add_le_add_right (Nat.sub_le_sub_right (hless hupper.2) _) _).trans_lt (by decide)

theorem foldlM_hexValue? {digits : List Char} {start n : Nat}
    (h : digits.foldlM (fun value c => (hexValue? c).map (16 * value + ·)) start = some n) :
    n < (start + 1) * 16 ^ digits.length ∧ ∀ c ∈ digits, (hexValue? c).isSome = true := by
  induction digits generalizing start with
  | nil =>
      cases h
      simp
  | cons c digits ih =>
      rw [List.foldlM_cons] at h
      obtain ⟨next, hnext, h⟩ := Option.bind_eq_some_iff.1 h
      obtain ⟨value, hvalue, rfl⟩ := Option.map_eq_some_iff.1 hnext
      obtain ⟨hn, hdigits⟩ := ih h
      refine ⟨hn.trans_le ?_, List.forall_mem_cons.2 ⟨by rw [hvalue]; rfl, hdigits⟩⟩
      have hlt := hexValue?_lt hvalue
      rw [List.length_cons, Nat.pow_succ', ← Nat.mul_assoc]
      exact Nat.mul_le_mul_right _ (by omega)

section

variable {digits raw rest : List Char} {c : Char} {n unit : Nat}

theorem hexNumber?_lt (h : hexNumber? digits = some n) : n < 16 ^ digits.length := by
  rw [hexNumber?] at h
  split at h
  · cases h
  · simpa using (foldlM_hexValue? h).1

theorem isSome_hexValue? (h : hexNumber? digits = some n) :
    ∀ c ∈ digits, (hexValue? c).isSome = true := by
  rw [hexNumber?] at h
  split at h
  · cases h
  · exact (foldlM_hexValue? h).2

theorem hexNumber?_plus : hexNumber? ('+' :: digits) = none := by
  rw [Option.eq_none_iff_forall_ne_some]
  intro n h
  exact absurd (isSome_hexValue? h '+' List.mem_cons_self) (by decide)

theorem ne_backslash (h : hexNumber? digits = some n) : ∀ c ∈ digits, c ≠ '\\' := by
  rintro c hc rfl
  exact absurd (isSome_hexValue? h _ hc) (by decide)

theorem unit?_eq_some_iff :
    unit? digits = some n ↔ hexNumber? digits = some n ∨
      ∃ more, digits = '+' :: more ∧ hexNumber? more = some n := by
  unfold unit?
  split
  · next more => simp [hexNumber?_plus]
  · next hplus =>
    refine ⟨.inl, fun h => h.resolve_right ?_⟩
    rintro ⟨more, rfl, -⟩
    exact hplus more rfl

theorem unit?_of_hexNumber? (h : hexNumber? digits = some n) : unit? digits = some n :=
  unit?_eq_some_iff.2 (.inl h)

def isSignedUnit : List Char → Bool
  | 'u' :: '+' :: x :: y :: z :: _ => (hexNumber? [x, y, z]).isSome
  | _ => false

theorem isSignedUnit_iff : isSignedUnit raw = true ↔
    ∃ x y z rest n, raw = 'u' :: '+' :: x :: y :: z :: rest ∧ hexNumber? [x, y, z] = some n := by
  constructor
  · intro h
    unfold isSignedUnit at h
    split at h
    · next x y z rest =>
      obtain ⟨n, hn⟩ := Option.isSome_iff_exists.1 h
      exact ⟨x, y, z, rest, n, rfl, hn⟩
    · cases h
  · rintro ⟨x, y, z, rest, n, rfl, h⟩
    simp [isSignedUnit, h]

theorem unitAt?_of_hexNumber? (h : unitAt? hexNumber? raw = some (unit, rest)) :
    unitAt? unit? raw = some (unit, rest) := by
  obtain ⟨x, y, z, w, rfl, hvalue⟩ := unitAt?_eq_some_iff.1 h
  exact unitAt?_eq_some_iff.2 ⟨x, y, z, w, rfl, unit?_of_hexNumber? hvalue⟩

theorem unitAt?_lt (h : unitAt? hexNumber? raw = some (unit, rest)) : unit < 0x10000 := by
  obtain ⟨x, y, z, w, rfl, hvalue⟩ := unitAt?_eq_some_iff.1 h
  simpa using hexNumber?_lt hvalue

theorem unitAt?_unit?_cases (h : unitAt? unit? raw = some (unit, rest)) :
    unitAt? hexNumber? raw = some (unit, rest) ∨ (isSignedUnit raw = true ∧ unit < 0x1000) := by
  obtain ⟨x, y, z, w, rfl, hvalue⟩ := unitAt?_eq_some_iff.1 h
  rcases unit?_eq_some_iff.1 hvalue with hvalue | ⟨more, hmore, hvalue⟩
  · exact .inl (unitAt?_eq_some_iff.2 ⟨x, y, z, w, rfl, hvalue⟩)
  · cases hmore
    exact .inr ⟨isSignedUnit_iff.2 ⟨y, z, w, rest, unit, rfl, hvalue⟩,
      by simpa using hexNumber?_lt hvalue⟩

/-! ## Escapes with and without a plus sign -/

theorem Escape.of_hexNumber? (h : Escape hexNumber? raw c rest) : Escape unit? raw c rest := by
  cases h with
  | letter h => exact .letter h
  | pair hhigh hlow hhigh' hlow' =>
      exact .pair (unitAt?_of_hexNumber? hhigh) (unitAt?_of_hexNumber? hlow) hhigh' hlow'
  | unit hunit hlone =>
      refine .unit (unitAt?_of_hexNumber? hunit) fun hhigh more low after hrest hlow => ?_
      rcases unitAt?_unit?_cases hlow with hlow | ⟨-, hless⟩
      · exact hlone hhigh more low after hrest hlow
      · omega

theorem Escape.hexNumber?_or_isSignedUnit (h : Escape unit? raw c rest) :
    Escape hexNumber? raw c rest ∨ isSignedUnit raw = true := by
  cases h with
  | letter h => exact .inl (.letter h)
  | pair hhigh hlow hhigh' hlow' =>
      rcases unitAt?_unit?_cases hhigh with hhigh | ⟨-, hless⟩
      · rcases unitAt?_unit?_cases hlow with hlow | ⟨-, hless⟩
        · exact .inl (.pair hhigh hlow hhigh' hlow')
        · omega
      · omega
  | unit hunit hlone =>
      rcases unitAt?_unit?_cases hunit with hunit | ⟨hsigned, -⟩
      · exact .inl (.unit hunit fun hhigh more low after hrest hlow =>
          hlone hhigh more low after hrest (unitAt?_of_hexNumber? hlow))
      · exact .inr hsigned

theorem exists_escape_of_unitAt? {value? : List Char → Option Nat}
    (h : unitAt? value? raw = some (unit, rest)) : ∃ c rest', Escape value? raw c rest' := by
  by_cases hpair : (0xd800 ≤ unit ∧ unit < 0xdc00) ∧ ∃ more low after, rest = '\\' :: more ∧
      unitAt? value? more = some (low, after) ∧ 0xdc00 ≤ low ∧ low < 0xe000
  · obtain ⟨hhigh, more, low, after, rfl, hlow, hlow'⟩ := hpair
    exact ⟨_, after, .pair h hlow hhigh hlow'⟩
  · exact ⟨_, rest, .unit h fun hhigh more low after hrest hlow hlow' =>
      hpair ⟨hhigh, more, low, after, hrest, hlow, hlow'⟩⟩

theorem escape_of_isSignedUnit (h : isSignedUnit raw = true) :
    ∃ x y z rest c, raw = 'u' :: '+' :: x :: y :: z :: rest ∧ (∀ d ∈ [x, y, z], d ≠ '\\') ∧
      Escape unit? raw c rest := by
  obtain ⟨x, y, z, rest, n, rfl, hvalue⟩ := isSignedUnit_iff.1 h
  have hunit : unitAt? unit? ('u' :: '+' :: x :: y :: z :: rest) = some (n, rest) :=
    unitAt?_eq_some_iff.2
      ⟨'+', x, y, z, rfl, unit?_eq_some_iff.2 (.inr ⟨[x, y, z], rfl, hvalue⟩)⟩
  have hless := hexNumber?_lt hvalue
  simp only [List.length_cons, List.length_nil] at hless
  exact ⟨x, y, z, rest, _, rfl, ne_backslash hvalue, .unit hunit fun hhigh => by omega⟩

end

/-! ## Reading escapes -/

section

variable {raw rest text : List Char} {c : Char} {n unit : Nat}

theorem charOfUnit_of_isValidChar (h : n.isValidChar) : charOfUnit n = Char.ofNat n := by
  rw [charOfUnit, dif_pos h, Char.ofNat, dif_pos h]

theorem charOfUnit_eq (h : unit < 0x10000) : charOfUnit unit =
    if 0xd800 ≤ unit ∧ unit < 0xe000 then '\ufffd' else Char.ofNat unit := by
  split
  · next hsurrogate =>
    rw [charOfUnit, dif_neg, replacementChar]
    rintro (hlow | ⟨hhigh, -⟩) <;> omega
  · next hplain =>
    refine charOfUnit_of_isValidChar ?_
    rcases Nat.lt_or_ge unit 0xd800 with hlow | hhigh
    · exact .inl hlow
    · exact .inr ⟨by omega, by omega⟩

theorem isValidChar_joinUnits {high low : Nat} (hhigh : 0xd800 ≤ high ∧ high < 0xdc00)
    (hlow : 0xdc00 ≤ low ∧ low < 0xe000) : (joinUnits high low).isValidChar := by
  have hjoin : joinUnits high low = 0x10000 + (high - 0xd800) * 0x400 + (low - 0xdc00) := rfl
  exact .inr ⟨by omega, by omega⟩

theorem charOfUnit_joinUnits {high low : Nat} (hhigh : 0xd800 ≤ high ∧ high < 0xdc00)
    (hlow : 0xdc00 ≤ low ∧ low < 0xe000) : charOfUnit (joinUnits high low) =
      Char.ofNat (0x10000 + (high - 0xd800) * 0x400 + (low - 0xdc00)) := by
  rw [charOfUnit_of_isValidChar (isValidChar_joinUnits hhigh hlow)]
  unfold joinUnits
  rfl

theorem unit_lt (h : unitAt? unit? raw = some (unit, rest)) : unit < 0x10000 := by
  rcases unitAt?_unit?_cases h with h | ⟨-, h⟩
  · exact unitAt?_lt h
  · omega

theorem isHighUnit_iff : isHighUnit unit = true ↔ 0xd800 ≤ unit ∧ unit < 0xdc00 := by
  simp [isHighUnit]

theorem isLowUnit_iff : isLowUnit unit = true ↔ 0xdc00 ≤ unit ∧ unit < 0xe000 := by
  simp [isLowUnit]

theorem lowUnit?_eq_some_iff : lowUnit? raw = some unit ↔
    ∃ more rest, raw = '\\' :: more ∧ unitAt? unit? more = some (unit, rest) ∧
      0xdc00 ≤ unit ∧ unit < 0xe000 := by
  rw [← isLowUnit_iff]
  constructor
  · intro h
    unfold lowUnit? at h
    split at h
    · next x y z w rest =>
      obtain ⟨hvalue, hlow⟩ := Option.filter_eq_some_iff.1 h
      exact ⟨_, rest, rfl, unitAt?_eq_some_iff.2 ⟨x, y, z, w, rfl, hvalue⟩, hlow⟩
    · cases h
  · rintro ⟨more, rest, rfl, hunit, hlow⟩
    obtain ⟨x, y, z, w, rfl, hvalue⟩ := unitAt?_eq_some_iff.1 hunit
    simp [lowUnit?, hvalue, hlow]

theorem escape?_letter {e : Char} (h : (e, c) ∈ letterEscapes) (rest : List Char) :
    escape? (e :: rest) = some (c, 1) := by
  simp only [letterEscapes, List.mem_cons, List.not_mem_nil, or_false, Prod.mk.injEq] at h
  rcases h with ⟨rfl, rfl⟩ | ⟨rfl, rfl⟩ | ⟨rfl, rfl⟩ | ⟨rfl, rfl⟩ | ⟨rfl, rfl⟩ | ⟨rfl, rfl⟩ |
    ⟨rfl, rfl⟩ <;> rfl

theorem escape?_unit (h : unitAt? unit? raw = some (unit, rest)) :
    escape? raw = some (match if isHighUnit unit then lowUnit? rest else none with
      | some low => (charOfUnit (joinUnits unit low), 11)
      | none => (charOfUnit unit, 5)) := by
  obtain ⟨x, y, z, w, rfl, hvalue⟩ := unitAt?_eq_some_iff.1 h
  rw [escape?, hvalue]
  rfl

theorem escape?_of_escape (h : Escape unit? raw c rest) :
    ∃ taken, escape? raw = some (c, taken) ∧ raw.drop taken = rest := by
  cases h with
  | letter h => exact ⟨1, escape?_letter h rest, rfl⟩
  | @pair _ more _ high low hhigh hlow hhigh' hlow' =>
      have hread : lowUnit? ('\\' :: more) = some low :=
        lowUnit?_eq_some_iff.2 ⟨more, rest, rfl, hlow, hlow'⟩
      refine ⟨11, ?_, ?_⟩
      · rw [escape?_unit hhigh, if_pos (isHighUnit_iff.2 hhigh'), hread,
          ← charOfUnit_joinUnits hhigh' hlow']
      · obtain ⟨x, y, z, w, rfl, -⟩ := unitAt?_eq_some_iff.1 hhigh
        obtain ⟨x, y, z, w, rfl, -⟩ := unitAt?_eq_some_iff.1 hlow
        rfl
  | @unit _ _ unit hunit hlone =>
      have hread : (if isHighUnit unit then lowUnit? rest else none) = none := by
        rw [ite_eq_right_iff]
        intro hhigh
        rw [Option.eq_none_iff_forall_ne_some]
        intro low hlow
        obtain ⟨more, after, hrest, hlow, hlow'⟩ := lowUnit?_eq_some_iff.1 hlow
        exact hlone (isHighUnit_iff.1 hhigh) more low after hrest hlow hlow'
      refine ⟨5, ?_, ?_⟩
      · rw [escape?_unit hunit, hread, ← charOfUnit_eq (unit_lt hunit)]
      · obtain ⟨x, y, z, w, rfl, -⟩ := unitAt?_eq_some_iff.1 hunit
        rfl

theorem escape?_eq_none (h : ∀ c rest, ¬Escape unit? raw c rest) : escape? raw = none := by
  have hletter {e : Char} {rest : List Char} (hraw : raw = e :: rest) :
      e ∉ letterEscapes.map Prod.fst := by
    intro hmem
    obtain ⟨⟨_, c⟩, he, rfl⟩ := List.mem_map.1 hmem
    exact h c rest (hraw ▸ .letter he)
  unfold escape?
  split
  case h_8 x y z w rest =>
    rw [Option.map_eq_none_iff, Option.eq_none_iff_forall_ne_some]
    intro unit hunit
    obtain ⟨c, rest', he⟩ :=
      exists_escape_of_unitAt? (unitAt?_eq_some_iff.2 ⟨x, y, z, w, rfl, hunit⟩)
    exact h c rest' he
  case h_9 => rfl
  all_goals exact (hletter rfl (by decide)).elim

/-! ## Reading texts -/

theorem unescapeFrom_eq_drop (taken : Nat) (raw : List Char) :
    unescapeFrom taken raw = unescape (raw.drop taken) := by
  induction raw generalizing taken with
  | nil => cases taken <;> rfl
  | cons c raw ih =>
      cases taken with
      | zero => rfl
      | succ taken => exact ih taken

theorem unescape_plain (h : c ≠ '\\') : unescape (c :: raw) = c :: unescape raw := by
  rw [unescape, unescapeFrom, if_neg h, ← unescape]

theorem unescape_append_plain {digits : List Char} (h : ∀ c ∈ digits, c ≠ '\\') :
    unescape (digits ++ raw) = digits ++ unescape raw := by
  induction digits with
  | nil => rfl
  | cons c digits ih =>
      obtain ⟨hc, hdigits⟩ := List.forall_mem_cons.1 h
      rw [List.cons_append, unescape_plain hc, ih hdigits, List.cons_append]

theorem unescape_escape (h : Escape unit? raw c rest) :
    unescape ('\\' :: raw) = c :: unescape rest := by
  obtain ⟨taken, hescape, rfl⟩ := escape?_of_escape h
  rw [unescape, unescapeFrom, if_pos rfl, hescape, ← unescapeFrom_eq_drop]

theorem unescape_kept (h : ∀ c rest, ¬Escape unit? raw c rest) :
    unescape ('\\' :: raw) = '\\' :: unescape raw := by
  rw [unescape, unescapeFrom, if_pos rfl, escape?_eq_none h, ← unescape]

theorem unescape_of_decodes (h : Decodes unit? raw text) : unescape raw = text := by
  induction h with
  | nil => rfl
  | plain hc _ ih => rw [unescape_plain hc, ih]
  | escape he _ ih => rw [unescape_escape he, ih]
  | kept hn _ ih => rw [unescape_kept hn, ih]

/-- Whether a unit between the quotes has a plus sign in the place of its first digit. -/
def hasSignedUnit : List Char → Bool
  | '\\' :: c :: raw => isSignedUnit (c :: raw) || hasSignedUnit raw
  | _ :: raw => hasSignedUnit raw
  | [] => false

theorem hasSignedUnit_plain (h : c ≠ '\\') : hasSignedUnit (c :: raw) = hasSignedUnit raw := by
  rw [hasSignedUnit]
  rintro _ _ rfl
  exact absurd rfl h

theorem hasSignedUnit_append_plain {digits : List Char} (h : ∀ c ∈ digits, c ≠ '\\') :
    hasSignedUnit (digits ++ raw) = hasSignedUnit raw := by
  induction digits with
  | nil => rfl
  | cons c digits ih =>
      obtain ⟨hc, hdigits⟩ := List.forall_mem_cons.1 h
      rw [List.cons_append, hasSignedUnit_plain hc, ih hdigits]

theorem hasSignedUnit_unitAt? (h : unitAt? hexNumber? raw = some (unit, rest)) :
    hasSignedUnit ('\\' :: raw) = hasSignedUnit rest := by
  obtain ⟨x, y, z, w, rfl, hvalue⟩ := unitAt?_eq_some_iff.1 h
  have hsigned : isSignedUnit ('u' :: x :: y :: z :: w :: rest) = false := by
    rw [Bool.eq_false_iff]
    intro hsigned
    obtain ⟨_, _, _, _, _, heq, -⟩ := isSignedUnit_iff.1 hsigned
    cases heq
    rw [hexNumber?_plus] at hvalue
    cases hvalue
  rw [hasSignedUnit, hsigned, Bool.false_or]
  exact hasSignedUnit_append_plain (ne_backslash hvalue)

theorem hasSignedUnit_escape (h : Escape hexNumber? raw c rest) :
    hasSignedUnit ('\\' :: raw) = hasSignedUnit rest := by
  cases h with
  | @letter e _ _ h =>
      have hsigned : isSignedUnit (e :: rest) = false := by
        rw [Bool.eq_false_iff]
        intro hsigned
        obtain ⟨_, _, _, _, _, heq, -⟩ := isSignedUnit_iff.1 hsigned
        cases heq
        exact not_letterEscapes_u h
      rw [hasSignedUnit, hsigned, Bool.false_or]
  | pair hhigh hlow => rw [hasSignedUnit_unitAt? hhigh, hasSignedUnit_unitAt? hlow]
  | unit hunit => exact hasSignedUnit_unitAt? hunit

theorem hasSignedUnit_kept (h : ∀ c rest, ¬Escape hexNumber? raw c rest) :
    hasSignedUnit ('\\' :: raw) = (isSignedUnit raw || hasSignedUnit raw) := by
  cases raw with
  | nil => rfl
  | cons c raw =>
      have hc : c ≠ '\\' := by
        rintro rfl
        exact h '\\' raw (.letter (by decide))
      rw [hasSignedUnit, hasSignedUnit_plain hc]

/-- A signed unit that is left undecoded keeps all of its characters, so what four digits alone
make of a text is longer where there is one, and the same where there is none. -/
theorem unescape_of_decodes_hexNumber? (h : Decodes hexNumber? raw text) :
    (hasSignedUnit raw = false → unescape raw = text) ∧
      (hasSignedUnit raw = true → (unescape raw).length < text.length) := by
  induction h with
  | nil => exact ⟨fun _ => rfl, fun h => by cases h⟩
  | plain hc _ ih =>
      rw [hasSignedUnit_plain hc, unescape_plain hc]
      exact ⟨fun h => by rw [ih.1 h], fun h => Nat.succ_lt_succ (ih.2 h)⟩
  | escape he _ ih =>
      rw [hasSignedUnit_escape he, unescape_escape he.of_hexNumber?]
      exact ⟨fun h => by rw [ih.1 h], fun h => Nat.succ_lt_succ (ih.2 h)⟩
  | @kept raw text hn _ ih =>
      rw [hasSignedUnit_kept hn]
      cases hsigned : isSignedUnit raw with
      | false =>
          have hnone : ∀ c rest, ¬Escape unit? raw c rest := fun c rest he =>
            he.hexNumber?_or_isSignedUnit.elim (hn c rest) (by simp [hsigned])
          rw [unescape_kept hnone, Bool.false_or]
          exact ⟨fun h => by rw [ih.1 h], fun h => Nat.succ_lt_succ (ih.2 h)⟩
      | true =>
          -- One character is read in the place of six; behind them no text is read longer.
          refine ⟨fun h => by simp at h, fun _ => ?_⟩
          obtain ⟨x, y, z, rest, c, rfl, hdigits, he⟩ := escape_of_isSignedUnit hsigned
          have hkept : (unescape ('u' :: '+' :: x :: y :: z :: rest)).length =
              (unescape rest).length + 5 := by
            have hplain : ∀ d ∈ ['u', '+', x, y, z], d ≠ '\\' :=
              List.forall_mem_cons.2 ⟨by decide, List.forall_mem_cons.2 ⟨by decide, hdigits⟩⟩
            have happend : unescape (['u', '+', x, y, z] ++ rest) =
                ['u', '+', x, y, z] ++ unescape rest := unescape_append_plain hplain
            simpa using congrArg List.length happend
          have hle : (unescape ('u' :: '+' :: x :: y :: z :: rest)).length ≤ text.length := by
            cases hmore : hasSignedUnit ('u' :: '+' :: x :: y :: z :: rest) with
            | false => rw [ih.1 hmore]
            | true => exact Nat.le_of_lt (ih.2 hmore)
          rw [unescape_escape he, List.length_cons, List.length_cons]
          omega

end

/-- A string is read as the one text that it stands for if a plus sign may take the place of the
first digit of a unit.  That is what it stands for with units of four hexadecimal digits alone
if and only if no unit has a plus sign. -/
theorem read_quotedString_decodes {quote : Char} {text inside rest : List Char}
    (h : quotedForm quote text = (inside, quote :: rest)) :
    ∃ found documented, read (quotedString quote) (quote :: text) = some (found, rest) ∧
      (∀ other, Decodes hexNumber? inside other ↔ other = documented) ∧
      (∀ other, Decodes unit? inside other ↔ other = found) ∧
      (found = documented ↔ hasSignedUnit inside = false) := by
  obtain ⟨documented, hdocumented⟩ := exists_decodes hexNumber? inside
  obtain ⟨found, hfound⟩ := exists_decodes unit? inside
  obtain rfl := unescape_of_decodes hfound
  obtain ⟨hsame, hless⟩ := unescape_of_decodes_hexNumber? hdocumented
  refine ⟨unescape inside, documented, ?_, fun other => ⟨fun h => h.unique hdocumented, ?_⟩,
    fun other => ⟨fun h => h.unique hfound, ?_⟩, ⟨fun heq => ?_, hsame⟩⟩
  · simp [quotedString, h]
  · rintro rfl
    exact hdocumented
  · rintro rfl
    exact hfound
  · rw [Bool.eq_false_iff]
    intro hsigned
    exact absurd (congrArg List.length heq) (Nat.ne_of_lt (hless hsigned))

theorem read_quotedString_decodes_signed :
    quotedForm '"' ['\\', 'u', '+', '0', '4', '1', '"'] =
        (['\\', 'u', '+', '0', '4', '1'], ['"']) ∧
      read (quotedString '"') ['"', '\\', 'u', '+', '0', '4', '1', '"'] = some (['A'], []) ∧
      Decodes hexNumber? ['\\', 'u', '+', '0', '4', '1'] ['\\', 'u', '+', '0', '4', '1'] ∧
      ¬Decodes hexNumber? ['\\', 'u', '+', '0', '4', '1'] ['A'] := by
  have hform : quotedForm '"' ['\\', 'u', '+', '0', '4', '1', '"'] =
      (['\\', 'u', '+', '0', '4', '1'], ['"']) := by rfl
  obtain ⟨found, documented, hread, hdocumented, -, hsame⟩ := read_quotedString_decodes hform
  have hfound : read (quotedString '"') ['"', '\\', 'u', '+', '0', '4', '1', '"'] =
      some (['A'], []) := by rfl
  obtain rfl : ['A'] = found := by
    rw [hfound] at hread
    cases hread
    rfl
  have hsigned : hasSignedUnit ['\\', 'u', '+', '0', '4', '1'] = true := by rfl
  have hkept : ∀ c rest, ¬Escape hexNumber? ['u', '+', '0', '4', '1'] c rest := by
    intro c rest he
    cases he with
    | letter h => exact not_letterEscapes_u h
    | pair hhigh => cases hhigh
    | unit hunit => cases hunit
  refine ⟨hform, hfound, .kept hkept ?_, fun h => ?_⟩
  · exact .plain (by decide) (.plain (by decide) (.plain (by decide) (.plain (by decide)
      (.plain (by decide) .nil))))
  · rw [hsame.1 ((hdocumented _).1 h)] at hsigned
    cases hsigned

end RuleBook.Notation
