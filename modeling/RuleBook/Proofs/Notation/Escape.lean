import RuleBook.Notation.Grammar
import RuleBook.Proofs.Notation.Reader
import RuleBook.Proofs.Text.Blank

/-!
# Quoted strings

What is written between quotes is a sequence of units, each a plain character or an
escape.  Reading takes the same units, so it comes to the closing quote exactly at the
end, and never on a text that is cut before it.
-/

namespace RuleBook.Notation

open Reader

def isUnitChar (c : Char) : Bool := c.toNat < 0x20 || c == '\u2028' || c == '\u2029'

private theorem hexText_control (n : Fin 32) :
    let digits := ['0', '0', Nat.digitChar (n / 16), Nat.digitChar (n % 16)]
    Text.hexText 4 n = digits ∧ unit? digits = some n.val ∧
      ∀ d ∈ digits, d ≠ '"' ∧ d ≠ '\\' ∧ isLineBreak d = false := by
  revert n
  decide

theorem hexText_unit {c : Char} (h : isUnitChar c = true) :
    ∃ x y z w, Text.hexText 4 c.toNat = [x, y, z, w] ∧ unit? [x, y, z, w] = some c.toNat ∧
      ∀ d ∈ [x, y, z, w], d ≠ '"' ∧ d ≠ '\\' ∧ isLineBreak d = false := by
  simp only [isUnitChar, Bool.or_eq_true, decide_eq_true_eq, beq_iff_eq] at h
  rcases h with (h | rfl) | rfl
  · exact ⟨_, _, _, _, hexText_control ⟨c.toNat, h⟩⟩
  · exact ⟨'2', '0', '2', '8', by decide, by decide, by decide⟩
  · exact ⟨'2', '0', '2', '9', by decide, by decide, by decide⟩

theorem escapeChar_cases (c : Char) :
    (escapeChar c = [c] ∧ c ≠ '"' ∧ c ≠ '\\' ∧ isLineBreak c = false) ∨
    (∃ e, escapeChar c = ['\\', e] ∧ isLineBreak e = false ∧
      ∀ text, escape? (e :: text) = some (c, 1)) ∨
    (escapeChar c = '\\' :: 'u' :: Text.hexText 4 c.toNat ∧ isUnitChar c = true) := by
  unfold escapeChar
  split
  · next h => exact .inr (.inl ⟨'"', rfl, rfl, fun _ => by rw [h]; rfl⟩)
  split
  · next h => exact .inr (.inl ⟨'\\', rfl, rfl, fun _ => by rw [h]; rfl⟩)
  split
  · next h => exact .inr (.inl ⟨'n', rfl, rfl, fun _ => by rw [h]; rfl⟩)
  split
  · next h => exact .inr (.inl ⟨'r', rfl, rfl, fun _ => by rw [h]; rfl⟩)
  split
  · next h => exact .inr (.inl ⟨'t', rfl, rfl, fun _ => by rw [h]; rfl⟩)
  split
  · next h => exact .inr (.inr ⟨rfl, by simpa [isUnitChar, or_assoc] using h⟩)
  · next hquote hslash hn hr _ _ => exact .inl ⟨rfl, hquote, hslash, by simp [isLineBreak, hn, hr]⟩

private theorem charOfUnit_toNat (c : Char) : charOfUnit c.toNat = c := by
  rw [charOfUnit, dif_pos (show c.toNat.isValidChar from c.valid)]
  rfl

private theorem isHighUnit_unit {c : Char} (h : isUnitChar c = true) :
    isHighUnit c.toNat = false := by
  simp only [isUnitChar, Bool.or_eq_true, decide_eq_true_eq, beq_iff_eq] at h
  rcases h with (h | rfl) | rfl
  · simp [isHighUnit]
    omega
  · rfl
  · rfl

theorem unescapeFrom_escapeChar (c : Char) (text : List Char) :
    unescapeFrom 0 (escapeChar c ++ text) = c :: unescapeFrom 0 text := by
  rcases escapeChar_cases c with ⟨h, -, hslash, -⟩ | ⟨e, h, -, hescape⟩ | ⟨h, hunit⟩
  · simp [h, unescapeFrom, hslash]
  · simp [h, unescapeFrom, hescape]
  · obtain ⟨x, y, z, w, hhex, hvalue, -⟩ := hexText_unit hunit
    simp [h, hhex, unescapeFrom, escape?, hvalue, isHighUnit_unit hunit, charOfUnit_toNat]

theorem unescape_flatMap_escapeChar (s : List Char) : unescape (s.flatMap escapeChar) = s := by
  induction s with
  | nil => rfl
  | cons c s ih =>
      rw [List.flatMap_cons, unescape, unescapeFrom_escapeChar]
      rw [unescape] at ih
      rw [ih]

private theorem quotedForm_plain {quote c : Char}
    (h : c ≠ quote ∧ c ≠ '\\' ∧ isLineBreak c = false) (text : List Char) :
    quotedForm quote (c :: text) =
      (c :: (quotedForm quote text).1, (quotedForm quote text).2) := by
  obtain ⟨h1, h2, h3⟩ := h
  rw [quotedForm, if_neg (by simp [h1, h2, h3])]
  intro d rest heq
  exact absurd heq h2

private theorem quotedForm_escape {quote e : Char} (h : isLineBreak e = false)
    (text : List Char) :
    quotedForm quote ('\\' :: e :: text) =
      ('\\' :: e :: (quotedForm quote text).1, (quotedForm quote text).2) := by
  rw [quotedForm, if_neg (by simp [h])]

inductive IsInside : List Char → Prop
  | nil : IsInside []
  | plain {c : Char} {rest : List Char} (hc : c ≠ '"' ∧ c ≠ '\\' ∧ isLineBreak c = false)
      (hrest : IsInside rest) : IsInside (c :: rest)
  | escape {c : Char} {rest : List Char} (hc : isLineBreak c = false) (hrest : IsInside rest) :
      IsInside ('\\' :: c :: rest)

theorem IsInside.append {s t : List Char} (hs : IsInside s) (ht : IsInside t) :
    IsInside (s ++ t) := by
  induction hs with
  | nil => exact ht
  | plain hc _ ih => exact .plain hc ih
  | escape hc _ ih => exact .escape hc ih

theorem isInside_escapeChar (c : Char) : IsInside (escapeChar c) := by
  rcases escapeChar_cases c with ⟨h, hplain⟩ | ⟨e, h, hbreak, -⟩ | ⟨h, hunit⟩
  · rw [h]
    exact .plain hplain .nil
  · rw [h]
    exact .escape hbreak .nil
  · obtain ⟨x, y, z, w, hhex, -, hplain⟩ := hexText_unit hunit
    simp only [List.forall_mem_cons] at hplain
    obtain ⟨hx, hy, hz, hw, -⟩ := hplain
    rw [h, hhex]
    exact .escape rfl (.plain hx (.plain hy (.plain hz (.plain hw .nil))))

theorem isInside_written (s : List Char) : IsInside (s.flatMap escapeChar) := by
  induction s with
  | nil => exact .nil
  | cons c s ih =>
      rw [List.flatMap_cons]
      exact (isInside_escapeChar c).append ih

theorem quotedForm_append {inside : List Char} (h : IsInside inside) (text : List Char) :
    quotedForm '"' (inside ++ text) =
      (inside ++ (quotedForm '"' text).1, (quotedForm '"' text).2) := by
  induction h with
  | nil => rfl
  | plain hc _ ih => simp only [List.cons_append, quotedForm_plain hc, ih]
  | escape hc _ ih => simp only [List.cons_append, quotedForm_escape hc, ih]

theorem quotedForm_inside {inside : List Char} (h : IsInside inside) (rest : List Char) :
    quotedForm '"' (inside ++ '"' :: rest) = (inside, '"' :: rest) := by
  rw [quotedForm_append h]
  simp [quotedForm]

private theorem word_cons {c : Char} (h : c ≠ '\'') (text : List Char) :
    Form.word "\'\'\'" (c :: text) = none := by
  rw [Form.word, if_neg]
  simp [List.isPrefixOf, Ne.symm h]

theorem read_blockString_cons {c : Char} (h : c ≠ '\'') (text : List Char) :
    read blockString (c :: text) = none := by
  simp [blockString, word_cons h]

theorem read_quotedString_cons {quote c : Char} (h : c ≠ quote) (text : List Char) :
    read (quotedString quote) (c :: text) = none := by
  simp [quotedString, read_char_cons, h]

theorem read_stringText_cons {c : Char} (h : c ≠ '"' ∧ c ≠ '\'') (text : List Char) :
    read stringText (c :: text) = none := by
  simp [stringText, firstOf, read_blockString_cons h.2, read_quotedString_cons h.1,
    read_quotedString_cons h.2]

private theorem read_stringText_quote (text : List Char) :
    read stringText ('"' :: text) = read (quotedString '"') ('"' :: text) := by
  simp [stringText, firstOf, read_blockString_cons, read_quotedString_cons]

theorem read_stringText_inside {inside : List Char} (h : IsInside inside) (rest : List Char) :
    read stringText ('"' :: (inside ++ '"' :: rest)) = some (unescape inside, rest) := by
  rw [read_stringText_quote]
  simp [quotedString, quotedForm_inside h]

theorem read_stringText_written (s rest : List Char) :
    read stringText (quote s ++ rest) = some (s, rest) := by
  have hread := read_stringText_inside (isInside_written s) rest
  rw [unescape_flatMap_escapeChar] at hread
  rwa [quote, List.cons_append, List.cons_append, List.append_assoc]

theorem prefix_append_cases {p s t : List Char} (h : p <+: s ++ t) :
    (p <+: s ∧ p ≠ s) ∨ ∃ q, p = s ++ q ∧ q <+: t := by
  rcases List.prefix_or_prefix_of_prefix h (List.prefix_append s t) with hp | ⟨q, rfl⟩
  · by_cases heq : p = s
    · exact .inr ⟨[], by simp [heq], List.nil_prefix⟩
    · exact .inl ⟨hp, heq⟩
  · exact .inr ⟨q, rfl, (List.prefix_append_right_inj s).1 h⟩

private theorem quotedForm_all {q : List Char}
    (h : ∀ d ∈ q, d ≠ '"' ∧ d ≠ '\\' ∧ isLineBreak d = false) :
    quotedForm '"' q = (q, []) := by
  induction q with
  | nil => rfl
  | cons d q ih =>
      rw [quotedForm_plain (h d (by simp)), ih fun x hx => h x (by simp [hx])]

private theorem quotedForm_cut_escapeChar {c : Char} {p : List Char}
    (h : p <+: escapeChar c) (hne : p ≠ escapeChar c) :
    (quotedForm '"' p).2 = [] ∨ (quotedForm '"' p).2 = ['\\'] := by
  have hlone : (quotedForm '"' ['\\']).2 = ['\\'] := by decide
  cases p with
  | nil => exact .inl rfl
  | cons x p =>
      rcases escapeChar_cases c with ⟨hc, -⟩ | ⟨e, hc, hbreak, -⟩ | ⟨hc, hunit⟩
      · rw [hc] at h hne
        obtain ⟨rfl, hp⟩ := List.cons_prefix_cons.1 h
        rw [List.prefix_nil.1 hp] at hne
        exact absurd rfl hne
      · rw [hc] at h hne
        obtain ⟨rfl, hp⟩ := List.cons_prefix_cons.1 h
        cases p with
        | nil => exact .inr hlone
        | cons y p =>
            obtain ⟨rfl, hnil⟩ := List.cons_prefix_cons.1 hp
            rw [List.prefix_nil.1 hnil] at hne
            exact absurd rfl hne
      · obtain ⟨x, y, z, w, hhex, -, hplain⟩ := hexText_unit hunit
        rw [hc, hhex] at h
        obtain ⟨rfl, hp⟩ := List.cons_prefix_cons.1 h
        cases p with
        | nil => exact .inr hlone
        | cons u p =>
            obtain ⟨rfl, hrest⟩ := List.cons_prefix_cons.1 hp
            rw [quotedForm_escape rfl, quotedForm_all fun d hd => hplain d (hrest.subset hd)]
            exact .inl rfl

private theorem quotedForm_cut {s p : List Char} (h : p <+: s.flatMap escapeChar) :
    (quotedForm '"' p).2 = [] ∨ (quotedForm '"' p).2 = ['\\'] := by
  induction s generalizing p with
  | nil =>
      obtain rfl := List.prefix_nil.1 h
      exact .inl rfl
  | cons c s ih =>
      rw [List.flatMap_cons] at h
      rcases prefix_append_cases h with ⟨hp, hne⟩ | ⟨q, rfl, hq⟩
      · exact quotedForm_cut_escapeChar hp hne
      · rw [quotedForm_append (isInside_escapeChar c)]
        exact ih hq

theorem read_stringText_cut {s p : List Char} (h : p <+: quote s) (hne : p ≠ quote s) :
    read stringText p = none := by
  cases p with
  | nil => rfl
  | cons c p =>
      rw [quote, List.cons_append] at h hne
      obtain ⟨rfl, hp⟩ := List.cons_prefix_cons.1 h
      have hcut : p <+: s.flatMap escapeChar := by
        rcases prefix_append_cases hp with ⟨hp, -⟩ | ⟨q, rfl, hq⟩
        · exact hp
        · cases q with
          | nil => simp
          | cons d q =>
              obtain ⟨rfl, hnil⟩ := List.cons_prefix_cons.1 hq
              rw [List.prefix_nil.1 hnil] at hne
              exact absurd rfl hne
      rw [read_stringText_quote]
      rcases quotedForm_cut hcut with h | h <;> simp [quotedString, h, read_char_cons]

theorem isLineBreak_quote {s : List Char} : ∀ c ∈ quote s, isLineBreak c = false := by
  intro c hc
  simp only [quote, List.cons_append, List.mem_cons, List.mem_append, List.mem_flatMap,
    List.not_mem_nil, or_false] at hc
  rcases hc with rfl | ⟨d, -, hd⟩ | rfl
  · rfl
  · rcases escapeChar_cases d with ⟨h, -, -, hbreak⟩ | ⟨e, h, hbreak, -⟩ | ⟨h, hunit⟩
    · rw [h, List.mem_singleton] at hd
      rwa [hd]
    · rw [h] at hd
      rcases List.mem_cons.1 hd with rfl | hd
      · rfl
      · rwa [List.mem_singleton.1 hd]
    · obtain ⟨x, y, z, w, hhex, -, hplain⟩ := hexText_unit hunit
      rw [h, hhex] at hd
      rcases List.mem_cons.1 hd with rfl | hd
      · rfl
      rcases List.mem_cons.1 hd with rfl | hd
      · rfl
      exact (hplain c hd).2.2
  · rfl

end RuleBook.Notation
