import RuleBook.Proofs.Notation.Closing
import RuleBook.Proofs.Notation.LaidOut

/-!
# Scalar text wherever it stands

A bare text that begins no string is a value up to the blanks behind it, at the end of a
document and before a closing bracket alike.
-/

namespace RuleBook.Notation

open Reader

def readScalar (fuel : Nat) (text : List Char) : Option (Built × List Char) :=
  (read (extension fuel) text).or
    ((read (scalar ((fun text => .ok (constantOf text)) <$> token constantForm)) text).or
      ((read (scalar ((fun x => .ok (.number x)) <$> number)) text).or
        (read ((fun text => .ok (plainOf text)) <$> token plainForm) text)))

theorem readScalar_eq {m n : Nat} {text : List Char} (hm : text.length < m) (hn : text.length < n) :
    readScalar m text = readScalar n text := by
  simp only [readScalar, extension, firstOf, List.foldl_cons, List.foldl_nil, read_orElse,
    read_scalar, read_map _ (arithmetic _), read_arithmetic, read_sum_eq hm hn]

section

variable {closing : Char} (hclosing : closing = ']' ∨ closing = '\x7d')

include hclosing

theorem stops_scalar {p : Reader Built} (hp : Stops closing (read p)) :
    Stops closing (read (scalar p)) where
  append {text} h := by
    rw [read_scalar, read_scalar, hp.append h]
    cases hread : read p text with
    | none => rfl
    | some found =>
        have hend := (stops_valueEnd hclosing).append (h.of_suffix (hp.suffix hread))
        rw [Option.map_some, Option.bind_some, Option.bind_some, hend, Option.map_map,
          Option.map_map]
        rfl
  suffix h := hp.suffix (read_scalar_inv h).1

theorem stops_readScalar (fuel : Nat) : Stops closing (readScalar fuel) := by
  have hmap {α : Type} {p : Reader α} (f : α → Built) (hp : Stops closing (read p)) :
      Stops closing (read (scalar (f <$> p))) :=
    stops_scalar hclosing ((hp.map f).congr fun text => read_map f p text)
  have hform {f : Form} (g : List Char → Built) (hf : Stops closing f) :
      Stops closing (read (scalar (g <$> token f))) := hmap g (hf.congr fun _ => rfl)
  have hplain : Stops closing (read ((fun text => (.ok (plainOf text) : Built)) <$> token plainForm)) :=
    ((stops_plainForm hclosing).map fun text => (.ok (plainOf text) : Built)).congr fun text =>
      read_map _ (token plainForm) text
  have hextension : Stops closing (read (extension fuel)) :=
    Stops.congr ((((stops_scalar hclosing (stops_regexValue hclosing)).or
      (hmap (Except.map Literal.number) (stops_hexNumber hclosing))).or
      (hform (fun text => .ok (dateOf text)) (stops_dateForm hclosing))).or
      (hmap (Except.map Literal.number) (stops_arithmetic hclosing fuel))) fun text => by
        simp only [extension, firstOf, List.foldl_cons, List.foldl_nil, read_orElse]
  exact hextension.or ((hform _ (stops_constantForm hclosing)).or
    ((hmap _ (stops_number hclosing)).or hplain))

end

section

variable {c : Char} {text : List Char} (h : Bare (c :: text))
  (hc : c ≠ ':' ∧ c ≠ '"' ∧ c ≠ '\'')

include h hc

theorem read_value_bare (fuel : Nat) (rest : List Char) :
    read (value (fuel + 1)) (c :: (text ++ rest)) = readScalar (fuel + 1) (c :: (text ++ rest)) := by
  have hopening : c ≠ '\x7b' ∧ c ≠ '[' := by
    constructor <;> rintro rfl <;> exact absurd (h.not_mem _ List.mem_cons_self) (by decide)
  rw [read_value, read_relaxed_cons ⟨hopening.1, hopening.2, hc.2⟩, readScalar]

theorem plainForm_bare : plainForm (c :: text) = some (c :: text, []) := by
  have hne (d : Char) (hd : d ∈ ",[]\x7b\x7d".toList) : c ≠ d := by
    rintro rfl
    exact h.not_mem _ List.mem_cons_self
      ((by decide : ",[]\x7b\x7d".toList ⊆ ",[]\x7b\x7d#\n\r".toList) hd)
  have hall : ∀ d ∈ c :: text, (!(",\x7d]".toList.contains d || isLineBreak d)) = true := by
    intro d hd
    have hmem := h.not_mem d hd
    have hd : d ≠ ',' ∧ d ≠ '[' ∧ d ≠ ']' ∧ d ≠ '\x7b' ∧ d ≠ '\x7d' ∧ d ≠ '#' ∧ d ≠ '\n' ∧
        d ≠ '\r' := by simpa using hmem
    simp [isLineBreak, hd]
  have hrun := @takeRun1?_append _ _ [] (List.cons_ne_nil c text) hall (by simp)
  rw [List.append_nil] at hrun
  rw [plainForm, if_neg (by simp [hc, hne]), hrun]

end

theorem Bare.inline_of_mayEnd {rest : List Char} (h : Bare rest) (hend : MayEnd rest) :
    Inline rest := by
  induction rest with
  | nil => exact .nil
  | cons c rest ih =>
      have hmore (hpiece : IsInlinePiece [c]) : Inline (c :: rest) :=
        .cons hpiece (ih (h.of_suffix (List.suffix_cons _ _))
          ((mayEnd_inline (Pieces.single hpiece)).1 hend))
      by_cases hc : c ≠ ' ' ∧ c ≠ '\t'
      · have hskip : skipInline (c :: (rest ++ [])) = c :: (rest ++ []) :=
          h.skipInline_eq hc (by simp)
        have hends : endsScalar (c :: (rest ++ [])) = false := h.endsScalar_eq (by simp)
        rw [List.append_nil] at hskip hends
        rw [mayEnd_iff, hskip, hends] at hend
        simp at hend
      · rw [not_and_or, not_not, not_not] at hc
        rcases hc with rfl | rfl
        · exact hmore .space
        · exact hmore .tab

theorem mayEnd_of_extension {fuel : Nat} {text rest : List Char} {built : Built}
    (h : read (extension fuel) text = some (built, rest)) : MayEnd rest := by
  simp only [extension, firstOf, List.foldl_cons, List.foldl_nil, read_orElse,
    Option.or_eq_some_iff] at h
  rcases h with ((h | ⟨-, h⟩) | ⟨-, h⟩) | ⟨-, h⟩ <;> exact (read_scalar_inv h).2

theorem readScalar_bare {c : Char} {text : List Char} (h : Bare (c :: text))
    (hc : c ≠ ':' ∧ c ≠ '"' ∧ c ≠ '\'') (fuel : Nat) :
    ∃ built rest, readScalar fuel (c :: text) = some (built, rest) ∧ Inline rest := by
  have hplain : read ((fun text => (.ok (plainOf text) : Built)) <$> token plainForm) (c :: text) =
      some (.ok (plainOf (c :: text)), []) := by
    rw [read_map, read_token, plainForm_bare h hc]
    rfl
  have hsome : (readScalar fuel (c :: text)).isSome = true := by
    rw [readScalar, hplain]
    simp
  obtain ⟨⟨built, rest⟩, hread⟩ := Option.isSome_iff_exists.1 hsome
  refine ⟨built, rest, hread, ?_⟩
  have hrest : Bare rest := h.of_suffix ((stops_readScalar (.inl rfl) fuel).suffix hread)
  rw [readScalar] at hread
  simp only [Option.or_eq_some_iff] at hread
  rcases hread with hread | ⟨-, hread | ⟨-, hread | ⟨-, hread⟩⟩⟩
  · exact hrest.inline_of_mayEnd (mayEnd_of_extension hread)
  · exact hrest.inline_of_mayEnd (read_scalar_inv hread).2
  · exact hrest.inline_of_mayEnd (read_scalar_inv hread).2
  · rw [hplain] at hread
    cases hread
    exact .nil

/-- A bare text that is more than blanks and begins neither a string nor with a colon. -/
structure IsScalarText (text : List Char) : Prop where
  bare : Bare text
  first : ∃ blanks c more, text = blanks ++ c :: more ∧ (∀ b ∈ blanks, b = ' ' ∨ b = '\t') ∧
    (c ≠ ' ' ∧ c ≠ '\t') ∧ c ≠ ':' ∧ c ≠ '"' ∧ c ≠ '\''

theorem IsScalarText.read_value {text : List Char} (h : IsScalarText text) :
    ∃ built inline, Inline inline ∧ parse text = built ∧
      ∀ closing, closing = ']' ∨ closing = '\x7d' → ∀ fuel, text.length < fuel →
        read (value fuel) (skipLayout (text ++ [closing])) = some (built, inline ++ [closing]) := by
  obtain ⟨blanks, c, more, rfl, hblanks, hblank, hc⟩ := h.first
  have hbare : Bare (c :: more) := h.bare.of_suffix (List.suffix_append _ _)
  have hskip {rest : List Char} (hrest : rest.head? ≠ some '*' ∧ rest.head? ≠ some '/') :
      skipLayout (blanks ++ c :: more ++ rest) = c :: (more ++ rest) := by
    rw [List.append_assoc, skipLayout_gap (inline_of_blanks hblanks).gap]
    exact hbare.skipLayout_eq hblank hrest
  obtain ⟨built, inline, hread, hinline⟩ :=
    readScalar_bare hbare hc ((blanks ++ c :: more).length + 1)
  have hlength : (c :: more).length ≤ (blanks ++ c :: more).length := by
    rw [List.length_append]
    omega
  refine ⟨built, inline, hinline, ?_, fun closing hclosing fuel hfuel => ?_⟩
  · have halone : skipLayout (blanks ++ c :: more ++ []) = c :: (more ++ []) := hskip (by simp)
    rw [List.append_nil, List.append_nil] at halone
    have hvalue := read_value_bare hbare hc (blanks ++ c :: more).length []
    rw [List.append_nil, hread] at hvalue
    have hstart : read (value ((blanks ++ c :: more).length + 1))
        (skipLayout (blanks ++ c :: more)) = some (built, inline) := by
      rw [halone, hvalue]
    have hrest := skipLayout_gap hinline.gap []
    rw [List.append_nil] at hrest
    exact parse_of_read_value hstart hrest
  · obtain ⟨fuel, rfl⟩ : ∃ n, fuel = n + 1 := ⟨fuel - 1, by omega⟩
    rw [hskip (by rcases hclosing with rfl | rfl <;> simp), read_value_bare hbare hc,
      ← List.cons_append, (stops_readScalar hclosing _).append hbare,
      readScalar_eq (by omega) (show _ < (blanks ++ c :: more).length + 1 by omega), hread]
    rfl

theorem read_members_single {α : Type} {opening closing : Char} {member : Reader α} {a : α}
    (hleaves : Leaves member) (hclosing : closing = ']' ∨ closing = '\x7d')
    (hnone : ∀ rest, read member (closing :: rest) = none) {text inline : List Char}
    (hinline : Inline inline)
    (hmember : read member (skipLayout text) = some (a, inline ++ [closing])) :
    read (members opening closing member) (opening :: text) = some ([a], []) := by
  obtain ⟨-, hmany, hafter⟩ := read_many_tail hinline (.inl rfl) .nil hclosing hnone []
  exact (read_members_iff hleaves).2
    ⟨_, (read_many_comma hleaves).2 ⟨_, hmember, hmany⟩, hafter⟩

/-- Scalar text denotes in a sequence and in a mapping what it denotes alone, and where it has
an error it has the same one. -/
theorem parse_scalarText {text : String} (h : IsScalarText text.toList) :
    Literal.parse ("[" ++ text ++ "]") = (Literal.parse text).map (fun x => .sequence [x]) ∧
    Literal.parse ("\x7bk: " ++ text ++ "\x7d") =
      (Literal.parse text).map fun x => .mapping [("k", x)] := by
  obtain ⟨built, inline, hinline, hparse, hread⟩ := h.read_value
  rw [Literal.parse, Literal.parse, Literal.parse, hparse]
  constructor
  · have htext : ("[" ++ text ++ "]").toList = '[' :: (text.toList ++ [']']) := by simp
    have hvalue {fuel : Nat} (hfuel : text.toList.length < fuel) :
        read (value (fuel + 1)) ('[' :: (text.toList ++ [']'])) =
          some (built.map fun x => .sequence [x], []) := by
      rw [read_value_bracket, read_members_single (leaves_value fuel) (.inl rfl)
        (read_value_closing fuel) hinline (hread ']' (.inl rfl) fuel hfuel)]
      cases built <;> rfl
    rw [htext]
    refine parse_of_read_value ?_ skipLayout_nil
    rw [skipLayout_cons (by decide)]
    exact hvalue (by simp)
  · have htext : ("\x7bk: " ++ text ++ "\x7d").toList =
        '\x7b' :: (keyText ['k'] ++ ':' :: ' ' :: (text.toList ++ ['\x7d'])) := by
      rw [show keyText ['k'] = ['k'] by decide]
      simp
    have hvalue {fuel : Nat} (hfuel : text.toList.length < fuel) :
        read (value (fuel + 1))
            ('\x7b' :: (keyText ['k'] ++ ':' :: ' ' :: (text.toList ++ ['\x7d']))) =
          some (built.map fun x => .mapping [("k", x)], []) := by
      have hentry := read_objectMember_written (value fuel) ['k'] (text.toList ++ ['\x7d'])
      rw [hread '\x7d' (.inr rfl) fuel hfuel, ← skipLayout_keyText] at hentry
      rw [read_value_brace, read_members_single (leaves_objectMember (leaves_value fuel))
        (.inr rfl) (read_objectMember_closing _) hinline hentry]
      cases built <;> rfl
    rw [htext]
    refine parse_of_read_value ?_ skipLayout_nil
    rw [skipLayout_cons (by decide)]
    exact hvalue (by simp; omega)

/-- A slash before the bracket begins no comment, and a number that is too large is too large
in a container as well. -/
theorem parse_scalarText_slash :
    IsScalarText " a: b /".toList ∧ IsScalarText "0xffffffffffffffff".toList ∧
      Literal.parse ("[" ++ " a: b /" ++ "]") = .ok (.sequence [.string "a: b /"]) ∧
      Literal.parse ("\x7bk: " ++ " a: b /" ++ "\x7d") = .ok (.mapping [("k", .string "a: b /")]) ∧
      Literal.parse ("[" ++ "0xffffffffffffffff" ++ "]") =
        .error (.hexOverflow "0xffffffffffffffff".toList) := by
  have hwords : IsScalarText " a: b /".toList :=
    ⟨⟨by decide, by decide, by decide⟩, [' '], 'a', ": b /".toList, rfl, by decide, by decide,
      by decide⟩
  have hhex : IsScalarText "0xffffffffffffffff".toList :=
    ⟨⟨by decide, by decide, by decide⟩, [], '0', "xffffffffffffffff".toList, rfl, by decide,
      by decide, by decide⟩
  have hparse : Literal.parse " a: b /" = .ok (.string "a: b /") := rfl
  have herror : Literal.parse "0xffffffffffffffff" =
      .error (.hexOverflow "0xffffffffffffffff".toList) := rfl
  obtain ⟨hsequence, hmapping⟩ := parse_scalarText hwords
  obtain ⟨hrefused, -⟩ := parse_scalarText hhex
  rw [hparse] at hsequence hmapping
  rw [herror] at hrefused
  exact ⟨hwords, hhex, hsequence, hmapping, hrefused⟩

end RuleBook.Notation
