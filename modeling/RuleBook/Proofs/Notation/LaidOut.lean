import RuleBook.Proofs.Notation.RoundTrip
import RuleBook.Proofs.Notation.Spacing

/-!
# Literals in any layout

The texts of a literal made of sequences and mappings, with layout wherever the notation
allows it.  All of them read as that literal.
-/

namespace RuleBook.Notation

open Reader

section

variable {α : Type}

/-- Members one after the other, the closing bracket after the last of them included. -/
inductive Members (Member : α → List Char → Prop) (closing : Char) : List α → List Char → Prop
  | last {a : α} {text inline comma gap : List Char} (hmember : Member a text)
      (hinline : Inline inline) (hcomma : comma = [] ∨ comma = [',']) (hgap : Gap gap) :
      Members Member closing [a] (text ++ (inline ++ (comma ++ (gap ++ [closing]))))
  | cons {a : α} {as : List α} {text inline separator gap more : List Char}
      (hmember : Member a text) (hinline : Inline inline) (hseparator : IsSeparator separator)
      (hgap : Gap gap) (hmore : Members Member closing as more) :
      Members Member closing (a :: as) (text ++ (inline ++ (separator ++ (gap ++ more))))

inductive Bracketed (Member : α → List Char → Prop) (opening closing : Char) :
    List α → List Char → Prop
  | empty {gap : List Char} (hgap : Gap gap) :
      Bracketed Member opening closing [] (opening :: (gap ++ [closing]))
  | full {as : List α} {gap text : List Char} (hgap : Gap gap)
      (hmembers : Members Member closing as text) :
      Bracketed Member opening closing as (opening :: (gap ++ text))

end

/-- A key and the layout up to the colon.  No comment may follow a bare key directly, since
that would read on as the key. -/
inductive Key : List Char → List Char → Prop
  | quoted {inside inline : List Char} (hinside : IsInside inside) (hinline : Inline inline) :
      Key (unescape inside) ('"' :: (inside ++ '"' :: inline))
  | bare {key inline : List Char} (hbare : isBareKey key = true) (hinline : Inline inline)
      (hblank : inline.head? ≠ some '/') : Key key (key ++ inline)

inductive Entry (Value : Literal → List Char → Prop) : String × Literal → List Char → Prop
  | mk {key keyText gap text : List Char} {x : Literal} (hkey : Key key keyText) (hgap : Gap gap)
      (hvalue : Value x text) : Entry Value (String.ofList key, x) (keyText ++ ':' :: (gap ++ text))

/-- A text of a literal without layout around it. -/
inductive LaidOut : Literal → List Char → Prop
  | null : LaidOut .null "null".toList
  | bool (b : Bool) : LaidOut (.bool b) (if b then "true" else "false").toList
  | number {negative : Bool} {whole fraction exponent : List Char} {e : Int}
      (hwhole : Decimal.IsWhole whole) (hfraction : ∀ c ∈ fraction, c.isDigit = true)
      (hexponent : Decimal.IsExponent exponent e) :
      LaidOut (.number (Decimal.toFloat negative
          ⟨Nat.ofDigitChars 10 (whole ++ fraction) 0, e - fraction.length⟩))
        (plainNumber negative whole fraction ++ exponent)
  | string {inside : List Char} (hinside : IsInside inside) :
      LaidOut (.string (String.ofList (unescape inside))) ('"' :: (inside ++ ['"']))
  | sequence {items : List Literal} {text : List Char}
      (hitems : Bracketed LaidOut '[' ']' items text) : LaidOut (.sequence items) text
  | mapping {entries : List (String × Literal)} {text : List Char}
      (hentries : Bracketed (Entry LaidOut) '\x7b' '\x7d' entries text) :
      LaidOut (Literal.ofEntries entries) text

theorem Key.cons {key text : List Char} (h : Key key text) :
    ∃ c more, text = c :: more ∧ beginsNoLayout c := by
  cases h with
  | quoted => exact ⟨_, _, rfl, by decide⟩
  | bare hbare =>
      obtain ⟨c, more, rfl, hhash, hslash, hall⟩ := isBareKey_cons hbare
      obtain ⟨-, -, -, hblank⟩ := isBareKeyRest_plain (hall c (by simp))
      exact ⟨c, _, rfl, beginsNoLayout_of_isBlank hblank ⟨hhash, hslash⟩⟩

theorem Bracketed.cons {α : Type} {Member : α → List Char → Prop} {opening closing : Char}
    {as : List α} {text : List Char} (h : Bracketed Member opening closing as text) :
    ∃ inner, text = opening :: inner := by
  cases h <;> exact ⟨_, rfl⟩

theorem LaidOut.cons {x : Literal} {text : List Char} (h : LaidOut x text) :
    ∃ c more, text = c :: more ∧ beginsNoLayout c := by
  cases h with
  | null => exact ⟨_, _, rfl, by decide⟩
  | bool b => cases b <;> exact ⟨_, _, rfl, by decide⟩
  | @number negative whole fraction exponent e hwhole =>
      obtain ⟨c, more, hcons, hc⟩ := plainNumber_cons negative hwhole fraction
      refine ⟨c, more ++ exponent, by rw [hcons, List.cons_append], ?_⟩
      refine ⟨?_, ?_, ?_, ?_, ?_, ?_⟩ <;> rintro rfl <;> cases hc
  | string => exact ⟨_, _, rfl, by decide⟩
  | sequence hitems =>
      obtain ⟨inner, rfl⟩ := hitems.cons
      exact ⟨_, _, rfl, by decide⟩
  | mapping hentries =>
      obtain ⟨inner, rfl⟩ := hentries.cons
      exact ⟨_, _, rfl, by decide⟩

theorem skipLayout_laidOut {x : Literal} {text : List Char} (h : LaidOut x text)
    (rest : List Char) : skipLayout (text ++ rest) = text ++ rest := by
  obtain ⟨c, more, rfl, hc⟩ := h.cons
  exact skipLayout_cons hc _

theorem skipLayout_entry {Value : Literal → List Char → Prop} {entry : String × Literal}
    {text : List Char} (h : Entry Value entry text) (rest : List Char) :
    skipLayout (text ++ rest) = text ++ rest := by
  cases h with
  | mk hkey =>
      obtain ⟨c, more, rfl, hc⟩ := hkey.cons
      exact skipLayout_cons hc _

section

variable {α β : Type} {Member : α → List Char → Prop} {member : Reader β} {found : α → β}
  {opening closing : Char} {n : Nat}

theorem skipLayout_members {as : List α} {text : List Char}
    (hstart : ∀ a text, Member a text → ∀ rest, skipLayout (text ++ rest) = text ++ rest)
    (h : Members Member closing as text) (rest : List Char) :
    skipLayout (text ++ rest) = text ++ rest := by
  cases h with
  | last hmember => rw [List.append_assoc, hstart _ _ hmember]
  | cons hmember => rw [List.append_assoc, hstart _ _ hmember]

theorem read_nextMember (member : Reader β) (text : List Char) :
    read (nextMember member) text = (takeSeparator? text).bind (read member) := by
  rw [nextMember, read_bind, read_expect]
  cases takeSeparator? text <;> rfl

theorem afterMembers_inline {inline : List Char} (h : Inline inline) (rest : List Char) :
    afterMembers (inline ++ rest) = afterMembers rest := by
  rw [afterMembers, afterMembers, takeTrailingComma?_inline h]
  cases takeTrailingComma? rest with
  | none => exact skipLayout_gap h.gap rest
  | some after => rfl

theorem skipLayout_gap_closing {gap : List Char} (hgap : Gap gap)
    (hclosing : closing = ']' ∨ closing = '\x7d') (rest : List Char) :
    skipLayout (gap ++ closing :: rest) = closing :: rest := by
  rw [skipLayout_gap hgap]
  exact skipLayout_cons (by rcases hclosing with rfl | rfl <;> decide) rest

theorem read_many_tail {inline comma gap : List Char} (hinline : Inline inline)
    (hcomma : comma = [] ∨ comma = [',']) (hgap : Gap gap)
    (hclosing : closing = ']' ∨ closing = '\x7d')
    (hnone : ∀ rest, read member (closing :: rest) = none) (rest : List Char) :
    let tail := inline ++ (comma ++ (gap ++ closing :: rest))
    MayEnd tail ∧ read (many (nextMember member)) tail = some ([], tail) ∧
      afterMembers tail = closing :: rest := by
  intro tail
  have hstop := skipLayout_gap_closing hgap hclosing rest
  have hmany (hseparator : takeSeparator? (comma ++ (gap ++ closing :: rest)) = none ∨
      takeSeparator? (comma ++ (gap ++ closing :: rest)) = some (closing :: rest)) :
      read (many (nextMember member)) tail = some ([], tail) := by
    refine read_many_of_none ?_
    rw [read_nextMember, takeSeparator?_inline hinline]
    rcases hseparator with h | h
    · rw [h, Option.bind_none]
    · rw [h, Option.bind_some, hnone]
  rcases hcomma with rfl | rfl
  · have hend : AtEnd (closing :: rest) := by rcases hclosing with rfl | rfl <;> simp [AtEnd]
    have hgapEnd : MayEnd (gap ++ closing :: rest) := mayEnd_gap hgap hend.mayEnd
    have hseparator := takeSeparator?_gap_closing hgap hclosing rest
    refine ⟨(mayEnd_inline hinline).2 hgapEnd, hmany hseparator, ?_⟩
    rw [afterMembers_inline hinline, List.nil_append, afterMembers,
      takeTrailingComma?_gap_closing hgap hclosing, Option.getD_none, hstop]
  · refine ⟨(mayEnd_inline hinline).2 (mayEnd_separator .comma _), hmany (.inr ?_), ?_⟩
    · rw [takeSeparator?_separator .comma, hstop]
    · rw [afterMembers_inline hinline, List.singleton_append, afterMembers_comma, hstop]

variable (hleaves : Leaves member) (hclosing : closing = ']' ∨ closing = '\x7d')
  (hnone : ∀ rest, read member (closing :: rest) = none)
  (hstart : ∀ a text, Member a text → ∀ rest, skipLayout (text ++ rest) = text ++ rest)
  (hread : ∀ a text, Member a text → text.length < n → ∀ rest, MayEnd rest →
    read member (text ++ rest) = some (found a, rest))

include hleaves hclosing hnone hstart hread

theorem read_many_members {as : List α} {text : List Char} (h : Members Member closing as text)
    (hlength : text.length ≤ n) (rest : List Char) :
    ∃ b bs middle after, as.map found = b :: bs ∧
      read member (text ++ rest) = some (b, middle) ∧
      read (many (nextMember member)) middle = some (bs, after) ∧
      afterMembers after = closing :: rest := by
  induction h with
  | @last a text inline comma gap hmember hinline hcomma hgap =>
      obtain ⟨hend, hmany, hafter⟩ := read_many_tail hinline hcomma hgap hclosing hnone rest
      simp only [List.length_append, List.length_singleton] at hlength
      have hfirst := hread a text hmember (by omega) _ hend
      exact ⟨found a, [], _, _, rfl, by simpa using hfirst, hmany, hafter⟩
  | @cons a as text inline separator gap more hmember hinline hseparator hgap hmore ih =>
      simp only [List.length_append] at hlength
      have hpositive : 0 < separator.length := by
        cases hseparator <;> simp
      obtain ⟨b, bs, middle, after, hmap, hnext, hmany, hafter⟩ := ih (by omega)
      have hfirst := hread a text hmember (by omega) _
        ((mayEnd_inline hinline).2 (mayEnd_separator hseparator (gap ++ (more ++ rest))))
      have hseparated : read (nextMember member)
          (inline ++ (separator ++ (gap ++ (more ++ rest)))) = some (b, middle) := by
        rw [read_nextMember, takeSeparator?_inline hinline, takeSeparator?_separator hseparator,
          skipLayout_gap hgap, skipLayout_members hstart hmore]
        exact hnext
      refine ⟨found a, b :: bs, _, after, by rw [List.map_cons, hmap], by simpa using hfirst, ?_,
        hafter⟩
      rw [read_many_of_some (shortens_nextMember hleaves) hseparated, hmany]
      rfl

theorem read_members_bracketed {as : List α} {text : List Char}
    (h : Bracketed Member opening closing as text) (hlength : text.length ≤ n + 1)
    (rest : List Char) :
    read (members opening closing member) (text ++ rest) = some (as.map found, rest) := by
  cases h with
  | @empty gap hgap =>
      have hskip := skipLayout_gap_closing hgap hclosing rest
      have hstop : skipLayout (closing :: rest) = closing :: rest :=
        skipLayout_gap_closing .nil hclosing rest
      simp [read_members, read_memberList, hskip, hstop, hnone]
  | @full _ gap text hgap hmembers =>
      simp only [List.length_cons, List.length_append] at hlength
      obtain ⟨b, bs, middle, after, hmap, hfirst, hmany, hafter⟩ :=
        read_many_members hleaves hclosing hnone hstart hread hmembers (by omega) rest
      have hskip : skipLayout (gap ++ (text ++ rest)) = text ++ rest := by
        rw [skipLayout_gap hgap, skipLayout_members hstart hmembers]
      rw [hmap, List.cons_append, List.append_assoc]
      refine (read_members_iff hleaves).2 ⟨after, (read_many_comma hleaves).2 ⟨middle, ?_, hmany⟩,
        hafter⟩
      rw [hskip, hfirst]

end

theorem head_inline {inline : List Char} (h : Inline inline) (hblank : inline.head? ≠ some '/')
    {P : Char → Prop} (hspace : P ' ') (htab : P '\t') {rest : List Char}
    (hrest : ∀ c ∈ rest.head?, P c) : ∀ c ∈ (inline ++ rest).head?, P c := by
  cases h with
  | nil => exact hrest
  | cons hpiece _ =>
      rintro c hc
      cases hpiece with
      | space => exact Option.some.inj hc ▸ hspace
      | tab => exact Option.some.inj hc ▸ htab
      | comment => exact absurd rfl hblank

theorem read_memberKey_key {key text : List Char} (h : Key key text) (rest : List Char) :
    ∃ after, read memberKey (text ++ ':' :: rest) = some (key, after) ∧
      skipInline after = ':' :: rest := by
  have hcolon : skipInline (':' :: rest) = ':' :: rest := skipInline_cons (by decide) rest
  cases h with
  | @quoted inside inline hinside hinline =>
      refine ⟨inline ++ ':' :: rest, ?_, (skipInline_inline hinline _).trans hcolon⟩
      simp [memberKey, read_stringText_inside hinside]
  | @bare _ inline hbare hinline hblank =>
      refine ⟨inline ++ ':' :: rest, ?_, (skipInline_inline hinline _).trans hcolon⟩
      obtain ⟨c, more, hcons, -, -, hall⟩ := isBareKey_cons hbare
      have hform : bareKeyForm (key ++ (inline ++ ':' :: rest)) =
          some (key, inline ++ ':' :: rest) :=
        takeRun1?_append (by simp [hcons]) (fun d hd => (isBareKeyRest_plain (hall d hd)).1)
          (head_inline (P := fun c => isBareKeyChar c = false) hinline hblank rfl rfl
            (by simpa using show isBareKeyChar ':' = false from rfl))
      have hplain := isBareKeyRest_plain (hall c (by simp [hcons]))
      have hstring : read stringText (key ++ (inline ++ ':' :: rest)) = none := by
        rw [hcons]
        exact read_stringText_cons ⟨hplain.2.1, hplain.2.2.1⟩ _
      rw [List.append_assoc]
      simp [memberKey, hstring, hform]

theorem read_objectMember_entry {Value : Literal → List Char → Prop} {inner : Reader Built}
    {entry : String × Literal} {text : List Char} {n : Nat}
    (hstart : ∀ x text, Value x text → ∀ rest, skipLayout (text ++ rest) = text ++ rest)
    (hread : ∀ x text, Value x text → text.length < n → ∀ rest, MayEnd rest →
      read inner (text ++ rest) = some (.ok x, rest))
    (h : Entry Value entry text) (hlength : text.length < n) (rest : List Char)
    (hrest : MayEnd rest) :
    read (objectMember inner) (text ++ rest) = some ((entry.1.toList, .ok entry.2), rest) := by
  cases h with
  | @mk key keyText gap text x hkey hgap hvalue =>
      simp only [List.length_append, List.length_cons] at hlength
      obtain ⟨after, hafter, hcolon⟩ := read_memberKey_key hkey (gap ++ (text ++ rest))
      have hinner := hread x text hvalue (by omega) rest hrest
      have hskip : skipLayout (gap ++ (text ++ rest)) = text ++ rest := by
        rw [skipLayout_gap hgap, hstart x text hvalue]
      rw [List.append_assoc, List.cons_append, List.append_assoc, read_objectMember, hafter,
        Option.bind_some, hcolon, read_char_self, Option.bind_some, hskip, hinner, Option.map_some,
        String.toList_ofList]

/-- A text of a literal is read as that literal wherever a scalar may end after it. -/
theorem read_value_laidOut {fuel : Nat} : ∀ x text, LaidOut x text → text.length < fuel →
    ∀ rest, MayEnd rest → read (value fuel) (text ++ rest) = some (.ok x, rest) := by
  induction fuel with
  | zero => exact fun _ _ _ hlength => absurd hlength (Nat.not_lt_zero _)
  | succ fuel ih =>
      intro x text h hlength rest hrest
      have hstart : ∀ x text, LaidOut x text → ∀ rest, skipLayout (text ++ rest) = text ++ rest :=
        fun _ _ => skipLayout_laidOut
      cases h with
      | null => exact read_value_null fuel hrest
      | bool b =>
          cases b with
          | true => exact read_value_true fuel hrest
          | false => exact read_value_false fuel hrest
      | number hwhole hfraction hexponent =>
          rw [List.append_assoc, read_value_numeral fuel _ hwhole hfraction hexponent hrest,
            numberOf_numeral hwhole hfraction hexponent]
      | @string inside hinside =>
          rw [List.cons_append, List.append_assoc, List.singleton_append, read_value_string,
            read_stringText_inside hinside, Option.map_some]
      | @sequence items _ hitems =>
          have hmembers := read_members_bracketed (leaves_value fuel) (.inl rfl)
            (read_value_closing fuel) hstart ih hitems (by omega) rest
          obtain ⟨inner, rfl⟩ := hitems.cons
          rw [List.cons_append] at hmembers ⊢
          rw [read_value_bracket, hmembers, Option.map_some, collectItems_map_ok]
          rfl
      | @mapping entries _ hentries =>
          have hentry : ∀ entry text, Entry LaidOut entry text → text.length < fuel →
              ∀ rest, MayEnd rest → read (objectMember (value fuel)) (text ++ rest) =
                some ((entry.1.toList, .ok entry.2), rest) :=
            fun _ _ => read_objectMember_entry hstart ih
          have hmembers := read_members_bracketed (leaves_objectMember (leaves_value fuel))
            (.inr rfl) (read_objectMember_closing _) (fun _ _ => skipLayout_entry) hentry hentries
            (by omega) rest
          obtain ⟨inner, rfl⟩ := hentries.cons
          rw [List.cons_append] at hmembers ⊢
          rw [read_value_brace, hmembers, Option.map_some, collectEntries_map_ok]
          rfl

/-- Layout plays no role: a literal is what each of its texts denotes, with any layout
before and after. -/
theorem parse_laidOut {x : Literal} {before text after : List Char} (hbefore : Gap before)
    (h : LaidOut x text) (hafter : Gap after) :
    Literal.parse (String.ofList (before ++ (text ++ after))) = .ok x := by
  have hskip : skipLayout (before ++ (text ++ after)) = text ++ after := by
    rw [skipLayout_gap hbefore, skipLayout_laidOut h]
  have hend : skipLayout after = [] := by
    have hnil := skipLayout_gap hafter []
    rwa [List.append_nil] at hnil
  have hmay : MayEnd after := by
    have hnil := mayEnd_gap hafter atEnd_nil.mayEnd
    rwa [List.append_nil] at hnil
  rw [Literal.parse, String.toList_ofList]
  refine parse_of_read_value ?_ hend
  rw [hskip]
  refine read_value_laidOut x text h ?_ after hmay
  simp only [List.length_append]
  omega

/-- Comments and blanks in every place, a bare key and a quoted one, and separators of each
kind. -/
theorem parse_laidOut_comments :
    let number : Literal := .number (Decimal.toFloat true ⟨25, 2⟩)
    let x := Literal.ofEntries [("a", .bool true), ("b\n", .sequence [.null, number])]
    ∃ before text after, Gap before ∧ LaidOut x text ∧ Gap after ∧
      before ++ (text ++ after) =
        "/*x*/\x7b\na : true/**/ # c\n\"b\\n\":[null\r-2.5e+3 , // d\r] \x7d\n".toList ∧
      Literal.parse (String.ofList (before ++ (text ++ after))) = .ok x := by
  intro number x
  have hspace : Inline [' '] := .single .space
  have hfeed : Gap ['\n'] := .single (.lineBreak rfl)
  have hblock : IsInlinePiece "/*x*/".toList := @IsInlinePiece.comment ['x'] (by decide)
  have hempty : IsInlinePiece "/**/".toList := @IsInlinePiece.comment [] (by decide)
  have hhash : IsLineComment "# c".toList := @IsLineComment.hash " c".toList (by decide)
  have hslashes : IsLineComment "// d".toList := @IsLineComment.slashes " d".toList (by decide)
  have hline : Gap ([' '] ++ ("// d".toList ++ ['\r'])) :=
    .cons (.inline .space) (.single (.lineComment hslashes rfl))
  have hnumber : LaidOut number "-2.5e+3".toList :=
    @LaidOut.number true ['2'] ['5'] "e+3".toList 3 ⟨by decide, by decide, by decide⟩ (by decide)
      (@Decimal.IsExponent.plus 'e' ['+'] ['3'] (by decide) (by decide) (by decide) (by decide))
  have hitems : LaidOut (.sequence [.null, number]) _ :=
    .sequence (.full .nil (.cons .null .nil (@IsSeparator.lineBreak '\r' rfl) .nil
      (.last hnumber hspace (.inr rfl) hline)))
  have hinside : IsInside "b\\n".toList := .plain (by decide) (.escape rfl .nil)
  have hkey : Key "b\n".toList ('"' :: ("b\\n".toList ++ ['"'])) := .quoted hinside .nil
  have hbare : Key ['a'] (['a'] ++ [' ']) := .bare (by decide) hspace (by decide)
  have hseparator : IsSeparator ("# c".toList ++ ['\n']) := .lineComment hhash rfl
  have htail : Members (Entry LaidOut) '\x7d' [("b\n", .sequence [.null, number])] _ :=
    .last (.mk hkey .nil hitems) .nil (.inl rfl) hspace.gap
  have hall : LaidOut x _ := .mapping (.full hfeed
    (.cons (.mk hbare hspace.gap (.bool true)) (.cons hempty hspace) hseparator .nil htail))
  have hbefore : Gap "/*x*/".toList := .single (.inline hblock)
  exact ⟨_, _, _, hbefore, hall, hfeed, by decide, parse_laidOut hbefore hall hfeed⟩

end RuleBook.Notation
