import RuleBook.Json.Write
import RuleBook.Proofs.Literal.Json
import RuleBook.Proofs.Notation.LaidOut
import RuleBook.Proofs.Number.Style

/-!
# JSON as notation

The compact text of a JSON value is one of the texts that the notation has for the literal of
that value: keys are quoted, members are joined with commas, numbers are numerals and escapes
are those of quoted strings.  The exceptions are backspace and form feed, which JSON escapes
with letters that the notation does not know.
-/

namespace RuleBook

open Notation

def Json.sharesEscape (c : Char) : Bool := c != '\x08' && c != '\x0c'

namespace Notation

variable {c : Char} {s : List Char}

theorem jsonEscapeChar_cases (h : Json.sharesEscape c = true) :
    Json.escapeChar c = escapeChar c ∨
      Json.escapeChar c = [c] ∧ c ≠ '"' ∧ c ≠ '\\' ∧ isLineBreak c = false := by
  simp only [Json.sharesEscape, Bool.and_eq_true, bne_iff_ne] at h
  by_cases hline : c = '\u2028' ∨ c = '\u2029'
  · rcases hline with rfl | rfl <;> exact .inr (by decide)
  · left
    rw [not_or] at hline
    simp only [Json.escapeChar, escapeChar, h.1, h.2, hline.1, hline.2, if_false, or_false]

theorem isInside_json (h : ∀ c ∈ s, Json.sharesEscape c = true) :
    IsInside (s.flatMap Json.escapeChar) := by
  induction s with
  | nil => exact .nil
  | cons c s ih =>
      rw [List.forall_mem_cons] at h
      rw [List.flatMap_cons]
      rcases jsonEscapeChar_cases h.1 with hc | ⟨hc, hplain⟩
      · rw [hc]
        exact (isInside_escapeChar c).append (ih h.2)
      · rw [hc]
        exact .plain hplain (ih h.2)

theorem unescape_json (h : ∀ c ∈ s, Json.sharesEscape c = true) :
    unescape (s.flatMap Json.escapeChar) = s := by
  rw [unescape]
  induction s with
  | nil => rfl
  | cons c s ih =>
      rw [List.forall_mem_cons] at h
      rw [List.flatMap_cons]
      rcases jsonEscapeChar_cases h.1 with hc | ⟨hc, -, hslash, -⟩
      · rw [hc, unescapeFrom_escapeChar, ih h.2]
      · rw [hc, List.singleton_append, unescapeFrom, if_neg hslash, ih h.2]

end Notation

namespace Json

mutual

/-- What the notation reads as JSON does: numbers are finite, and neither keys nor strings hold
what JSON alone has escapes for. -/
def IsReadable : Json → Prop
  | .number x => Number.isFinite x = true
  | .string s => ∀ c ∈ s.toList, sharesEscape c = true
  | .array items => IsReadableItems items
  | .object members => IsReadableMembers members
  | _ => True

def IsReadableItems : List Json → Prop
  | [] => True
  | item :: items => item.IsReadable ∧ IsReadableItems items

def IsReadableMembers : List (String × Json) → Prop
  | [] => True
  | (key, value) :: members =>
      (∀ c ∈ key.toList, sharesEscape c = true) ∧ value.IsReadable ∧ IsReadableMembers members

end

theorem laidOut_string {s : String} (h : ∀ c ∈ s.toList, sharesEscape c = true) :
    LaidOut (.string s) (quote s) := by
  have hstring := LaidOut.string (isInside_json h)
  rwa [unescape_json h, String.ofList_toList] at hstring

theorem laidOut_number {x : Float} (h : Number.isFinite x = true) :
    LaidOut (.number x) (numberStyle.text x) := by
  obtain ⟨shown, digits, hnumeral, htext, hvalue⟩ := numberStyle.exists_isNumeral_text h
  cases hnumeral with
  | @mk whole fraction exponent e hwhole hfraction hexponent =>
      have hnumber := @LaidOut.number (Number.isNegative x) _ _ _ _ hwhole hfraction hexponent
      rw [hvalue, plainNumber, List.append_assoc, List.append_assoc] at hnumber
      rwa [htext]

theorem laidOut_natural (n : Nat) :
    LaidOut (.number (Number.ofInt n)) (Nat.toDigits 10 n) := by
  have hnumber := @LaidOut.number false _ [] [] 0 (Decimal.isWhole_toDigits n) (by simp) .none
  rw [List.append_nil, Nat.ofDigitChars_ten_toDigits] at hnumber
  simpa [plainNumber, Decimal.pointed, Decimal.toFloat_whole] using hnumber

theorem laidOut_entry {key : String} {x : Literal} {text : List Char}
    (hkey : ∀ c ∈ key.toList, sharesEscape c = true) (h : LaidOut x text) :
    Entry LaidOut (key, x) (quote key ++ ':' :: text) := by
  have hentry : Entry LaidOut _ _ := .mk (.quoted (isInside_json hkey) .nil) .nil h
  rwa [unescape_json hkey, String.ofList_toList] at hentry

section

variable {α : Type} {Member : α → List Char → Prop} {closing : Char} {a : α} {as : List α}
  {text more : List Char}

theorem bracketed_compact (opening : Char) (h : Members Member closing as text) :
    Bracketed Member opening closing as (opening :: text) :=
  .full .nil h

theorem members_compact (ha : Member a text) (h : Members Member closing as more) :
    Members Member closing (a :: as) (text ++ ',' :: more) :=
  .cons ha .nil .comma .nil h

end

mutual

theorem laidOut_write : ∀ {value : Json}, value.IsReadable →
    LaidOut (Literal.ofJson value) (write value)
  | .null, _ => .null
  | .bool true, _ => .bool true
  | .bool false, _ => .bool false
  | .natural n, _ => laidOut_natural n
  | .number _, h => laidOut_number h
  | .string _, h => laidOut_string h
  | .array [], _ => .sequence (.empty .nil)
  | .array (_ :: _), h =>
      .sequence (bracketed_compact '[' (members_writeItems (laidOut_write h.1) h.2))
  | .object [], _ => .mapping (.empty .nil)
  | .object (_ :: _), h =>
      .mapping (bracketed_compact '\x7b'
        (members_writeMembers (laidOut_entry h.1 (laidOut_write h.2.1)) h.2.2))

theorem members_writeItems : ∀ {items : List Json} {x : Literal} {text : List Char},
    LaidOut x text → IsReadableItems items →
    Members LaidOut ']' (x :: Literal.ofJsonItems items) (text ++ writeItems items)
  | [], _, _, hx, _ => .last hx .nil (.inl rfl) .nil
  | _ :: _, _, _, hx, h => members_compact hx (members_writeItems (laidOut_write h.1) h.2)

theorem members_writeMembers : ∀ {members : List (String × Json)} {entry : String × Literal}
    {text : List Char}, Entry LaidOut entry text → IsReadableMembers members →
    Members (Entry LaidOut) '\x7d' (entry :: Literal.ofJsonMembers members)
      (text ++ writeMembers members)
  | [], _, _, hentry, _ => .last hentry .nil (.inl rfl) .nil
  | _ :: _, _, _, hentry, h =>
      members_compact hentry
        (members_writeMembers (laidOut_entry h.1 (laidOut_write h.2.1)) h.2.2)

end

/-- The notation reads the text of a value as JSON itself does. -/
theorem parse_text {value : Json} (h : value.IsReadable) :
    Literal.parse (text value) = .ok (Literal.ofJson value) := by
  have hparse := parse_laidOut .nil (laidOut_write h) .nil
  rwa [List.nil_append, List.append_nil] at hparse

section

variable {items : List Json} {members : List (String × Json)}

theorem isReadableItems_iff : IsReadableItems items ↔ ∀ item ∈ items, item.IsReadable := by
  induction items with
  | nil => simp [IsReadableItems]
  | cons item items ih => simp [IsReadableItems, ih]

theorem isReadableMembers_iff :
    IsReadableMembers members ↔ ∀ member ∈ members,
      (∀ c ∈ member.1.toList, sharesEscape c = true) ∧ member.2.IsReadable := by
  induction members with
  | nil => simp [IsReadableMembers]
  | cons member members ih => simp only [IsReadableMembers, ih, List.forall_mem_cons, and_assoc]

end

end Json

namespace Notation

variable {P : Char → Prop} {source flags : List Char}

theorem forall_mem_protectSlashes (hslash : P '\\') (h : ∀ c ∈ source, P c) :
    ∀ escaped inClass, ∀ c ∈ protectSlashes escaped inClass source, P c := by
  induction source with
  | nil => simp [protectSlashes]
  | cons c source ih =>
      rw [List.forall_mem_cons] at h
      intro escaped inClass
      have hkept (escaped inClass) : ∀ d ∈ c :: protectSlashes escaped inClass source, P d :=
        List.forall_mem_cons.2 ⟨h.1, ih h.2 escaped inClass⟩
      cases escaped with
      | true => exact hkept false inClass
      | false =>
          rw [protectSlashes]
          split_ifs
          · exact hkept true inClass
          · exact hkept false true
          · exact hkept false false
          · exact List.forall_mem_cons.2 ⟨hslash, hkept false inClass⟩
          · exact hkept false inClass

theorem forall_mem_regexText (hmark : ∀ c ∈ "/\\(?:)".toList, P c) (hsource : ∀ c ∈ source, P c)
    (hflags : ∀ c ∈ flags, P c) : ∀ c ∈ regexText source flags, P c := by
  have hshown : ∀ c ∈ if source = [] then "(?:)".toList else protectSlashes false false source,
      P c := by
    split
    · exact fun c hc => hmark c ((by decide : "(?:)".toList ⊆ "/\\(?:)".toList) hc)
    · exact forall_mem_protectSlashes (hmark _ (by decide)) hsource false false
  simp only [regexText, List.cons_append, List.forall_mem_cons, List.forall_mem_append]
  exact ⟨hmark _ (by decide), hshown, hmark _ (by decide), hflags⟩

end Notation

namespace Literal

mutual

/-- Neither strings nor keys nor the sources of regular expressions hold a character that JSON
alone has an escape for.  Flags are known ones, as `RegexLiteral.ofSource` has it. -/
def SharesEscapes : Literal → Prop
  | .string s => ∀ c ∈ s.toList, Json.sharesEscape c = true
  | .regex r => (∀ c ∈ r.source.toList, Json.sharesEscape c = true) ∧
      ∀ flag ∈ r.flags.toList, flag ∈ RegexLiteral.knownFlags
  | .sequence items => SharesEscapesItems items
  | .mapping entries => SharesEscapesEntries entries
  | _ => True

def SharesEscapesItems : List Literal → Prop
  | [] => True
  | item :: items => item.SharesEscapes ∧ SharesEscapesItems items

def SharesEscapesEntries : List (String × Literal) → Prop
  | [] => True
  | (key, value) :: entries =>
      (∀ c ∈ key.toList, Json.sharesEscape c = true) ∧ value.SharesEscapes ∧
        SharesEscapesEntries entries

end

section

variable {items : List Literal} {entries : List (String × Literal)} {x : Literal}

theorem sharesEscapesItems_iff :
    SharesEscapesItems items ↔ ∀ item ∈ items, item.SharesEscapes := by
  induction items with
  | nil => simp [SharesEscapesItems]
  | cons item items ih => simp [SharesEscapesItems, ih]

theorem sharesEscapesEntries_iff :
    SharesEscapesEntries entries ↔ ∀ entry ∈ entries,
      (∀ c ∈ entry.1.toList, Json.sharesEscape c = true) ∧ entry.2.SharesEscapes := by
  induction entries with
  | nil => simp [SharesEscapesEntries]
  | cons entry entries ih =>
      simp only [SharesEscapesEntries, ih, List.forall_mem_cons, and_assoc]

theorem isReadable_dateToJson (t : Instant) : (dateToJson t).IsReadable := by
  have hdigit (c : Char) (hc : c.isDigit = true) : Json.sharesEscape c = true := by
    simp only [Json.sharesEscape, Bool.and_eq_true, bne_iff_ne]
    constructor <;> rintro rfl <;> cases hc
  rw [dateToJson, Json.IsReadable, String.toList_ofList]
  exact forall_mem_timestampText hdigit (by decide) t

theorem isReadable_regexToJson {r : RegexLiteral} (h : (regex r).SharesEscapes) :
    (regexToJson r).IsReadable := by
  have hknown : ∀ flag ∈ RegexLiteral.knownFlags, Json.sharesEscape flag = true := by decide
  rw [regexToJson, Json.IsReadable, String.toList_ofList]
  exact forall_mem_regexText (by decide) h.1 fun flag hflag => hknown flag (h.2 flag hflag)

theorem isReadable_toJson (h : x.SharesEscapes) : x.toJson.IsReadable := by
  induction x using inductionOnMembers with
  | number x =>
      rw [toJson, numberToJson]
      split
      · next hfinite => exact hfinite
      · exact trivial
  | string s => exact h
  | date t => exact isReadable_dateToJson t
  | regex r => exact isReadable_regexToJson h
  | binary bytes =>
      rw [toJson, binaryToJson, Json.IsReadable, Json.isReadableItems_iff, List.forall_mem_map]
      exact fun _ _ => trivial
  | sequence items ih =>
      rw [SharesEscapes, sharesEscapesItems_iff] at h
      rw [toJson, itemsToJson_eq_map, Json.IsReadable, Json.isReadableItems_iff, List.forall_mem_map]
      exact fun item hitem => ih item hitem (h item hitem)
  | mapping entries ih =>
      rw [SharesEscapes, sharesEscapesEntries_iff] at h
      rw [toJson, entriesToJson_eq_map, Json.IsReadable, Json.isReadableMembers_iff,
        List.forall_mem_map]
      exact fun entry hentry => ⟨(h entry hentry).1, ih entry hentry (h entry hentry).2⟩
  | _ => exact trivial

/-- The text of a literal in JSON is read by the notation, and as what its sorted form is read
back as. -/
theorem parse_json_text (hunique : x.UniqueKeys) (hshared : x.SharesEscapes) :
    ∃ y, Literal.parse x.toJson.text = .ok y ∧ (y == ofJson x.toSortedJson) = true :=
  ⟨_, Json.parse_text (isReadable_toJson hshared), ofJson_toJson_beq hunique⟩

/-- A leap second, NaN, bytes, a number with an exponent, a key of marks and a string with
characters of each kind. -/
theorem parse_json_text_mixed :
    let t : Instant := ⟨59, 1500000000, by decide⟩
    let large : Literal := .number (Float.ofBits 0x7fefffffffffffff)
    let x : Literal := .mapping [("z", .date t), ("\x7b/", .sequence [nan, .binary [0, 255], large]),
      ("a", .string "\"\\n\n\x01\u2028")]
    x.UniqueKeys ∧ x.SharesEscapes ∧
      ∃ y, Literal.parse x.toJson.text = .ok y ∧ (y == ofJson x.toSortedJson) = true := by
  intro t large x
  have hunique : x.UniqueKeys :=
    ⟨by simp, trivial, ⟨trivial, trivial, trivial, trivial⟩, trivial, trivial⟩
  have hstring : ∀ c ∈ "\"\\n\n\x01\u2028".toList, Json.sharesEscape c = true := by decide
  have hshared : x.SharesEscapes :=
    ⟨by decide, trivial, by decide, ⟨trivial, trivial, trivial, trivial⟩, by decide, hstring,
      trivial⟩
  exact ⟨hunique, hshared, parse_json_text hunique hshared⟩

end

end Literal

end RuleBook
