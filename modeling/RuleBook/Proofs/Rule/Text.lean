import RuleBook.Proofs.Notation.Place
import RuleBook.Proofs.Notation.Survival
import RuleBook.Proofs.Outcome
import RuleBook.Proofs.Rule.Plan
import RuleBook.Rule.Text

/-!
# Rules from their texts

A text is cut at the first separator behind something that reads as a literal.  In the
text of a rule this is the separator that was written, unless an earlier one stands in a
regex literal whose beginning is read as unquoted text.
-/

namespace RuleBook.WrittenRule

open Notation Text

/-! ## Cutting at a separator -/

def readPlace? (place : List Char × List Char) : Option (Literal × List Char) :=
  match Notation.parse (trim place.1) with
  | .ok x => some (x, place.2)
  | .error _ => none

theorem splitLiteral?_eq (token text : List Char) :
    splitLiteral? token text = (occurrences token text).findSome? readPlace? := by
  unfold splitLiteral?
  congr 1

/-- No text before a place of the token reads as a literal. -/
def Unread (token s : List Char) : Prop :=
  ∀ place ∈ occurrences token s, ∀ y, Notation.parse (trim place.1) ≠ .ok y

section

variable {token s after more : List Char} {x y : Literal} {place : List Char × List Char}

theorem readPlace?_eq_some :
    readPlace? place = some (y, more) ↔ Notation.parse (trim place.1) = .ok y ∧ place.2 = more := by
  unfold readPlace?
  cases Notation.parse (trim place.1) <;> simp

theorem readPlace?_eq_none :
    readPlace? place = none ↔ ∀ y, Notation.parse (trim place.1) ≠ .ok y := by
  unfold readPlace?
  cases Notation.parse (trim place.1) <;> simp

theorem splitLiteral?_eq_none : splitLiteral? token s = none ↔ Unread token s := by
  rw [splitLiteral?_eq, List.findSome?_eq_none_iff]
  exact forall₂_congr fun place _ => readPlace?_eq_none

theorem splitLiteral?_written (htoken : IsToken token) (hunread : Unread token s)
    (hparse : Notation.parse (trim (s ++ [' '])) = .ok x) (after : List Char) :
    splitLiteral? token (s ++ ' ' :: (token ++ after)) = some (x, after) := by
  obtain ⟨late, hlate⟩ := occurrences_append htoken s after
  have hearly : (occurrences token s).findSome? (readPlace? ∘ fun place =>
      (place.1, place.2 ++ ' ' :: (token ++ after))) = none :=
    List.findSome?_eq_none_iff.2 fun place hplace => readPlace?_eq_none.2 (hunread place hplace)
  have hplace : readPlace? (s ++ [' '], after) = some (x, after) :=
    readPlace?_eq_some.2 ⟨hparse, rfl⟩
  rw [splitLiteral?_eq, hlate, List.findSome?_append, List.findSome?_map, hearly, Option.none_or,
    List.findSome?_cons, hplace]

private theorem findSome?_early (behind : List Char → List Char) (h : ¬Unread token s) :
    ∃ place ∈ occurrences token s, ∃ y more, Notation.parse (trim place.1) = .ok y ∧
      (occurrences token s).findSome? (readPlace? ∘ fun place => (place.1, behind place.2)) =
        some (y, more) := by
  cases hfound : (occurrences token s).findSome?
      (readPlace? ∘ fun place => (place.1, behind place.2)) with
  | none =>
      refine absurd (fun place hplace => ?_) h
      have hnone : readPlace? (place.1, behind place.2) = none :=
        List.findSome?_eq_none_iff.1 hfound place hplace
      change ∀ y, Notation.parse (trim (place.1, behind place.2).1) ≠ .ok y
      exact readPlace?_eq_none.1 hnone
  | some found =>
      obtain ⟨place, hplace, hread⟩ := List.exists_of_findSome?_eq_some hfound
      exact ⟨place, hplace, found.1, found.2, (readPlace?_eq_some.1 hread).1, rfl⟩

theorem splitLiteral?_early (htoken : IsToken token) (hearly : ¬Unread token s) :
    ∃ place ∈ occurrences token s, ∃ y more, Notation.parse (trim place.1) = .ok y ∧
      splitLiteral? token (s ++ ' ' :: (token ++ after)) = some (y, more) := by
  obtain ⟨late, hlate⟩ := occurrences_append htoken s after
  obtain ⟨place, hplace, y, more, hparse, hfound⟩ :=
    findSome?_early (· ++ ' ' :: (token ++ after)) hearly
  refine ⟨place, hplace, y, more, hparse, ?_⟩
  rw [splitLiteral?_eq, hlate, List.findSome?_append, List.findSome?_map, hfound, Option.some_or]

theorem splitLiteral?_of_not_unread (hearly : ¬Unread token s) :
    ∃ place ∈ occurrences token s, ∃ y more, Notation.parse (trim place.1) = .ok y ∧
      splitLiteral? token s = some (y, more) := findSome?_early id hearly

theorem unread_cons_blank (htoken : IsToken token) : Unread token (' ' :: s) ↔ Unread token s := by
  have htrim (p : List Char) : trim (' ' :: p) = trim p := trim_cons_blank (by decide) p
  rw [Unread, occurrences_blank htoken, List.forall_mem_map]
  exact forall₂_congr fun place _ => by rw [htrim]

theorem mem_occurrences_blank (htoken : IsToken token) (h : place ∈ occurrences token (' ' :: s)) :
    ∃ place' ∈ occurrences token s, trim place.1 = trim place'.1 := by
  rw [occurrences_blank htoken] at h
  obtain ⟨place', hplace', rfl⟩ := List.mem_map.1 h
  exact ⟨place', hplace', trim_cons_blank (by decide) place'.1⟩

/-! ## Reading the parts -/

theorem tail_of_readNamed {tail : Literal} {name? : Option (List Char)}
    (h : readNamed token s = .ok (tail, name?)) (hsplit : splitLiteral? token s = some (y, more)) :
    tail = y := by
  rw [readNamed, hsplit] at h
  cases h
  rfl

theorem read_inv {separators : Separators} {written : WrittenRule}
    (h : read separators s = .ok written)
    (hsplit : splitLiteral? separators.headTail.toList s = some (y, more)) :
    written.head = y ∧ ∃ tail name?, readNamed separators.name.toList more = .ok (tail, name?) ∧
      written.tail? = some tail := by
  rw [read, hsplit] at h
  obtain ⟨found, hnamed, h⟩ := bind_eq_ok h
  cases h
  exact ⟨rfl, found.1, found.2, hnamed, rfl⟩

/-! ## What the parts are -/

theorem regular_of_splitLiteral? (h : splitLiteral? token s = some (x, more)) : x.Regular := by
  rw [splitLiteral?_eq] at h
  obtain ⟨place, -, hread⟩ := List.exists_of_findSome?_eq_some h
  exact regular_of_parse (readPlace?_eq_some.1 hread).1

theorem regular_of_readNamed {name? : Option (List Char)}
    (h : readNamed token s = .ok (x, name?)) : x.Regular := by
  rw [readNamed] at h
  cases hsplit : splitLiteral? token s with
  | some found =>
      rw [hsplit] at h
      cases h
      exact regular_of_splitLiteral? hsplit
  | none =>
      rw [hsplit] at h
      obtain ⟨y, hparse, heq⟩ := bind_eq_ok h
      cases heq
      exact regular_of_parse hparse

theorem regular_parts {separators : Separators} {written : WrittenRule}
    (h : read separators s = .ok written) :
    written.head.Regular ∧ ∀ tail ∈ written.tail?, tail.Regular := by
  rw [read] at h
  cases hsplit : splitLiteral? separators.headTail.toList s with
  | some found =>
      rw [hsplit] at h
      obtain ⟨named, hnamed, heq⟩ := bind_eq_ok h
      cases heq
      refine ⟨regular_of_splitLiteral? hsplit, fun tail htail => ?_⟩
      cases htail
      exact regular_of_readNamed hnamed
  | none =>
      rw [hsplit] at h
      obtain ⟨named, hnamed, heq⟩ := bind_eq_ok h
      cases heq
      exact ⟨regular_of_readNamed hnamed, nofun⟩

end

end RuleBook.WrittenRule

namespace RuleBook.Literal

open Notation Text WrittenRule

variable {x : Literal} {token : List Char}

/-- Whether the token stands in a regex literal of the text, where what is written up to
the token reads as another literal. -/
def MisreadBefore (x : Literal) (token : List Char) : Prop :=
  ∃ place ∈ occurrences token (write x), x.CutsRegex (trim place.1) ∧
    ∃ y, Notation.parse (trim place.1) = .ok y

theorem unread_iff_not_misreadBefore (hregular : x.Regular) (hstands : x.Stands [])
    (htoken : IsToken token) (hforeign : x.IsClosed ∨ ∃ c ∈ token, isForeign c) :
    Unread token (write x) ↔ ¬x.MisreadBefore token := by
  constructor
  · rintro hunread ⟨place, hplace, -, y, hparse⟩
    exact hunread place hplace y hparse
  · intro h place hplace y hparse
    exact h ⟨place, hplace,
      cutsRegex_of_parse hregular hstands htoken hforeign hplace hparse, y, hparse⟩

theorem Plain.unread_of_foreign (hplain : x.Plain) (htoken : IsToken token)
    (hforeign : x.IsClosed ∨ ∃ c ∈ token, isForeign c) : Unread token (write x) := by
  rw [unread_iff_not_misreadBefore hplain.regular (hplain.stands []) htoken hforeign]
  rintro ⟨_, _, hcut, _⟩
  exact hplain.not_cutsRegex hcut

theorem Plain.unread (hplain : x.Plain) (hclosed : x.IsClosed) (htoken : IsToken token) :
    Unread token (write x) :=
  hplain.unread_of_foreign htoken (.inl hclosed)

end RuleBook.Literal

namespace RuleBook.Rule

open Notation Text WrittenRule

/-! ## The text of a rule -/

def nameText (separators : Separators) (rule : Rule) : List Char :=
  if rule.name = "" then []
  else ' ' :: (separators.name.toList ++ ' ' :: rule.name.toList)

section

variable {separators : Separators} {rule : Rule}

theorem write_eq (htoken : IsToken separators.headTail.toList) (hhead : rule.head.Regular)
    (htail : rule.tail.Regular) :
    rule.write separators = Notation.write rule.head ++ ' ' :: (separators.headTail.toList ++
      ' ' :: (Notation.write rule.tail ++ rule.nameText separators)) := by
  have hline {x : Literal} (h : x.Regular) : ∀ c ∈ Notation.write x, c ≠ '\n' := by
    rintro c hc rfl
    cases isLineBreak_write h '\n' hc
  have hseparator : ∀ c ∈ separators.headTail.toList, c ≠ '\n' := by
    rintro c hc rfl
    cases htoken.isBlank_eq '\n' hc
  have hbody : ∀ c ∈ Notation.write rule.head ++ ' ' :: separators.headTail.toList ++
      ' ' :: Notation.write rule.tail, (c != '\n') = true := by
    intro c hc
    rw [bne_iff_ne]
    simp only [List.mem_append, List.mem_cons] at hc
    rcases hc with (hc | rfl | hc) | rfl | hc
    · exact hline hhead c hc
    · decide
    · exact hseparator c hc
    · decide
    · exact hline htail c hc
  dsimp only [write, nameText]
  rw [List.filter_eq_self.2 hbody]
  split <;> simp

theorem readNamed_written (htoken : IsToken separators.name.toList) (htail : rule.tail.Survives)
    (hunread : Unread separators.name.toList (Notation.write rule.tail)) :
    readNamed separators.name.toList
        (' ' :: (Notation.write rule.tail ++ rule.nameText separators)) =
      .ok (rule.tail, if rule.name = "" then none else some rule.name.toList) := by
  obtain ⟨hregular, hstands⟩ := Literal.survives_iff.1 htail
  have hparse := parse_write hregular hstands
  have htrimmed := isTrimmed_write hregular
  have hunread' := (unread_cons_blank htoken).2 hunread
  by_cases hempty : rule.name = ""
  · rw [nameText, if_pos hempty, if_pos hempty, List.append_nil, readNamed,
      splitLiteral?_eq_none.2 hunread']
    dsimp only
    rw [trim_cons_blank (by decide), htrimmed.trim_eq, hparse]
    rfl
  · have hsplit := splitLiteral?_written htoken hunread' (x := rule.tail) (by
        rw [List.cons_append, trim_cons_blank (by decide), htrimmed.trim_concat_blank (by decide),
          hparse]) (' ' :: rule.name.toList)
    rw [List.cons_append] at hsplit
    rw [nameText, if_neg hempty, if_neg hempty, readNamed, hsplit]
    dsimp only
    rw [trim_cons_blank (by decide), rule.trimmed]

theorem splitLiteral?_head (htoken : IsToken separators.headTail.toList)
    (hhead : rule.head.Survives)
    (hunread : Unread separators.headTail.toList (Notation.write rule.head)) (after : List Char) :
    splitLiteral? separators.headTail.toList
      (Notation.write rule.head ++ ' ' :: (separators.headTail.toList ++ after)) =
        some (rule.head, after) := by
  obtain ⟨hregular, hstands⟩ := Literal.survives_iff.1 hhead
  refine splitLiteral?_written htoken hunread ?_ after
  rw [(isTrimmed_write hregular).trim_concat_blank (by decide), parse_write hregular hstands]

/-- A rule is read back from its text where no separator stands behind the beginning of
its head or tail. -/
theorem ofText_text (hheadTail : IsToken separators.headTail.toList)
    (hname : IsToken separators.name.toList) (hhead : rule.head.Survives)
    (htail : rule.tail.Survives)
    (hunreadHead : Unread separators.headTail.toList (Notation.write rule.head))
    (hunreadTail : Unread separators.name.toList (Notation.write rule.tail)) :
    ∃ again, ofText separators (rule.text separators) none "" = .ok again ∧
      again.head = rule.head ∧ again.tail = rule.tail ∧ again.name = rule.name := by
  have hwrite := write_eq hheadTail (Literal.survives_iff.1 hhead).1
    (Literal.survives_iff.1 htail).1
  have hread : WrittenRule.read separators (rule.text separators).toList =
      .ok ⟨rule.head, some rule.tail, if rule.name = "" then none else some rule.name.toList⟩ := by
    rw [text, String.toList_ofList, hwrite, WrittenRule.read, splitLiteral?_head hheadTail hhead
      hunreadHead]
    dsimp only
    rw [readNamed_written hname htail hunreadTail]
    rfl
  obtain ⟨again, hagain, hheadEq, htailEq, hnameEq⟩ :=
    ofParts_eq_ok rule.planned (some rule.tail) rule.name
  rw [rule.trimmed, String.ofList_toList] at hnameEq
  refine ⟨again, ?_, hheadEq, htailEq, hnameEq⟩
  rw [ofText, hread]
  dsimp only
  rw [if_pos rfl, Option.some_or, ← hagain]
  by_cases hempty : rule.name = ""
  · rw [if_pos hempty, hempty]
    rfl
  · rw [if_neg hempty, Option.getD_some, String.ofList_toList]

theorem ofText_head (hhead : rule.head.Survives)
    (hunread : Unread separators.headTail.toList (Notation.write rule.head))
    (hunread' : Unread separators.name.toList (Notation.write rule.head)) (tail? : Option Literal)
    (name : String) :
    ofText separators rule.head.text tail? name = ofParts rule.head tail? name := by
  obtain ⟨hregular, hstands⟩ := Literal.survives_iff.1 hhead
  have hread : WrittenRule.read separators rule.head.text.toList = .ok ⟨rule.head, none, none⟩ := by
    rw [Literal.text, String.toList_ofList, WrittenRule.read, splitLiteral?_eq_none.2 hunread]
    dsimp only
    rw [readNamed, splitLiteral?_eq_none.2 hunread']
    dsimp only
    rw [(isTrimmed_write hregular).trim_eq, parse_write hregular hstands]
    rfl
  rw [ofText, hread]
  dsimp only
  by_cases hempty : name = ""
  · rw [if_pos hempty, hempty]
    rfl
  · rw [if_neg hempty]
    rfl

theorem ofText_inv {text name : String} {tail? : Option Literal} {again : Rule}
    (h : ofText separators text tail? name = .ok again) :
    ∃ written, WrittenRule.read separators text.toList = .ok written ∧
      again.head = written.head ∧ again.tail = (written.tail?.or tail?).getD (.bool true) := by
  unfold ofText at h
  split at h
  · cases h
  · next written hread => exact ⟨written, hread, ofParts_inv h⟩

theorem splitLiteral?_tail (htoken : IsToken separators.name.toList)
    (hearly : ¬Unread separators.name.toList (Notation.write rule.tail)) :
    ∃ place ∈ occurrences separators.name.toList (Notation.write rule.tail), ∃ y more,
      Notation.parse (trim place.1) = .ok y ∧ splitLiteral? separators.name.toList
        (' ' :: (Notation.write rule.tail ++ rule.nameText separators)) = some (y, more) := by
  rw [← unread_cons_blank htoken] at hearly
  have hcut : ∃ place ∈ occurrences separators.name.toList (' ' :: Notation.write rule.tail),
      ∃ y more, Notation.parse (trim place.1) = .ok y ∧ splitLiteral? separators.name.toList
        (' ' :: (Notation.write rule.tail ++ rule.nameText separators)) = some (y, more) := by
    unfold nameText
    split
    · rw [List.append_nil]
      exact splitLiteral?_of_not_unread hearly
    · rw [← List.cons_append]
      exact splitLiteral?_early htoken hearly
  obtain ⟨place, hplace, y, more, hparse, hsplit⟩ := hcut
  obtain ⟨place', hplace', htrim⟩ := mem_occurrences_blank htoken hplace
  exact ⟨place', hplace', y, more, htrim ▸ hparse, hsplit⟩

end

/-! ## Reading back -/

/-- Rules of strings, sequences and mappings without regex literals are read back exactly,
with any separators that hold no blanks, from their texts and from sequences of their
parts. -/
theorem reads_back_of_plain {separators : Separators} {rule : Rule}
    (hheadTail : IsToken separators.headTail.toList) (hname : IsToken separators.name.toList)
    (hhead : rule.head.Plain ∧ rule.head.IsClosed) (htail : rule.tail.Plain ∧ rule.tail.IsClosed) :
    (∃ again, ofText separators (rule.text separators) none "" = .ok again ∧
      again.head = rule.head ∧ again.tail = rule.tail ∧ again.name = rule.name) ∧
    ∃ again, ofSequence separators
        (.sequence [.string rule.head.text, rule.tail, .string rule.name]) = .ok again ∧
      again.head = rule.head ∧ again.tail = rule.tail ∧ again.name = rule.name := by
  have hsurvives {x : Literal} (h : x.Plain) : x.Survives :=
    Literal.survives_iff.2 ⟨h.regular, h.stands []⟩
  have hhead' := hsurvives hhead.1
  refine ⟨ofText_text hheadTail hname hhead' (hsurvives htail.1)
    (hhead.1.unread hhead.2 hheadTail) (htail.1.unread htail.2 hname), ?_⟩
  obtain ⟨again, hagain, hheadEq, htailEq, hnameEq⟩ :=
    ofParts_eq_ok rule.planned (some rule.tail) rule.name
  rw [rule.trimmed, String.ofList_toList] at hnameEq
  refine ⟨again, ?_, hheadEq, htailEq, hnameEq⟩
  rw [← hagain, ← ofText_head hhead' (hhead.1.unread hhead.2 hheadTail)
    (hhead.1.unread hhead.2 hname)]
  rfl

/-- A closing brace may be both separators, and stand in keys, strings and the name. -/
theorem reads_back_of_plain_brace :
    let separators : Separators := { headTail := "\x7d", name := "\x7d" }
    ∃ rule : Rule, rule.head = .mapping [("a \x7d", .string "x \x7d y")] ∧
      rule.tail = .sequence [.string "\x7d", .null] ∧ rule.name = "n \x7d m" ∧
      (∃ again, ofText separators (rule.text separators) none "" = .ok again ∧
        again.head = rule.head ∧ again.tail = rule.tail ∧ again.name = rule.name) ∧
      ∃ again, ofSequence separators
          (.sequence [.string rule.head.text, rule.tail, .string rule.name]) = .ok again ∧
        again.head = rule.head ∧ again.tail = rule.tail ∧ again.name = rule.name := by
  intro separators
  let rule : Rule :=
    { head := .mapping [("a \x7d", .string "x \x7d y")]
      tail := .sequence [.string "\x7d", .null]
      name := "n \x7d m"
      now? := none
      plan := _
      planned := rfl
      trimmed := by decide }
  have htoken : IsToken separators.name.toList := ⟨by decide, by decide⟩
  exact ⟨rule, rfl, rfl, rfl, reads_back_of_plain htoken htoken
    ⟨⟨by decide, trivial, trivial⟩, trivial⟩ ⟨⟨trivial, trivial, trivial⟩, trivial⟩⟩

/-- With the default separators, a rule of literals that survive their texts is read back
if and only if no separator stands in a regex literal behind something that reads as a
literal. -/
theorem reads_back_iff_not_misread {rule : Rule} (hhead : rule.head.Survives)
    (htail : rule.tail.Survives) :
    (∃ again, ofText {} (rule.text {}) none "" = .ok again ∧ (again.head == rule.head) = true ∧
      (again.tail == rule.tail) = true ∧ again.name = rule.name) ↔
    ¬rule.head.MisreadBefore "-->".toList ∧ ¬rule.tail.MisreadBefore "#==".toList := by
  obtain ⟨hheadRegular, hheadStands⟩ := Literal.survives_iff.1 hhead
  obtain ⟨htailRegular, htailStands⟩ := Literal.survives_iff.1 htail
  have hheadTail : IsToken "-->".toList := ⟨by decide, by decide⟩
  have hname : IsToken "#==".toList := ⟨by decide, by decide⟩
  have harrow : ∃ c ∈ "-->".toList, isForeign c := ⟨'>', by decide, by decide⟩
  have hhash : ∃ c ∈ "#==".toList, isForeign c := ⟨'#', by decide, by decide⟩
  have hunreadHead := Literal.unread_iff_not_misreadBefore hheadRegular hheadStands hheadTail
    (.inr harrow)
  have hunreadTail := Literal.unread_iff_not_misreadBefore htailRegular htailStands hname
    (.inr hhash)
  rw [← hunreadHead, ← hunreadTail]
  constructor
  · rintro ⟨again, hagain, hheadEq, htailEq, -⟩
    obtain ⟨written, hread, hwrittenHead, hwrittenTail⟩ := ofText_inv hagain
    rw [text, String.toList_ofList, write_eq hheadTail hheadRegular htailRegular] at hread
    have hheadUnread : Unread "-->".toList (Notation.write rule.head) := by
      by_contra hearly
      obtain ⟨place, hplace, y, more, hparse, hsplit⟩ := splitLiteral?_early hheadTail hearly
      obtain ⟨heq, -⟩ := read_inv hread hsplit
      have hcut := cutsRegex_of_parse hheadRegular hheadStands hheadTail (.inr harrow) hplace hparse
      rw [hwrittenHead, heq, beq_of_cutsRegex hheadRegular hcut hparse] at hheadEq
      cases hheadEq
    refine ⟨hheadUnread, ?_⟩
    by_contra hearly
    obtain ⟨-, tail, name?, hnamed, htail?⟩ :=
      read_inv hread (splitLiteral?_head hheadTail hhead hheadUnread _)
    obtain ⟨place, hplace, y, more, hparse, hsplit⟩ := @splitLiteral?_tail {} rule hname hearly
    have hcut := cutsRegex_of_parse htailRegular htailStands hname (.inr hhash) hplace hparse
    rw [hwrittenTail, htail?, tail_of_readNamed hnamed hsplit, Option.some_or, Option.getD_some,
      beq_of_cutsRegex htailRegular hcut hparse] at htailEq
    cases htailEq
  · rintro ⟨hheadUnread, htailUnread⟩
    obtain ⟨again, hagain, hheadEq, htailEq, hnameEq⟩ :=
      @ofText_text {} rule hheadTail hname hhead htail hheadUnread htailUnread
    refine ⟨again, hagain, ?_, ?_, hnameEq⟩
    · rw [hheadEq]
      exact Literal.beq_self hheadRegular
    · rw [htailEq]
      exact Literal.beq_self htailRegular

theorem reads_back_iff_not_misread_arrow :
    ∃ rule : Rule, rule.head.text = "/a-->b/" ∧ rule.head.Survives ∧ rule.tail.Survives ∧
      ¬∃ again, ofText {} (rule.text {}) none "" = .ok again ∧ (again.head == rule.head) = true ∧
        (again.tail == rule.tail) = true ∧ again.name = rule.name := by
  let r : RegexLiteral := ⟨"a-->b", "", _, rfl⟩
  let rule : Rule :=
    { head := .regex r
      tail := .bool true
      name := ""
      now? := none
      plan := _
      planned := rfl
      trimmed := rfl }
  have hsource : SourceBefore [] "a-->b".toList :=
    .plain (by decide) (.plain (by decide) (.plain (by decide) (.plain (by decide)
      (.plain (by decide) .nil))))
  have hwritable : r.IsWritable := ⟨⟨[], hsource⟩, by decide, by decide, by decide⟩
  have hstands : rule.head.Stands [] := show r.Stands [] from fun _ => rfl
  have hhead : rule.head.Survives := Literal.survives_iff.2 ⟨hwritable, hstands⟩
  have htail : rule.tail.Survives := Literal.survives_iff.2 ⟨trivial, trivial⟩
  have htext : Notation.write rule.head = "/a-->b/".toList :=
    hwritable.text_eq.trans (show '/' :: ("a-->b".toList ++ '/' :: "".toList) = _ from rfl)
  have hplaces : occurrences "-->".toList "/a-->b/".toList = [("/a".toList, "b/".toList)] := by
    decide
  have hmisread : rule.head.MisreadBefore "-->".toList := by
    rw [Literal.MisreadBefore, htext, hplaces]
    exact ⟨_, .head _, ⟨by decide, "-->b".toList, by decide⟩, .string "/a", rfl⟩
  exact ⟨rule, congrArg String.ofList htext, hhead, htail,
    fun hback => ((reads_back_iff_not_misread hhead htail).1 hback).1 hmisread⟩

end RuleBook.Rule
