import RuleBook.Proofs.Rule.Text

/-!
# Names without tails

A name may follow the head at once.  Its separator begins a comment, so an arrow in the
name is taken for the one before a tail where all that stands between it and the head is
layout.
-/

namespace RuleBook.Notation

open Reader Literal

section

variable {x : Literal} {rest : List Char}

theorem read_value_closed {fuel : Nat} (hclosed : x.IsClosed) (hregular : x.Regular)
    (hstands : x.Stands rest) (hfuel : (write x).length < fuel) :
    read (value fuel) (write x ++ rest) = some (.ok x, rest) := by
  cases fuel with
  | zero => exact absurd hfuel (Nat.not_lt_zero _)
  | succ fuel =>
      cases x with
      | string s =>
          rw [show write (.string s) = quote s.toList from rfl, read_value_quote,
            String.ofList_toList]
      | sequence items =>
          exact read_value_sequence (read_writeItems items fuel rest hregular hstands
            (Nat.le_trans (length_writeItems_le items) hfuel))
      | mapping entries =>
          exact read_value_mapping hregular.1 (read_writeEntries entries fuel rest hregular.2
            hstands (Nat.le_trans (length_writeEntries_le entries) hfuel))
      | _ => exact hclosed.elim

theorem parse_append_iff {y : Literal} (hclosed : x.IsClosed) (hregular : x.Regular)
    (hstands : x.Stands rest) :
    parse (write x ++ rest) = .ok y ↔ skipLayout rest = [] ∧ y = x := by
  have hlength : (write x).length < (write x ++ rest).length + 1 := by
    rw [List.length_append]
    omega
  have hskip := skipLayout_write hregular rest
  have hread : read (value ((write x ++ rest).length + 1)) (skipLayout (write x ++ rest)) =
      some (.ok x, rest) := by
    rw [hskip]
    exact read_value_closed hclosed hregular hstands hlength
  constructor
  · intro h
    rcases parse_ok_cases h with ⟨rest', hvalue, hlayout⟩ | ⟨line, rest', hform, -⟩
    · rw [hread] at hvalue
      cases hvalue
      exact ⟨hlayout, rfl⟩
    · obtain ⟨c, more, hcons, hc⟩ := write_closed_cons hclosed
      rw [hskip, hcons] at hform
      rcases hc with rfl | rfl | rfl <;> cases hform
  · rintro ⟨hlayout, rfl⟩
    exact parse_of_read_value hread hlayout

end

theorem skipLayout_comment {text : List Char} (h : ∀ c ∈ text, isLineBreak c = false) :
    skipLayout ('#' :: text) = [] := by
  have hline : text.dropWhile (!isLineBreak ·) = [] :=
    List.dropWhile_eq_nil_iff.2 fun c hc => by rw [h c hc]; rfl
  have hstep : layoutStep ('#' :: text) = some [] := by
    rw [layoutStep, takeBlank?_cons (by decide), takeLineBreak?_cons (by decide), takeLineComment?,
      hline]
    rfl
  change skipMany layoutStep (text.length + 1) ('#' :: text) = []
  rw [skipMany, hstep]
  exact skipMany_of_none rfl _

end RuleBook.Notation

namespace RuleBook.WrittenRule

open Notation Text

variable {token s : List Char}

theorem splitLiteral?_append_blank (htoken : IsToken token) (hunread : Unread token s)
    (text : List Char) :
    splitLiteral? token (s ++ ' ' :: text) =
      (occurrences token text).findSome? fun place => readPlace? (s ++ ' ' :: place.1, place.2) := by
  have hearly : (occurrences token s).findSome?
      (readPlace? ∘ fun place => (place.1, place.2 ++ ' ' :: text)) = none :=
    List.findSome?_eq_none_iff.2 fun place hplace => readPlace?_eq_none.2 (hunread place hplace)
  rw [splitLiteral?_eq, occurrences_append_blank htoken, List.findSome?_append, List.findSome?_map,
    List.findSome?_map, hearly, Option.none_or]
  rfl

theorem length_name_le {x : Literal} {name? : Option (List Char)}
    (h : readNamed token s = .ok (x, name?)) : (name?.getD []).length ≤ s.length := by
  rw [readNamed] at h
  cases hsplit : splitLiteral? token s with
  | none =>
      rw [hsplit] at h
      obtain ⟨y, -, heq⟩ := bind_eq_ok h
      cases heq
      exact Nat.zero_le _
  | some found =>
      rw [hsplit] at h
      cases h
      rw [splitLiteral?_eq] at hsplit
      obtain ⟨place, hplace, hread⟩ := List.exists_of_findSome?_eq_some hsplit
      have hlength := congrArg List.length (mem_occurrences hplace)
      rw [(readPlace?_eq_some.1 hread).2, List.length_append, List.length_append] at hlength
      have htrim := length_trim_le found.2
      rw [Option.getD_some]
      omega

end RuleBook.WrittenRule

namespace RuleBook.Rule

open Notation Text WrittenRule

/-- Whether an arrow stands in a name where everything before it, from the separator of
the name on, is a comment or other layout. -/
def ArrowInComment (name : List Char) : Prop :=
  ∃ place ∈ occurrences "-->".toList name, skipLayout (trimEnd ("#== ".toList ++ place.1)) = []

theorem arrowInComment_iff {name : List Char} (h : ∀ c ∈ name, isLineBreak c = false) :
    ArrowInComment name ↔ "-->".toList <:+: name := by
  have hcomment : ∀ place ∈ occurrences "-->".toList name,
      skipLayout (trimEnd ("#== ".toList ++ place.1)) = [] := by
    intro place hplace
    have hline : ∀ c ∈ "== ".toList ++ place.1, isLineBreak c = false := by
      refine List.forall_mem_append.2 ⟨by decide, fun c hc => h c ?_⟩
      rw [mem_occurrences hplace]
      exact List.mem_append_left _ hc
    have htrim : trimEnd ("#== ".toList ++ place.1) = '#' :: trimEnd ("== ".toList ++ place.1) :=
      trimEnd_cons (by decide) _
    rw [htrim]
    exact skipLayout_comment fun c hc => hline c ((trimEnd_isPrefix _).subset hc)
  have hplaces : occurrences "-->".toList name ≠ [] ↔ "-->".toList <:+: name := by
    have hnil : occurrences "-->".toList name = [] ↔ ¬"-->".toList <:+: name :=
      occurrences_eq_nil_iff (by decide)
    rw [ne_eq, hnil, not_not]
  rw [← hplaces]
  constructor
  · rintro ⟨place, hplace, -⟩ hnil
    rw [hnil] at hplace
    cases hplace
  · intro hne
    obtain ⟨place, places, hcons⟩ := List.exists_cons_of_ne_nil hne
    have hplace : place ∈ occurrences "-->".toList name := hcons ▸ List.mem_cons_self
    exact ⟨place, hplace, hcomment place hplace⟩

section

variable {head : Literal} {name : String} (hplain : head.Plain) (hclosed : head.IsClosed)

include hplain hclosed

/-- The head is read before a place in the name exactly where layout stands between them. -/
private theorem parse_place_iff {y : Literal} (before : List Char) :
    Notation.parse (trim (Notation.write head ++ ' ' :: ("#==".toList ++ ' ' :: before))) = .ok y ↔
      skipLayout (trimEnd ("#== ".toList ++ before)) = [] ∧ y = head := by
  obtain ⟨c, more, hcons, hc⟩ := (isTrimmed_write hplain.regular).head
  have htrim : trim (Notation.write head ++ ' ' :: ("#==".toList ++ ' ' :: before)) =
      Notation.write head ++ ' ' :: trimEnd ("#== ".toList ++ before) := by
    have hend := trimEnd_append_cons (c := '#') (by decide) (Notation.write head ++ [' '])
      ("== ".toList ++ before)
    rw [hcons] at hend ⊢
    rw [List.cons_append, trim_cons hc]
    simpa using hend
  rw [htrim, parse_append_iff hclosed hplain.regular (hplain.stands _), skipLayout_space]

private theorem splitLiteral?_arrow (name : List Char) :
    splitLiteral? "-->".toList (Notation.write head ++ ' ' :: ("#==".toList ++ ' ' :: name)) =
      (occurrences "-->".toList name).findSome? fun place =>
        readPlace? (Notation.write head ++ ' ' :: ("#==".toList ++ ' ' :: place.1), place.2) := by
  have htoken : IsToken "-->".toList := ⟨by decide, by decide⟩
  rw [splitLiteral?_append_blank htoken (hplain.unread hclosed htoken),
    occurrences_append_blank htoken, show occurrences "-->".toList "#==".toList = [] by decide,
    List.map_nil, List.nil_append, List.findSome?_map]
  rfl

private theorem read_named {name : List Char} (htrimmed : trim name = name)
    (harrow : ¬ArrowInComment name) :
    WrittenRule.read {} (Notation.write head ++ ' ' :: ("#==".toList ++ ' ' :: name)) =
      .ok ⟨head, none, some name⟩ := by
  have htoken : IsToken "#==".toList := ⟨by decide, by decide⟩
  have hnone : splitLiteral? "-->".toList
      (Notation.write head ++ ' ' :: ("#==".toList ++ ' ' :: name)) = none := by
    rw [splitLiteral?_arrow hplain hclosed, List.findSome?_eq_none_iff]
    intro place hplace
    rw [readPlace?_eq_none]
    intro y hparse
    exact harrow ⟨place, hplace, ((parse_place_iff hplain hclosed place.1).1 hparse).1⟩
  have hparse : Notation.parse (trim (Notation.write head ++ [' '])) = .ok head := by
    rw [(isTrimmed_write hplain.regular).trim_concat_blank (by decide),
      parse_write hplain.regular (hplain.stands [])]
  rw [WrittenRule.read, hnone]
  dsimp only
  rw [readNamed, splitLiteral?_written htoken (hplain.unread hclosed htoken) hparse]
  dsimp only
  rw [trim_cons_blank (by decide), htrimmed]
  rfl

private theorem read_arrow {name : List Char} {written : WrittenRule}
    (harrow : ArrowInComment name)
    (hread : WrittenRule.read {} (Notation.write head ++ ' ' :: ("#==".toList ++ ' ' :: name)) =
      .ok written) :
    written.head = head ∧ (written.name?.getD []).length < name.length := by
  cases hsplit : splitLiteral? "-->".toList
      (Notation.write head ++ ' ' :: ("#==".toList ++ ' ' :: name)) with
  | none =>
      obtain ⟨place, hplace, hlayout⟩ := harrow
      rw [splitLiteral?_arrow hplain hclosed, List.findSome?_eq_none_iff] at hsplit
      exact absurd ((parse_place_iff hplain hclosed place.1).2 ⟨hlayout, rfl⟩)
        (readPlace?_eq_none.1 (hsplit place hplace) head)
  | some found =>
      rw [WrittenRule.read, hsplit] at hread
      obtain ⟨named, hnamed, heq⟩ := bind_eq_ok hread
      cases heq
      rw [splitLiteral?_arrow hplain hclosed] at hsplit
      obtain ⟨place, hplace, hfound⟩ := List.exists_of_findSome?_eq_some hsplit
      obtain ⟨hparse, hafter⟩ := readPlace?_eq_some.1 hfound
      have hname := length_name_le hnamed
      have hlength := congrArg List.length (mem_occurrences hplace)
      rw [List.length_append, List.length_append, hafter] at hlength
      refine ⟨((parse_place_iff hplain hclosed place.1).1 hparse).2, ?_⟩
      change (named.2.getD []).length < name.length
      have htoken : 0 < "-->".toList.length := by decide
      omega

/-- A rule is read from its head and its name if and only if no arrow in the name is taken
for the one before a tail.  In a name of one line every arrow is. -/
theorem ofText_named_iff (haccepted : (ofParts head none "").isOk = true)
    (htrimmed : trim name.toList = name.toList) :
    ((∃ rule, ofText {} (head.text ++ " #== " ++ name) none "" = .ok rule ∧ rule.head = head ∧
        rule.tail = .bool true ∧ rule.name = name) ↔ ¬ArrowInComment name.toList) ∧
    ((∀ c ∈ name.toList, isLineBreak c = false) →
      (ArrowInComment name.toList ↔ "-->".toList <:+: name.toList)) := by
  have htext : (head.text ++ " #== " ++ name).toList =
      Notation.write head ++ ' ' :: ("#==".toList ++ ' ' :: name.toList) := by
    simp [Literal.text]
  rw [isOk_ofParts] at haccepted
  obtain ⟨plan, hplan⟩ := isOk_iff_exists.1 haccepted
  refine ⟨⟨?_, fun harrow => ?_⟩, arrowInComment_iff⟩
  · rintro ⟨rule, hrule, -, -, hname⟩ harrow
    rw [ofText, htext] at hrule
    cases hread : WrittenRule.read {}
        (Notation.write head ++ ' ' :: ("#==".toList ++ ' ' :: name.toList)) with
    | error cause =>
        rw [hread] at hrule
        cases hrule
    | ok written =>
        obtain ⟨hhead, hlength⟩ := read_arrow hplain hclosed harrow hread
        obtain ⟨again, hagain, -, -, hagainName⟩ := ofParts_eq_ok hplan (written.tail?.or none)
          (String.ofList (written.name?.getD []))
        rw [hread] at hrule
        dsimp only at hrule
        rw [if_pos rfl, hhead, hagain] at hrule
        cases hrule
        have hle := length_trim_le (written.name?.getD [])
        rw [← hname, hagainName, String.toList_ofList, String.toList_ofList] at hlength
        omega
  · obtain ⟨rule, hrule, hhead, htail, hname⟩ := ofParts_eq_ok hplan none name
    refine ⟨rule, ?_, hhead, htail, ?_⟩
    · rw [ofText, htext, read_named hplain hclosed htrimmed harrow, ← hrule]
      dsimp only
      rw [if_pos rfl, Option.getD_some, String.ofList_toList]
      rfl
    · rw [hname, htrimmed, String.ofList_toList]

end

/-- The arrow of a name on the line of the head is taken for the one before a tail, and the
arrow on a second line is not. -/
theorem ofText_named_iff_lines :
    let head : Literal := .mapping [("a", .number 1.0)]
    head.Plain ∧ head.IsClosed ∧ (ofParts head none "").isOk = true ∧
      (¬∃ rule, ofText {} (head.text ++ " #== " ++ "x --> y") none "" = .ok rule ∧
        rule.head = head ∧ rule.tail = .bool true ∧ rule.name = "x --> y") ∧
      ∃ rule, ofText {} (head.text ++ " #== " ++ "x\ny --> z") none "" = .ok rule ∧
        rule.head = head ∧ rule.tail = .bool true ∧ rule.name = "x\ny --> z" := by
  intro head
  have hplain : head.Plain := ⟨by decide, trivial, trivial⟩
  have hclosed : head.IsClosed := trivial
  have haccepted : (ofParts head none "").isOk = true := by
    rw [isOk_ofParts]
    rfl
  refine ⟨hplain, hclosed, haccepted, ?_, ?_⟩
  · obtain ⟨hreads, hline⟩ :=
      @ofText_named_iff head "x --> y" hplain hclosed haccepted (by decide)
    rw [hreads, not_not, hline (by decide)]
    exact ⟨"x ".toList, " y".toList, rfl⟩
  · obtain ⟨hreads, -⟩ :=
      @ofText_named_iff head "x\ny --> z" hplain hclosed haccepted (by decide)
    refine hreads.2 ?_
    rintro ⟨place, hplace, hlayout⟩
    rw [show occurrences "-->".toList "x\ny --> z".toList = [("x\ny ".toList, " z".toList)] by decide,
      List.mem_singleton] at hplace
    rw [hplace] at hlayout
    revert hlayout
    decide

end RuleBook.Rule
