import RuleBook.Notation.Write
import RuleBook.Proofs.Notation.Form
import RuleBook.Proofs.Notation.Layout

/-!
# Written regular expressions

The source of a regular expression is read part by part.  A bracket that no other one
closes on its line stands for itself, so what a source is read as depends on the text
after it: a source that leaves a class open is read back as it is only where that text
does not close the class.
-/

namespace RuleBook.Notation

open Reader

/-! ## Classes -/

section

variable {c : Char} {text tail rest : List Char}

theorem classTail?_cons (h : c ≠ ']' ∧ c ≠ '\\' ∧ isLineBreak c = false) (text : List Char) :
    classTail? (c :: text) = (classTail? text).map fun found => (c :: found.1, found.2) := by
  obtain ⟨h1, h2, h3⟩ := h
  rw [classTail?, if_neg (by simp [h2, h3])]
  · exact h1
  · intro d more heq
    exact absurd heq h2

theorem classTail?_escape (h : isLineBreak c = false) (text : List Char) :
    classTail? ('\\' :: c :: text) =
      (classTail? text).map fun found => ('\\' :: c :: found.1, found.2) := by
  rw [classTail?, if_neg (by simp [h])]

theorem classTail?_cases (h : classTail? text = some (tail, rest)) :
    (tail = [']'] ∧ text = ']' :: rest) ∨
    (∃ c more tail', text = '\\' :: c :: more ∧ isLineBreak c = false ∧
      classTail? more = some (tail', rest) ∧ tail = '\\' :: c :: tail') ∨
    (∃ c more tail', text = c :: more ∧ (c ≠ ']' ∧ c ≠ '\\' ∧ isLineBreak c = false) ∧
      classTail? more = some (tail', rest) ∧ tail = c :: tail') := by
  unfold classTail? at h
  split at h
  · cases h
  · cases h
    exact .inl ⟨rfl, rfl⟩
  · next c more =>
    split at h
    · cases h
    · next hbreak =>
      obtain ⟨found, hfound, heq⟩ := Option.map_eq_some_iff.1 h
      cases heq
      exact .inr (.inl ⟨c, more, found.1, rfl, by simpa using hbreak, hfound, rfl⟩)
  · next c more hbracket hescape =>
    split at h
    · cases h
    · next hstop =>
      obtain ⟨found, hfound, heq⟩ := Option.map_eq_some_iff.1 h
      cases heq
      simp only [not_or] at hstop
      exact .inr (.inr ⟨c, more, found.1, rfl, ⟨hbracket, hstop.1, by simpa using hstop.2⟩,
        hfound, rfl⟩)

def leavesOpen : Bool → List Char → Bool
  | inClass, [] => inClass
  | inClass, '\\' :: _ :: source => leavesOpen inClass source
  | inClass, c :: source =>
      leavesOpen (if c = '[' then true else if c = ']' then false else inClass) source

theorem leavesOpen_cons (inClass : Bool) (h : c ≠ '\\') (text : List Char) :
    leavesOpen inClass (c :: text) =
      leavesOpen (if c = '[' then true else if c = ']' then false else inClass) text := by
  rw [leavesOpen]
  intro d more heq
  exact absurd heq h

theorem protectSlashes_escape (inClass : Bool) (text : List Char) :
    protectSlashes false inClass ('\\' :: c :: text) =
      '\\' :: c :: protectSlashes false inClass text := by
  rw [protectSlashes, if_pos rfl, protectSlashes]

theorem protectSlashes_cons (inClass : Bool) (h : c ≠ '\\' ∧ (c = '/' → inClass = true))
    (text : List Char) :
    protectSlashes false inClass (c :: text) =
      c :: protectSlashes false (if c = '[' then true else if c = ']' then false else inClass)
        text := by
  rw [protectSlashes, if_neg h.1]
  by_cases hopen : c = '['
  · rw [if_pos hopen, if_pos hopen]
  by_cases hclose : c = ']'
  · rw [if_neg hopen, if_pos hclose, if_neg hopen, if_pos hclose]
  · rw [if_neg hopen, if_neg hclose, if_neg hopen, if_neg hclose, if_neg]
    rintro ⟨hslash, hout⟩
    simp [h.2 hslash] at hout

theorem classTail?_local (h : classTail? text = some (tail, rest)) (after : List Char) :
    classTail? (tail ++ after) = some (tail, after) ∧
      leavesOpen true (tail ++ after) = leavesOpen false after ∧
      protectSlashes false true (tail ++ after) =
        tail ++ protectSlashes false false after := by
  induction hlen : text.length using Nat.strongRecOn generalizing text tail with
  | _ n ih =>
      rcases classTail?_cases h with ⟨rfl, rfl⟩ | ⟨c, more, tail', rfl, hc, hmore, rfl⟩ |
        ⟨c, more, tail', rfl, hc, hmore, rfl⟩
      · exact ⟨rfl, rfl, rfl⟩
      · obtain ⟨h1, h2, h3⟩ := ih more.length (by simp at hlen; omega) hmore rfl
        refine ⟨?_, ?_, ?_⟩
        · simp [classTail?_escape hc, h1]
        · simpa [leavesOpen] using h2
        · simp [protectSlashes_escape, h3]
      · obtain ⟨h1, h2, h3⟩ := ih more.length (by simp at hlen; omega) hmore rfl
        have hstate : (if c = '[' then true else if c = ']' then false else true) = true := by
          simp [hc.1]
        refine ⟨?_, ?_, ?_⟩
        · simp [classTail?_cons hc, h1]
        · rw [List.cons_append, leavesOpen_cons _ hc.2.1, hstate]
          exact h2
        · rw [List.cons_append, protectSlashes_cons _ ⟨hc.2.1, fun _ => rfl⟩, hstate, h3]
          rfl

theorem classTail?_of_isPrefix {p : List Char} (h : classTail? text = none) (hp : p <+: text) :
    classTail? p = none := by
  cases hclass : classTail? p with
  | none => rfl
  | some found =>
      obtain ⟨more, rfl⟩ := hp
      have hsplit := classTail?_splits p found.1 found.2 hclass
      have hclosed := (classTail?_local hclass (found.2 ++ more)).1
      rw [← List.append_assoc, ← hsplit, h] at hclosed
      cases hclosed

end

/-! ## Sources -/

/-- A source that is read part by part up to the text after it. -/
inductive SourceBefore (after : List Char) : List Char → Prop where
  | nil : SourceBefore after []
  | escape {c : Char} {source : List Char} (hc : isLineBreak c = false)
      (h : SourceBefore after source) : SourceBefore after ('\\' :: c :: source)
  | plain {c : Char} {source : List Char}
      (hc : c ≠ '[' ∧ c ≠ '/' ∧ c ≠ '\\' ∧ isLineBreak c = false)
      (h : SourceBefore after source) : SourceBefore after (c :: source)
  | closed {tail source : List Char}
      (htail : classTail? (tail ++ (source ++ after)) = some (tail, source ++ after))
      (h : SourceBefore after source) : SourceBefore after ('[' :: (tail ++ source))
  | opened {source : List Char} (hopen : classTail? (source ++ after) = none)
      (h : SourceBefore after source) : SourceBefore after ('[' :: source)

theorem regexPart?_plain {c : Char} (h : c ≠ '[' ∧ c ≠ '/' ∧ c ≠ '\\' ∧ isLineBreak c = false)
    (text : List Char) : regexPart? (c :: text) = some ([c], text) := by
  obtain ⟨h1, h2, h3, h4⟩ := h
  unfold regexPart?
  split
  · next heq => exact absurd (List.cons.inj heq).1 h1
  · next heq => exact absurd (List.cons.inj heq).1 h3
  · next heq =>
    obtain ⟨rfl, rfl⟩ := List.cons.inj heq
    rw [if_neg (by simp [h2, h3, h4])]
  · next heq => cases heq

private theorem SourceBefore.part {text part source after : List Char}
    (hpart : regexPart? text = some (part, source ++ after)) (h : SourceBefore after source) :
    SourceBefore after (part ++ source) ∧ text = part ++ (source ++ after) := by
  unfold regexPart? at hpart
  split at hpart
  · split at hpart
    · next htail =>
      cases hpart
      have hsplit := classTail?_splits _ _ _ htail
      rw [hsplit] at htail
      exact ⟨.closed htail h, congrArg ('[' :: ·) hsplit⟩
    · next htail =>
      cases hpart
      exact ⟨.opened htail h, rfl⟩
  · split at hpart
    · cases hpart
    · next hbreak =>
      cases hpart
      exact ⟨.escape (by simpa using hbreak) h, rfl⟩
  · next c text' hbracket hescape =>
    split at hpart
    · cases hpart
    · next hstop =>
      cases hpart
      simp only [not_or] at hstop
      exact ⟨.plain ⟨hbracket, hstop.1, hstop.2.1, by simpa using hstop.2.2⟩ h, rfl⟩
  · cases hpart

theorem sourceBefore_of_regexParts {n : Nat} {text source after : List Char}
    (h : regexParts n text = (source, after)) :
    SourceBefore after source ∧ text = source ++ after := by
  induction n generalizing text source with
  | zero =>
      cases h
      exact ⟨.nil, rfl⟩
  | succ n ih =>
      rw [regexParts] at h
      split at h
      · next part rest hpart =>
        obtain ⟨rfl, hafter⟩ := Prod.mk.inj h
        obtain ⟨hbefore, hrest⟩ := ih (Prod.ext rfl hafter)
        rw [hrest] at hpart
        rw [List.append_assoc]
        exact hbefore.part hpart
      · cases h
        exact ⟨.nil, rfl⟩

namespace SourceBefore

variable {after source : List Char}

theorem regexParts_eq (h : SourceBefore after source) (hafter : regexPart? after = none)
    {n : Nat} (hn : (source ++ after).length ≤ n) :
    regexParts n (source ++ after) = (source, after) := by
  induction h generalizing n with
  | nil =>
      cases n with
      | zero => rfl
      | succ n => simp [regexParts, hafter]
  | @escape c source hc _ ih =>
      obtain ⟨n, rfl⟩ : ∃ m, n = m + 1 := ⟨n - 1, by simp at hn; omega⟩
      have hpart : ∀ text, regexPart? ('\\' :: c :: text) = some (['\\', c], text) := fun text => by
        rw [regexPart?, if_neg (by simp [hc])]
      simp [regexParts, hpart, ih (n := n) (by simp at hn ⊢; omega)]
  | plain hc _ ih =>
      obtain ⟨n, rfl⟩ : ∃ m, n = m + 1 := ⟨n - 1, by simp at hn; omega⟩
      simp [regexParts, regexPart?_plain hc, ih (n := n) (by simp at hn ⊢; omega)]
  | closed htail _ ih =>
      obtain ⟨n, rfl⟩ : ∃ m, n = m + 1 := ⟨n - 1, by simp at hn; omega⟩
      simp [regexParts, regexPart?, htail, ih (n := n) (by simp at hn ⊢; omega)]
  | opened hopen _ ih =>
      obtain ⟨n, rfl⟩ : ∃ m, n = m + 1 := ⟨n - 1, by simp at hn; omega⟩
      simp [regexParts, regexPart?, hopen, ih (n := n) (by simp at hn ⊢; omega)]

theorem classTail?_eq (h : SourceBefore after source) (hopen : classTail? (source ++ after) = none) :
    leavesOpen true source = true ∧
      ∀ text, classTail? (source ++ text) =
        (classTail? text).map fun found => (source ++ found.1, found.2) := by
  induction h with
  | nil => exact ⟨rfl, fun text => by simp⟩
  | escape hc _ ih =>
      rw [List.cons_append, List.cons_append, classTail?_escape hc, Option.map_eq_none_iff] at hopen
      obtain ⟨h1, h2⟩ := ih hopen
      exact ⟨h1, fun text => by simp [classTail?_escape hc, h2, Function.comp_def]⟩
  | @plain c source hc _ ih =>
      have hbracket : c ≠ ']' := by
        rintro rfl
        cases hopen
      have hc' := And.intro hbracket hc.2.2
      rw [List.cons_append, classTail?_cons hc', Option.map_eq_none_iff] at hopen
      obtain ⟨h1, h2⟩ := ih hopen
      refine ⟨?_, fun text => by simp [classTail?_cons hc', h2, Function.comp_def]⟩
      rw [leavesOpen_cons _ hc.2.2.1, if_neg hc.1, if_neg hbracket]
      exact h1
  | closed htail _ _ =>
      rw [List.cons_append, List.append_assoc, classTail?_cons (by decide), htail] at hopen
      cases hopen
  | opened _ _ ih =>
      rw [List.cons_append, classTail?_cons (by decide), Option.map_eq_none_iff] at hopen
      obtain ⟨h1, h2⟩ := ih hopen
      refine ⟨?_, fun text => by simp [classTail?_cons, isLineBreak, h2, Function.comp_def]⟩
      rw [leavesOpen_cons _ (by decide)]
      exact h1

theorem before (h : SourceBefore after source) {text : List Char}
    (htext : leavesOpen false source = true → classTail? text = none) :
    SourceBefore text source := by
  induction h with
  | nil => exact .nil
  | escape hc _ ih => exact .escape hc (ih htext)
  | plain hc _ ih =>
      refine .plain hc (ih fun h => htext ?_)
      rw [leavesOpen_cons _ hc.2.2.1, if_neg hc.1]
      simpa using h
  | closed htail _ ih =>
      obtain ⟨-, h2, -⟩ := classTail?_local htail _
      refine .closed (classTail?_local htail _).1 (ih fun h => htext ?_)
      rw [leavesOpen_cons _ (by decide)]
      exact h2.trans h
  | opened hopen hbefore ih =>
      obtain ⟨h1, h2⟩ := hbefore.classTail?_eq hopen
      have hnone : classTail? text = none := by
        refine htext ?_
        rw [leavesOpen_cons _ (by decide)]
        exact h1
      exact .opened (by rw [h2, hnone]; rfl) (ih fun _ => hnone)

theorem classTail?_after (h : SourceBefore after source) (hopen : leavesOpen false source = true) :
    classTail? after = none := by
  induction h with
  | nil => cases hopen
  | escape _ _ ih => exact ih hopen
  | plain hc _ ih =>
      rw [leavesOpen_cons _ hc.2.2.1, if_neg hc.1] at hopen
      exact ih (by simpa using hopen)
  | closed htail _ ih =>
      obtain ⟨-, h2, -⟩ := classTail?_local htail _
      rw [leavesOpen_cons _ (by decide)] at hopen
      exact ih (h2.symm.trans hopen)
  | opened hnone hbefore _ =>
      rw [(hbefore.classTail?_eq hnone).2] at hnone
      simpa using hnone

private theorem isLineBreak_tail {text tail rest : List Char}
    (h : classTail? text = some (tail, rest)) : ∀ c ∈ tail, isLineBreak c = false := by
  induction hlen : text.length using Nat.strongRecOn generalizing text tail with
  | _ n ih =>
      rcases classTail?_cases h with ⟨rfl, rfl⟩ | ⟨d, more, tail', rfl, hd, hmore, rfl⟩ |
        ⟨d, more, tail', rfl, hd, hmore, rfl⟩
      · intro c hc
        obtain rfl := List.mem_singleton.1 hc
        rfl
      · intro c hc
        rcases List.mem_cons.1 hc with rfl | hc
        · rfl
        rcases List.mem_cons.1 hc with rfl | hc
        · exact hd
        · exact ih more.length (by simp at hlen; omega) hmore rfl c hc
      · intro c hc
        rcases List.mem_cons.1 hc with rfl | hc
        · exact hd.2.2
        · exact ih more.length (by simp at hlen; omega) hmore rfl c hc

theorem isLineBreak_eq (h : SourceBefore after source) :
    ∀ c ∈ source, isLineBreak c = false := by
  induction h with
  | nil => simp
  | escape hc _ ih => simpa [hc] using ⟨rfl, ih⟩
  | plain hc _ ih => simpa [hc.2.2.2] using ih
  | closed htail _ ih =>
      intro c hc
      rcases List.mem_cons.1 hc with rfl | hc
      · rfl
      rcases List.mem_append.1 hc with hc | hc
      · exact isLineBreak_tail htail c hc
      · exact ih c hc
  | opened _ _ ih => simpa using ⟨rfl, ih⟩

theorem protectSlashes_eq (h : SourceBefore after source) (inClass : Bool) :
    protectSlashes false inClass source = source := by
  induction h generalizing inClass with
  | nil => rfl
  | escape _ _ ih => rw [protectSlashes_escape, ih]
  | plain hc _ ih =>
      rw [protectSlashes_cons _ ⟨hc.2.2.1, fun h => absurd h hc.2.1⟩, ih]
  | closed htail _ ih =>
      obtain ⟨-, -, h3⟩ := classTail?_local htail _
      rw [protectSlashes_cons _ ⟨by decide, fun h => absurd h (by decide)⟩]
      exact congrArg _ (h3.trans (congrArg _ (ih false)))
  | opened _ _ ih =>
      rw [protectSlashes_cons _ ⟨by decide, fun h => absurd h (by decide)⟩, ih]

end SourceBefore

/-! ## Whole expressions -/

theorem regexSourceForm_inv {text source rest : List Char}
    (h : regexSourceForm text = some (source, rest)) :
    SourceBefore rest source ∧ text = source ++ rest ∧ source ≠ [] ∧
      source.head? ≠ some '*' := by
  unfold regexSourceForm at h
  split at h
  · cases h
  · next hstar =>
    split at h
    · cases h
    · next source' rest' hne hparts =>
      cases h
      obtain ⟨hbefore, heq⟩ := sourceBefore_of_regexParts hparts
      refine ⟨hbefore, heq, hne, fun hhead => ?_⟩
      obtain ⟨more, hmore⟩ := List.head?_eq_some_iff.1 hhead
      exact hstar (more ++ rest) (by rw [heq, hmore]; rfl)

theorem regexSourceForm_eq {source after : List Char} (h : SourceBefore after source)
    (hafter : regexPart? after = none) (hne : source ≠ []) (hstar : source.head? ≠ some '*') :
    regexSourceForm (source ++ after) = some (source, after) := by
  have hparts := h.regexParts_eq hafter (Nat.le_refl _)
  unfold regexSourceForm
  split
  · next heq =>
    cases source with
    | nil => exact absurd rfl hne
    | cons c source =>
        obtain ⟨rfl, -⟩ := List.cons.inj heq
        exact absurd rfl hstar
  · rw [hparts]
    split
    · next heq => exact absurd (Prod.mk.inj heq).1 hne
    · next heq =>
      obtain ⟨rfl, rfl⟩ := Prod.mk.inj heq
      rfl

theorem classTail?_flags {flags : List Char}
    (hflags : ∀ c ∈ flags, c ∈ RegexLiteral.knownFlags) (rest : List Char) :
    classTail? (flags ++ rest) =
      (classTail? rest).map fun found => (flags ++ found.1, found.2) := by
  have hplain : ∀ c ∈ RegexLiteral.knownFlags,
      c ≠ ']' ∧ c ≠ '\\' ∧ isLineBreak c = false := by decide
  induction flags with
  | nil => simp
  | cons c flags ih =>
      rw [List.cons_append, classTail?_cons (hplain c (hflags c (by simp))),
        ih fun d hd => hflags d (by simp [hd])]
      simp [Function.comp_def]

theorem regexFlagsForm_append {flags rest : List Char}
    (hflags : ∀ c ∈ flags, c ∈ RegexLiteral.knownFlags)
    (hrest : ∀ c ∈ rest.head?, c ∉ RegexLiteral.knownFlags) :
    regexFlagsForm (flags ++ rest) = some (flags, rest) := by
  refine takeRun_append (fun c hc => ?_) fun c hc => ?_
  · simpa [RegexLiteral.knownFlags] using hflags c hc
  · simpa [RegexLiteral.knownFlags] using hrest c hc

theorem AtEnd.notMem_knownFlags {rest : List Char} (h : AtEnd rest) :
    ∀ c ∈ rest.head?, c ∉ RegexLiteral.knownFlags := by
  intro c hc
  rcases h.head c hc with rfl | rfl | rfl <;> decide

theorem mem_of_regexFlagsForm {text flags rest : List Char}
    (h : regexFlagsForm text = some (flags, rest)) :
    ∀ c ∈ flags, c ∈ RegexLiteral.knownFlags := by
  rw [regexFlagsForm, takeRun, List.span_eq_takeWhile_dropWhile] at h
  cases h
  intro c hc
  simpa [RegexLiteral.knownFlags] using List.all_eq_true.1 List.all_takeWhile c hc

end RuleBook.Notation

namespace RuleBook.RegexLiteral

open Notation

variable {r : RegexLiteral} {source flags : String}

theorem ofSource_eq_ok (h : ofSource source flags = .ok r) :
    r.source = source ∧ r.flags = flags := by
  unfold ofSource at h
  split at h
  · cases h
  · split at h
    · cases h
      exact ⟨rfl, rfl⟩
    · cases h

theorem mem_knownFlags_of_ofSource (h : ofSource source flags = .ok r) :
    ∀ c ∈ flags.toList, c ∈ knownFlags := by
  unfold ofSource at h
  split at h
  · cases h
  · next hnone => simpa using hnone

theorem ofSource_self (hflags : ∀ c ∈ r.flags.toList, c ∈ knownFlags) :
    ofSource r.source r.flags = .ok r := by
  unfold ofSource
  split
  · next flag hfind =>
    have hunknown := List.find?_some hfind
    have hknown := hflags flag (List.mem_of_find?_eq_some hfind)
    simp [hknown] at hunknown
  · split
    · exact congrArg Except.ok (ext_of_written rfl rfl)
    · next hnone => rw [r.compiles] at hnone; cases hnone

/-- A regex literal that can stand in a text. -/
structure IsWritable (r : RegexLiteral) : Prop where
  source : ∃ after, SourceBefore after r.source.toList
  ne_nil : r.source.toList ≠ []
  star : r.source.toList.head? ≠ some '*'
  flags : ∀ c ∈ r.flags.toList, c ∈ knownFlags

/-- Whether the text after a regex literal leaves its source as it is. -/
def Stands (r : RegexLiteral) (rest : List Char) : Prop :=
  leavesOpen false r.source.toList = true → classTail? rest = none

theorem Stands.of_isPrefix {rest p : List Char} (h : r.Stands rest) (hp : p <+: rest) :
    r.Stands p := fun hopen => classTail?_of_isPrefix (h hopen) hp

theorem IsWritable.text_eq (h : r.IsWritable) :
    regexText r.source.toList r.flags.toList =
      '/' :: (r.source.toList ++ '/' :: r.flags.toList) := by
  obtain ⟨after, hsource⟩ := h.source
  rw [regexText, if_neg h.ne_nil, hsource.protectSlashes_eq]
  rfl

theorem IsWritable.write_eq (h : r.IsWritable) :
    write (.regex r) = '/' :: (r.source.toList ++ '/' :: r.flags.toList) := h.text_eq

end RuleBook.RegexLiteral

namespace RuleBook.Notation

open Reader

theorem read_regexValue_cons {c : Char} (h : c ≠ '/') (text : List Char) :
    read regexValue (c :: text) = none := by
  simp [regexValue, read_char_cons, h]

variable {r : RegexLiteral} {rest : List Char}

theorem read_regexValue_before {source flags : List Char}
    (hbefore : SourceBefore ('/' :: (flags ++ rest)) source)
    (hne : source ≠ []) (hstar : source.head? ≠ some '*')
    (hflags : ∀ c ∈ flags, c ∈ RegexLiteral.knownFlags)
    (hrest : ∀ c ∈ rest.head?, c ∉ RegexLiteral.knownFlags) :
    read regexValue ('/' :: (source ++ '/' :: (flags ++ rest))) =
      some (regexOf source flags, rest) := by
  have hform := regexSourceForm_eq hbefore rfl hne hstar
  simp [regexValue, hform, regexFlagsForm_append hflags hrest]

theorem read_regexValue_text {after source flags : List Char} (hsource : SourceBefore after source)
    (hne : source ≠ []) (hstar : source.head? ≠ some '*')
    (hflags : ∀ c ∈ flags, c ∈ RegexLiteral.knownFlags) (hrest : AtEnd rest)
    (hstands : leavesOpen false source = true → classTail? rest = none) :
    read regexValue ('/' :: (source ++ '/' :: (flags ++ rest))) =
      some (regexOf source flags, rest) := by
  have hbefore : SourceBefore ('/' :: (flags ++ rest)) source := by
    refine hsource.before fun hopen => ?_
    rw [classTail?_cons (by decide), classTail?_flags hflags, hstands hopen]
    rfl
  exact read_regexValue_before hbefore hne hstar hflags hrest.notMem_knownFlags

theorem read_regexValue_written (h : r.IsWritable) (hrest : AtEnd rest)
    (hstands : r.Stands rest) :
    read regexValue (regexText r.source.toList r.flags.toList ++ rest) =
      some (.ok (.regex r), rest) := by
  obtain ⟨after, hsource⟩ := h.source
  have hregex : regexOf r.source.toList r.flags.toList = .ok (.regex r) := by
    rw [regexOf, String.ofList_toList, String.ofList_toList,
      RegexLiteral.ofSource_self h.flags]
    rfl
  have hread := read_regexValue_text hsource h.ne_nil h.star h.flags hrest hstands
  rw [hregex] at hread
  rw [h.text_eq, ← hread]
  simp

theorem read_regexValue_inv {text : List Char} {y : Literal}
    (h : read regexValue text = some (.ok y, rest)) :
    ∃ r : RegexLiteral, y = .regex r ∧ r.IsWritable ∧ r.Stands rest ∧
      text = regexText r.source.toList r.flags.toList ++ rest := by
  simp only [regexValue, read_rule, read_bind, Option.bind_eq_some_iff, Prod.exists, read_token,
    read_pure, Option.some.injEq, Prod.mk.injEq] at h
  obtain ⟨_, text₁, hslash, source, text₂, hsource, _, text₃, hslash', flags, text₄, hflags,
    hregex, rfl⟩ := h
  obtain ⟨hbefore, htext₁, hne, hstar⟩ := regexSourceForm_inv hsource
  have htext₃ := takeRun_splits _ _ _ _ hflags
  have hknown := mem_of_regexFlagsForm hflags
  rw [read_char_inv hslash, htext₁, read_char_inv hslash', htext₃]
  rw [read_char_inv hslash', htext₃] at hbefore
  rw [regexOf] at hregex
  cases hsourceOf : RegexLiteral.ofSource (String.ofList source) (String.ofList flags) with
  | error e =>
      rw [hsourceOf] at hregex
      cases hregex
  | ok r =>
      rw [hsourceOf] at hregex
      cases hregex
      obtain ⟨hrsource, hrflags⟩ := RegexLiteral.ofSource_eq_ok hsourceOf
      have hsrc : r.source.toList = source := by rw [hrsource, String.toList_ofList]
      have hfl : r.flags.toList = flags := by rw [hrflags, String.toList_ofList]
      have hwritable : r.IsWritable :=
        ⟨⟨_, hsrc ▸ hbefore⟩, hsrc ▸ hne, hsrc ▸ hstar, hfl ▸ hknown⟩
      refine ⟨r, rfl, hwritable, fun hopen => ?_, ?_⟩
      · have hnone := hbefore.classTail?_after (hsrc ▸ hopen)
        rw [classTail?_cons (by decide), classTail?_flags hknown] at hnone
        simpa using hnone
      · rw [hwritable.text_eq, hsrc, hfl]
        simp

end RuleBook.Notation
