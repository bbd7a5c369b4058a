import RuleBook.Proofs.Notation.Regex

/-!
# Slashes in written regular expressions

A slash ends a regular expression unless it is escaped or stands in a class.  The writer
finds the slashes to protect in one pass and remembers two bits; the reader takes whole
classes at a time and goes back where one does not close.  Both are held here against the
places of the source, for which only the text before them is asked.
-/

namespace RuleBook.Notation

open Reader

def isEscaped (source : List Char) : Nat → Bool
  | 0 => false
  | i + 1 => source[i]? == some '\\' && !isEscaped source i

def HasUnescaped (source : List Char) (c : Char) (i : Nat) : Prop :=
  source[i]? = some c ∧ isEscaped source i = false

instance (source : List Char) (c : Char) (i : Nat) : Decidable (HasUnescaped source c i) :=
  inferInstanceAs (Decidable (_ ∧ _))

/-- A class opens before the place, and no bracket between the two closes it. -/
def IsInClass (source : List Char) (i : Nat) : Prop :=
  ∃ j < i, HasUnescaped source '[' j ∧ ∀ k < i, j < k → ¬HasUnescaped source ']' k

instance (source : List Char) (i : Nat) : Decidable (IsInClass source i) :=
  inferInstanceAs (Decidable (∃ j < i, _ ∧ ∀ k < i, _))

/-- Every bracket that opens a class has one behind it that can close it. -/
def ClosesClasses (source : List Char) : Prop :=
  ∀ i < source.length, HasUnescaped source '[' i → ¬IsInClass source i →
    ∃ j < source.length, i < j ∧ HasUnescaped source ']' j

instance (source : List Char) : Decidable (ClosesClasses source) :=
  inferInstanceAs (Decidable (∀ i < source.length, _ → _ → ∃ j < source.length, _))

def guardPlace (source : List Char) (place : Char × Nat) : List Char :=
  if HasUnescaped source '/' place.2 ∧ ¬IsInClass source place.2 then ['\\', place.1]
  else [place.1]

/-- The source with a backslash before each slash that is neither escaped nor in a class. -/
def guardSlashes (source : List Char) : List Char := source.zipIdx.flatMap (guardPlace source)

theorem guardSlashes_eq_self {source : List Char}
    (h : ∀ i, HasUnescaped source '/' i → IsInClass source i) : guardSlashes source = source := by
  have hplace : ∀ place ∈ source.zipIdx, guardPlace source place = [place.1] := by
    intro place _
    exact if_neg fun hslash => hslash.2 (h _ hslash.1)
  rw [guardSlashes, List.flatMap_congr hplace, ← List.map_eq_flatMap, List.zipIdx_map_fst]

section

variable {source : List Char} {c d : Char} {i : Nat}

theorem HasUnescaped.lt_length (h : HasUnescaped source c i) : i < source.length :=
  (List.getElem?_eq_some_iff.1 h.1).1

theorem HasUnescaped.unique (h : HasUnescaped source c i) (h' : HasUnescaped source d i) :
    c = d :=
  Option.some.inj (h.1.symm.trans h'.1)

theorem not_hasUnescaped (h : isEscaped source i = true) (c : Char) : ¬HasUnescaped source c i :=
  fun h' => by simp [h'.2] at h

theorem isEscaped_succ_of_isEscaped (h : isEscaped source i = true) :
    isEscaped source (i + 1) = false := by
  simp [isEscaped, h]

theorem HasUnescaped.isEscaped_succ (h : HasUnescaped source c i) :
    isEscaped source (i + 1) = decide (c = '\\') := by
  simp [isEscaped, h.1, h.2, Bool.beq_eq_decide_eq]

theorem exists_drop_eq_cons (h : i < source.length) :
    ∃ c ∈ source, source[i]? = some c ∧ source.drop i = c :: source.drop (i + 1) :=
  ⟨source[i], List.getElem_mem h, List.getElem?_eq_getElem h, List.drop_eq_getElem_cons h⟩

theorem not_isInClass_zero : ¬IsInClass source 0 := fun ⟨_, hj, _⟩ => absurd hj (Nat.not_lt_zero _)

theorem isInClass_succ :
    IsInClass source (i + 1) ↔
      HasUnescaped source '[' i ∨ (IsInClass source i ∧ ¬HasUnescaped source ']' i) := by
  constructor
  · rintro ⟨j, hj, hopen, hclose⟩
    rcases Nat.lt_succ_iff_lt_or_eq.1 hj with hj | rfl
    · exact .inr ⟨⟨j, hj, hopen, fun k hk => hclose k (by omega)⟩, hclose i (by omega) hj⟩
    · exact .inl hopen
  · rintro (hopen | ⟨⟨j, hj, hopen, hclose⟩, hlast⟩)
    · exact ⟨i, by omega, hopen, fun k hk hik => by omega⟩
    · refine ⟨j, by omega, hopen, fun k hk hjk => ?_⟩
      rcases Nat.lt_succ_iff_lt_or_eq.1 hk with hk | rfl
      · exact hclose k hk hjk
      · exact hlast

theorem isInClass_succ_of_isEscaped (h : isEscaped source i = true) :
    IsInClass source (i + 1) ↔ IsInClass source i := by
  simp [isInClass_succ, not_hasUnescaped h]

theorem HasUnescaped.isInClass_succ (h : HasUnescaped source c i) :
    IsInClass source (i + 1) ↔ c = '[' ∨ (IsInClass source i ∧ c ≠ ']') := by
  have hiff : ∀ d, HasUnescaped source d i ↔ c = d := fun d =>
    ⟨h.unique, fun heq => heq ▸ h⟩
  rw [Notation.isInClass_succ, hiff, hiff]

theorem protectSlashes_false_cons (inClass : Bool) (c : Char) (text : List Char) :
    protectSlashes false inClass (c :: text) =
      (if c = '/' ∧ inClass = false then ['\\', c] else [c]) ++
        protectSlashes (decide (c = '\\')) (decide (c = '[' ∨ (inClass = true ∧ c ≠ ']'))) text := by
  rw [protectSlashes]
  split_ifs <;> simp_all

/-- The two bits that the writer remembers are the escape and the class of its place. -/
theorem protectSlashes_drop (source : List Char) (i : Nat) :
    protectSlashes (isEscaped source i) (decide (IsInClass source i)) (source.drop i) =
      ((source.drop i).zipIdx i).flatMap (guardPlace source) := by
  induction htext : source.drop i generalizing i with
  | nil => simp [protectSlashes]
  | cons c text ih =>
      have hc : source[i]? = some c := by rw [← List.head?_drop, htext, List.head?_cons]
      have hnext : source.drop (i + 1) = text := by rw [← List.tail_drop, htext, List.tail_cons]
      rw [List.zipIdx_cons, List.flatMap_cons, ← ih (i + 1) hnext]
      cases hescaped : isEscaped source i with
      | true =>
          have hguard : guardPlace source (c, i) = [c] :=
            if_neg fun h => not_hasUnescaped hescaped '/' h.1
          rw [protectSlashes, hguard, isEscaped_succ_of_isEscaped hescaped,
            decide_eq_decide.2 (isInClass_succ_of_isEscaped hescaped)]
          rfl
      | false =>
          have hplace : HasUnescaped source c i := ⟨hc, hescaped⟩
          rw [protectSlashes_false_cons, hplace.isEscaped_succ]
          simp [hplace.isInClass_succ, guardPlace, HasUnescaped, hc, hescaped]

theorem protectSlashes_eq_guardSlashes (source : List Char) :
    protectSlashes false false source = guardSlashes source := by
  have h := protectSlashes_drop source 0
  rwa [decide_eq_false not_isInClass_zero, List.drop_zero] at h

theorem head?_guardSlashes (source : List Char) :
    (guardSlashes source).head? = source.head?.map fun c => if c = '/' then '\\' else c := by
  cases source with
  | nil => rfl
  | cons c source =>
      have hplace : HasUnescaped (c :: source) '/' 0 ↔ c = '/' := by
        simp [HasUnescaped, isEscaped]
      rw [guardSlashes, List.zipIdx_cons, List.flatMap_cons, guardPlace]
      by_cases hslash : c = '/'
      · rw [if_pos ⟨hplace.2 hslash, not_isInClass_zero⟩]
        simp [hslash]
      · rw [if_neg fun h => hslash (hplace.1 h.1)]
        simp [hslash]

theorem guardSlashes_ne_nil (h : source ≠ []) : guardSlashes source ≠ [] := by
  rw [ne_eq, ← List.head?_eq_none_iff, head?_guardSlashes]
  simpa using h

theorem head?_guardSlashes_ne (h : source.head? ≠ some '*') :
    (guardSlashes source).head? ≠ some '*' := by
  rw [head?_guardSlashes]
  simp only [ne_eq, Option.map_eq_some_iff, not_exists, not_and]
  intro c hc
  split_ifs
  · decide
  · exact fun heq => h (heq ▸ hc)

theorem classTail?_drop (hbreak : ∀ c ∈ source, isLineBreak c = false)
    (hescaped : isEscaped source i = false) {k : Nat} (hik : i ≤ k)
    (hk : HasUnescaped source ']' k) :
    ∃ tail j, classTail? (source.drop i) = some (tail, source.drop j) ∧ i < j ∧
      isEscaped source j = false ∧ ¬IsInClass source j := by
  induction hn : k - i using Nat.strongRecOn generalizing i with
  | _ n ih =>
      obtain ⟨c, hmem, hget, hdrop⟩ := exists_drop_eq_cons (Nat.lt_of_le_of_lt hik hk.lt_length)
      have hplace : HasUnescaped source c i := ⟨hget, hescaped⟩
      by_cases hclose : c = ']'
      · subst hclose
        refine ⟨[']'], i + 1, by rw [hdrop]; rfl, by omega, hplace.isEscaped_succ, ?_⟩
        simp [hplace.isInClass_succ]
      have hne : k ≠ i := fun heq => hclose (hplace.unique (heq ▸ hk))
      by_cases hslash : c = '\\'
      · -- The bracket is not the character that the backslash takes along.
        subst hslash
        have hnext : isEscaped source (i + 1) = true := hplace.isEscaped_succ
        have hne' : k ≠ i + 1 := fun heq => not_hasUnescaped hnext ']' (heq ▸ hk)
        obtain ⟨d, hd, -, hdrop'⟩ :=
          exists_drop_eq_cons (Nat.lt_of_le_of_lt (by omega : i + 1 ≤ k) hk.lt_length)
        obtain ⟨tail, j, htail, hj, hbehind⟩ := ih (k - (i + 2)) (by omega)
          (isEscaped_succ_of_isEscaped hnext) (by omega) rfl
        refine ⟨'\\' :: d :: tail, j, ?_, by omega, hbehind⟩
        rw [hdrop, hdrop', classTail?_escape (hbreak d hd), htail]
        rfl
      · obtain ⟨tail, j, htail, hj, hbehind⟩ := ih (k - (i + 1)) (by omega)
          (hplace.isEscaped_succ.trans (decide_eq_false hslash)) (by omega) rfl
        refine ⟨c :: tail, j, ?_, by omega, hbehind⟩
        rw [hdrop, classTail?_cons ⟨hclose, hslash, hbreak c hmem⟩, htail]
        rfl

theorem SourceBefore.guarded {after : List Char}
    (hc : c ≠ '[' ∧ c ≠ '\\' ∧ isLineBreak c = false) (h : SourceBefore after source) :
    SourceBefore after ((if c = '/' then ['\\', c] else [c]) ++ source) := by
  by_cases hslash : c = '/'
  · rw [if_pos hslash]
    exact .escape hc.2.2 h
  · rw [if_neg hslash]
    exact .plain ⟨hc.1, hslash, hc.2⟩ h

theorem sourceBefore_protectSlashes (hbreak : ∀ c ∈ source, isLineBreak c = false)
    (hlast : ¬HasUnescaped source '\\' (source.length - 1)) (hclasses : ClosesClasses source)
    (hescaped : isEscaped source i = false) (hclass : ¬IsInClass source i) (after : List Char) :
    SourceBefore after (protectSlashes false false (source.drop i)) := by
  -- On what is left of the source.  A part ends at a place that is neither escaped nor in
  -- a class again, so the next part begins there.
  induction hn : source.length - i using Nat.strongRecOn generalizing i with
  | _ n ih =>
      by_cases hi : source.length ≤ i
      · rw [List.drop_eq_nil_of_le hi]
        exact .nil
      rw [Nat.not_le] at hi
      obtain ⟨c, hmem, hget, hdrop⟩ := exists_drop_eq_cons hi
      have hplace : HasUnescaped source c i := ⟨hget, hescaped⟩
      by_cases hslash : c = '\\'
      · subst hslash
        have hnext : isEscaped source (i + 1) = true := hplace.isEscaped_succ
        have hi' : i + 1 < source.length := by
          by_contra hend
          exact hlast ((by omega : i = source.length - 1) ▸ hplace)
        obtain ⟨d, hd, -, hdrop'⟩ := exists_drop_eq_cons hi'
        rw [hdrop, hdrop', protectSlashes_escape]
        refine .escape (hbreak d hd) (ih (source.length - (i + 2)) (by omega)
          (isEscaped_succ_of_isEscaped hnext) ?_ rfl)
        rw [isInClass_succ_of_isEscaped hnext, hplace.isInClass_succ]
        simp [hclass]
      have hnext : isEscaped source (i + 1) = false :=
        hplace.isEscaped_succ.trans (decide_eq_false hslash)
      by_cases hopen : c = '['
      · -- The bracket that closes the class is in the source, so the class is one part.
        subst hopen
        obtain ⟨k, -, hik, hk⟩ := hclasses i hi hplace hclass
        obtain ⟨tail, j, htail, hj, hjescaped, hjclass⟩ :=
          classTail?_drop hbreak hnext (by omega : i + 1 ≤ k) hk
        rw [hdrop, protectSlashes_cons _ ⟨by decide, by decide⟩, if_pos rfl,
          classTail?_splits _ _ _ htail, (classTail?_local htail _).2.2]
        exact .closed (classTail?_local htail _).1
          (ih (source.length - j) (by omega) hjescaped hjclass rfl)
      have hnextClass : ¬IsInClass source (i + 1) := by
        simp [hplace.isInClass_succ, hopen, hclass]
      have hrest := ih (source.length - (i + 1)) (by omega) hnext hnextClass rfl
      rw [hdrop, protectSlashes_false_cons, decide_eq_false hslash,
        decide_eq_false (by simp [hopen])]
      simpa using hrest.guarded ⟨hopen, hslash, hbreak c hmem⟩

theorem sourceBefore_guardSlashes (hbreak : ∀ c ∈ source, isLineBreak c = false)
    (hlast : ¬HasUnescaped source '\\' (source.length - 1)) (hclasses : ClosesClasses source)
    (after : List Char) : SourceBefore after (guardSlashes source) := by
  rw [← protectSlashes_eq_guardSlashes]
  exact sourceBefore_protectSlashes hbreak hlast hclasses rfl not_isInClass_zero after

end

/-- A regular expression is read to its last flag, with a backslash more before each slash
that would have ended its source. -/
theorem read_regexValue_guardSlashes {r : RegexLiteral} {source flags : String}
    {rest : List Char} (hr : RegexLiteral.ofSource source flags = .ok r)
    (hne : source.toList ≠ []) (hbreak : ∀ c ∈ source.toList, isLineBreak c = false)
    (hstar : source.toList.head? ≠ some '*')
    (hlast : ¬HasUnescaped source.toList '\\' (source.toList.length - 1))
    (hclasses : ClosesClasses source.toList)
    (hrest : ∀ c ∈ rest.head?, c = ',' ∨ c = ']' ∨ c = '\x7d' ∨ isLineBreak c = true) :
    write (.regex r) = '/' :: (guardSlashes source.toList ++ '/' :: flags.toList) ∧
    regexSourceForm (guardSlashes source.toList ++ '/' :: (flags.toList ++ rest)) =
      some (guardSlashes source.toList, '/' :: (flags.toList ++ rest)) ∧
    regexFlagsForm (flags.toList ++ rest) = some (flags.toList, rest) ∧
    read regexValue (write (.regex r) ++ rest) =
      some (regexOf (guardSlashes source.toList) flags.toList, rest) ∧
    ((∀ i, HasUnescaped source.toList '/' i → IsInClass source.toList i) →
      guardSlashes source.toList = source.toList ∧
      read regexValue (write (.regex r) ++ rest) = some (.ok (.regex r), rest)) := by
  obtain ⟨hsource, hflags⟩ := RegexLiteral.ofSource_eq_ok hr
  have hknown := RegexLiteral.mem_knownFlags_of_ofSource hr
  have hends : ∀ c ∈ rest.head?, c ∉ RegexLiteral.knownFlags := by
    have hflag : ∀ c ∈ RegexLiteral.knownFlags,
        ¬(c = ',' ∨ c = ']' ∨ c = '\x7d' ∨ isLineBreak c = true) := by decide
    exact fun c hc hknown => hflag c hknown (hrest c hc)
  have hwrite : write (.regex r) = '/' :: (guardSlashes source.toList ++ '/' :: flags.toList) := by
    rw [write, hsource, hflags, regexText, if_neg hne, protectSlashes_eq_guardSlashes]
    rfl
  have hbefore := sourceBefore_guardSlashes hbreak hlast hclasses
  have hguarded := guardSlashes_ne_nil hne
  have hguardedStar := head?_guardSlashes_ne hstar
  have hread : read regexValue (write (.regex r) ++ rest) =
      some (regexOf (guardSlashes source.toList) flags.toList, rest) := by
    rw [hwrite, ← read_regexValue_before (hbefore _) hguarded hguardedStar hknown hends]
    simp
  refine ⟨hwrite, regexSourceForm_eq (hbefore _) rfl hguarded hguardedStar,
    regexFlagsForm_append hknown hends, hread, fun hslashes => ?_⟩
  have hself := guardSlashes_eq_self hslashes
  refine ⟨hself, ?_⟩
  rw [hread, hself, regexOf, String.ofList_toList, String.ofList_toList, hr]
  rfl

private theorem ofSet_slash : Regex.Form.ofSet (.single '/'.toNat) = .literal ['/'] := by
  have hset : (CharSet.single '/'.toNat).difference Regex.Form.surrogates =
      .single '/'.toNat := by
    rw [CharSet.difference, CharSet.intersection, CharSet.union, CharSet.ofRanges,
      List.mergeSort_of_pairwise (by decide)]
    rfl
  rw [Regex.Form.ofSet, hset]
  rfl

theorem read_regexValue_guardSlashes_class :
    (∃ r, RegexLiteral.ofSource "\\//[/]" "g" = .ok r ∧
      write (.regex r) = "/\\/\\/[/]/g".toList ∧
      read regexValue (write (.regex r) ++ [']']) =
        some (regexOf "\\/\\/[/]".toList ['g'], [']'])) ∧
    ∃ r, RegexLiteral.ofSource "[/]x" "" = .ok r ∧
      read regexValue (write (.regex r) ++ ['\n']) = some (.ok (.regex r), ['\n']) := by
  -- Sets are sorted on the way, so the class is put in by hand before the rest computes.
  constructor
  · have hcompile : Regex.compile? "\\//[/]".toList ['g'] =
        let form := Regex.Form.ofItems
          [.literal ['/'], .literal ['/'], .ofSet (.single '/'.toNat)]
        if form.fits then some ⟨form.toExpr⟩ else none := rfl
    rw [ofSet_slash] at hcompile
    let r : RegexLiteral := ⟨"\\//[/]", "g", _, hcompile⟩
    have hflags : ∀ c ∈ "g".toList, c ∈ RegexLiteral.knownFlags := by decide
    have hr : RegexLiteral.ofSource "\\//[/]" "g" = .ok r :=
      RegexLiteral.ofSource_self (r := r) hflags
    have hend : ∀ c ∈ [']'].head?, c = ',' ∨ c = ']' ∨ c = '\x7d' ∨ isLineBreak c = true := by
      simp
    obtain ⟨hwrite, -, -, hread, -⟩ := read_regexValue_guardSlashes hr
      (by decide) (by decide) (by decide) (by decide) (by decide) hend
    have hshown : guardSlashes "\\//[/]".toList = "\\/\\/[/]".toList := by decide
    rw [hshown] at hwrite hread
    exact ⟨r, hr, hwrite, hread⟩
  · have hcompile : Regex.compile? "[/]x".toList [] =
        let form := Regex.Form.ofItems [.ofSet (.single '/'.toNat), .literal ['x']]
        if form.fits then some ⟨form.toExpr⟩ else none := rfl
    rw [ofSet_slash] at hcompile
    let r : RegexLiteral := ⟨"[/]x", "", _, hcompile⟩
    have hflags : ∀ c ∈ "".toList, c ∈ RegexLiteral.knownFlags := by decide
    have hr : RegexLiteral.ofSource "[/]x" "" = .ok r :=
      RegexLiteral.ofSource_self (r := r) hflags
    have hend : ∀ c ∈ ['\n'].head?, c = ',' ∨ c = ']' ∨ c = '\x7d' ∨ isLineBreak c = true := by
      simp [isLineBreak]
    have hslashes : ∀ i, HasUnescaped "[/]x".toList '/' i → IsInClass "[/]x".toList i :=
      fun i hi => (by decide : ∀ i < 4, HasUnescaped "[/]x".toList '/' i →
        IsInClass "[/]x".toList i) i hi.lt_length hi
    obtain ⟨-, -, -, -, hself⟩ := read_regexValue_guardSlashes hr
      (by decide) (by decide) (by decide) (by decide) (by decide) hend
    exact ⟨r, hr, (hself hslashes).2⟩

end RuleBook.Notation
