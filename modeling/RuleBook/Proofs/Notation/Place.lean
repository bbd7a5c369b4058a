import RuleBook.Proofs.Literal.Equality
import RuleBook.Proofs.Notation.Cut
import RuleBook.Proofs.Text.Separator

/-!
# Tokens in written literals

Where a token stands in the text of a literal, the text before it is a beginning of that
text.  It reads as a literal only if it ends inside a regex literal, and then it never
reads as an equal one.
-/

namespace RuleBook.Notation

open Reader Literal Text

private theorem isBlank_of_isDigit {c : Char} (h : c.isDigit = true) : isBlank c = false :=
  (Instant.isDigit_plain h).1

private theorem writeItems_concat (items : List Literal) :
    ∃ more, writeItems items = more ++ [']'] := by
  induction items with
  | nil => exact ⟨[], rfl⟩
  | cons item items ih =>
      obtain ⟨more, hmore⟩ := ih
      exact ⟨',' :: ' ' :: (write item ++ more), by rw [writeItems_cons, hmore]; simp⟩

private theorem writeEntries_concat (entries : List (String × Literal)) :
    ∃ more, writeEntries entries = more ++ ['\x7d'] := by
  induction entries with
  | nil => exact ⟨[], rfl⟩
  | cons entry entries ih =>
      obtain ⟨more, hmore⟩ := ih
      exact ⟨',' :: ' ' :: (keyText entry.1.toList ++ ':' :: ' ' :: (write entry.2 ++ more)),
        by rw [writeEntries_cons, hmore]; simp⟩

private theorem isTrimmed_of_forall {s : List Char} (hne : s ≠ [])
    (h : ∀ c ∈ s, isBlank c = false) : IsTrimmed s := by
  obtain ⟨c, more, rfl⟩ := List.exists_cons_of_ne_nil hne
  refine ⟨⟨c, more, rfl, h c (by simp)⟩, ?_⟩
  have hsplit := List.dropLast_append_getLast hne
  exact ⟨_, _, hsplit.symm, h _ (List.getLast_mem hne)⟩

theorem isTrimmed_write {x : Literal} (hregular : x.Regular) : IsTrimmed (write x) := by
  have hscalar (hopen : ¬x.IsClosed) (hregex : ∀ r, x ≠ .regex r) : IsTrimmed (write x) := by
    obtain ⟨c, more, hcons, -⟩ := write_cons x
    exact isTrimmed_of_forall (by simp [hcons]) (forall_mem_write (P := fun c => isBlank c = false)
      (fun _ => isBlank_of_isDigit) (by decide) hregular hopen hregex)
  cases x with
  | null => exact hscalar id (by intro r h; cases h)
  | bool b => exact hscalar id (by intro r h; cases h)
  | number n => exact hscalar id (by intro r h; cases h)
  | date t => exact hscalar id (by intro r h; cases h)
  | binary bytes => exact hregular.elim
  | string s => exact ⟨⟨_, _, rfl, by decide⟩, _, _, rfl, by decide⟩
  | regex r =>
      have hr : r.IsWritable := hregular
      have hflags : ∀ c ∈ '/' :: r.flags.toList, isBlank c = false := by
        have hknown : ∀ c ∈ RegexLiteral.knownFlags, isBlank c = false := by decide
        exact List.forall_mem_cons.2 ⟨by decide, fun c hc => hknown c (hr.flags c hc)⟩
      obtain ⟨more, c, hsplit, hc⟩ := (isTrimmed_of_forall (List.cons_ne_nil _ _) hflags).last
      rw [hr.write_eq, hsplit]
      exact ⟨⟨_, _, rfl, by decide⟩, '/' :: (r.source.toList ++ more), c, by simp, hc⟩
  | sequence items =>
      cases items with
      | nil => exact ⟨⟨_, _, rfl, by decide⟩, ['['], _, rfl, by decide⟩
      | cons item items =>
          obtain ⟨more, hmore⟩ := writeItems_concat items
          exact ⟨⟨'[', _, rfl, by decide⟩, '[' :: (write item ++ more), ']',
            by rw [write_sequence_cons, hmore]; simp, by decide⟩
  | mapping entries =>
      cases entries with
      | nil => exact ⟨⟨_, _, rfl, by decide⟩, ['\x7b'], _, rfl, by decide⟩
      | cons entry entries =>
          obtain ⟨more, hmore⟩ := writeEntries_concat entries
          exact ⟨⟨'\x7b', _, write_mapping_cons _ _ _, by decide⟩, '\x7b' ::
            (keyText entry.1.toList ++ ':' :: ' ' :: (write entry.2 ++ more)), '\x7d',
            by rw [write_mapping_cons, hmore]; simp, by decide⟩

theorem parse_nil (y : Literal) : parse [] ≠ .ok y := nofun

def isForeign (c : Char) : Prop :=
  c.isDigit = false ∧ c ∉ "+-:.TZNaNinfnulltruefalse".toList ∧ c ∉ RegexLiteral.knownFlags

instance (c : Char) : Decidable (isForeign c) := inferInstanceAs (Decidable (_ ∧ _))

section

variable {x y : Literal} {token : List Char} {place : List Char × List Char}

theorem trim_place_isPrefix (hregular : x.Regular) (h : place ∈ occurrences token (write x)) :
    trim place.1 <+: place.1 ∧ place.1 <+: write x := by
  have hprefix : place.1 <+: write x := ⟨_, (mem_occurrences h).symm⟩
  rw [(isTrimmed_write hregular).trim_of_isPrefix hprefix]
  exact ⟨trimEnd_isPrefix _, hprefix⟩

/-- The text before a token reads as a literal only inside a regex literal.  Where the
whole text is that of a scalar, this takes a token that is not part of one. -/
theorem cutsRegex_of_parse (hregular : x.Regular) (hstands : x.Stands []) (htoken : IsToken token)
    (hforeign : x.IsClosed ∨ ∃ c ∈ token, isForeign c)
    (hplace : place ∈ occurrences token (write x)) (hparse : parse (trim place.1) = .ok y) :
    x.CutsRegex (trim place.1) := by
  have hwrite := mem_occurrences hplace
  obtain ⟨htrim, hprefix⟩ := trim_place_isPrefix hregular hplace
  by_contra hcut
  by_cases hclosed : x.IsClosed
  · refine parse_cut hregular hstands hclosed (htrim.trans hprefix) (fun heq => ?_) hcut hparse
    have hlength := congrArg List.length hwrite
    have hle := htrim.length_le
    have hpos := List.length_pos_iff.2 htoken.ne_nil
    rw [List.length_append, List.length_append] at hlength
    rw [heq] at hle
    omega
  obtain ⟨c, hc, hdigit, hmark, hflag⟩ := hforeign.resolve_left hclosed
  by_cases hregex : ∀ r, x ≠ .regex r
  · have hmem : c ∈ write x := by
      rw [hwrite]
      exact List.mem_append_right _ (List.mem_append_left _ hc)
    exact forall_mem_write (P := fun d => d ≠ c) (fun d hd heq => by simp [← heq, hd] at hdigit)
      (fun d hd heq => hmark (heq ▸ hd)) hregular hclosed hregex c hmem rfl
  · obtain ⟨r, hr⟩ := not_forall_not.1 hregex
    subst hr
    have hp := htrim.trans hprefix
    rw [← List.append_nil (write _)] at hp
    rcases cut_of_not_cutsRegex hregular hp hcut with hnil | ⟨q, hq, -⟩
    · rw [hnil] at hparse
      exact parse_nil y hparse
    · -- The token stands behind the slash that closes the source, among the flags.
      obtain ⟨more, hmore⟩ := htrim
      have hr : r.IsWritable := hregular
      rw [hr.write_eq, ← hmore, hq] at hwrite
      have hflags : r.flags.toList = q ++ (more ++ (token ++ place.2)) := by simpa using hwrite
      exact hflag (hr.flags c (by simp [hflags, hc]))

theorem beq_of_cutsRegex {p : List Char} (hregular : x.Regular) (hcut : x.CutsRegex p)
    (hparse : parse p = .ok y) : (y == x) = false := by
  rw [← Bool.not_eq_true]
  intro hbeq
  have hlt := marks_lt_of_cutsRegex hregular hcut
  have hwrite := marks_write_le x
  have hweight := weight_le_of_beq (regular_of_parse hparse).uniqueKeys hbeq
  have hread := weight_le_of_parse hparse
  omega

end

end RuleBook.Notation
