import RuleBook.Proofs.Notation.Marks

/-!
# Texts that are cut

The text of a string, a sequence or a mapping ends with what closes it, so no beginning
of such a text is read, unless it ends inside a regex literal: the rest of that literal
is then missing, and what there is of it may be read as unquoted text.
-/

namespace RuleBook.Literal

open Notation

mutual

/-- Whether the beginning of a text ends inside a regex literal, before the slash that
closes it. -/
def CutsRegex : Literal → List Char → Prop
  | .regex r, p => p ≠ [] ∧ p <+: '/' :: r.source.toList
  | .sequence items, p => ∃ q, p = '[' :: q ∧ CutsRegexItems items (',' :: ' ' :: q)
  | .mapping entries, p => ∃ q, p = '\x7b' :: q ∧ CutsRegexEntries entries (',' :: ' ' :: q)
  | _, _ => False

def CutsRegexItems : List Literal → List Char → Prop
  | [], _ => False
  | item :: items, p =>
      ∃ q, p = ',' :: ' ' :: q ∧
        (item.CutsRegex q ∨ ∃ q', q = write item ++ q' ∧ CutsRegexItems items q')

def CutsRegexEntries : List (String × Literal) → List Char → Prop
  | [], _ => False
  | (key, value) :: entries, p =>
      ∃ q, p = ',' :: ' ' :: (keyText key.toList ++ ':' :: ' ' :: q) ∧
        (value.CutsRegex q ∨ ∃ q', q = write value ++ q' ∧ CutsRegexEntries entries q')

end

mutual

theorem Plain.not_cutsRegex : ∀ {x : Literal} {p : List Char}, x.Plain → ¬x.CutsRegex p
  | .null, _, _, h => h
  | .bool _, _, _, h => h
  | .number _, _, _, h => h
  | .string _, _, _, h => h
  | .date _, _, _, h => h
  | .sequence _, _, hplain, ⟨_, _, h⟩ => PlainItems.not_cutsRegex hplain h
  | .mapping _, _, hplain, ⟨_, _, h⟩ => PlainEntries.not_cutsRegex hplain.2 h

theorem PlainItems.not_cutsRegex : ∀ {items : List Literal} {p : List Char},
    PlainItems items → ¬CutsRegexItems items p
  | [], _, _, h => h
  | _ :: _, _, hplain, ⟨_, _, .inl h⟩ => hplain.1.not_cutsRegex h
  | _ :: _, _, hplain, ⟨_, _, .inr ⟨_, _, h⟩⟩ => PlainItems.not_cutsRegex hplain.2 h

theorem PlainEntries.not_cutsRegex : ∀ {entries : List (String × Literal)} {p : List Char},
    PlainEntries entries → ¬CutsRegexEntries entries p
  | [], _, _, h => h
  | _ :: _, _, hplain, ⟨_, _, .inl h⟩ => hplain.1.not_cutsRegex h
  | _ :: _, _, hplain, ⟨_, _, .inr ⟨_, _, h⟩⟩ => PlainEntries.not_cutsRegex hplain.2 h

end

def IsClosed : Literal → Prop
  | .string _ => True
  | .sequence _ => True
  | .mapping _ => True
  | _ => False

mutual

theorem Stands.of_isPrefix : ∀ {x : Literal} {rest p : List Char}, x.Stands rest → p <+: rest →
    x.Stands p
  | .null, _, _, _, _ => trivial
  | .bool _, _, _, _, _ => trivial
  | .number _, _, _, _, _ => trivial
  | .string _, _, _, _, _ => trivial
  | .date _, _, _, h, _ => h
  | .regex _, _, _, h, hp => RegexLiteral.Stands.of_isPrefix h hp
  | .sequence _, _, _, h, hp => StandsItems.of_isPrefix h hp
  | .mapping _, _, _, h, hp => StandsEntries.of_isPrefix h hp

theorem StandsItems.of_isPrefix : ∀ {items : List Literal} {rest p : List Char},
    StandsItems items rest → p <+: rest → StandsItems items p
  | [], _, _, _, _ => trivial
  | _ :: items, _, _, h, hp =>
      ⟨h.1.of_isPrefix ((List.prefix_append_right_inj (writeItems items)).2 hp),
        StandsItems.of_isPrefix h.2 hp⟩

theorem StandsEntries.of_isPrefix : ∀ {entries : List (String × Literal)} {rest p : List Char},
    StandsEntries entries rest → p <+: rest → StandsEntries entries p
  | [], _, _, _, _ => trivial
  | _ :: entries, _, _, h, hp =>
      ⟨h.1.of_isPrefix ((List.prefix_append_right_inj (writeEntries entries)).2 hp),
        StandsEntries.of_isPrefix h.2 hp⟩

end

end RuleBook.Literal

namespace RuleBook.Notation

open Reader Literal

/-! ## Marks of cut texts -/

theorem marks_le_of_isPrefix {p text : List Char} (h : p <+: text) : marks p ≤ marks text :=
  marks_le_of_sublist h.sublist

mutual

theorem marks_lt_of_cutsRegex : ∀ {x : Literal} {p : List Char}, x.Regular → x.CutsRegex p →
    marks p < marks (write x)
  | .null, _, _, h => h.elim
  | .bool _, _, _, h => h.elim
  | .number _, _, _, h => h.elim
  | .string _, _, _, h => h.elim
  | .date _, _, _, h => h.elim
  | .binary _, _, _, h => h.elim
  | .regex r, p, hregular, h => by
      have hr : r.IsWritable := hregular
      have hle := marks_le_of_isPrefix h.2
      rw [hr.write_eq, ← List.cons_append, marks_append]
      have hslash := marks_cons_pos (c := '/') (by decide) r.flags.toList
      omega
  | .sequence [], _, _, h => by
      obtain ⟨_, -, h⟩ := h
      exact h.elim
  | .sequence (item :: items), p, hregular, h => by
      obtain ⟨q, rfl, h⟩ := h
      have hlt := marks_lt_of_cutsRegexItems hregular h
      rw [marks_separator] at hlt
      rwa [marks_write_sequence, marks_cons_neg (by decide)]
  | .mapping [], _, _, h => by
      obtain ⟨_, -, h⟩ := h
      exact h.elim
  | .mapping ((key, x) :: entries), p, hregular, h => by
      obtain ⟨q, rfl, h⟩ := h
      have hlt := marks_lt_of_cutsRegexEntries hregular.2 h
      rw [marks_separator] at hlt
      rwa [marks_write_mapping, marks_cons_neg (by decide)]

theorem marks_lt_of_cutsRegexItems : ∀ {items : List Literal} {p : List Char},
    RegularItems items → CutsRegexItems items p → marks p < marks (writeItems items)
  | [], _, _, h => h.elim
  | item :: items, p, hregular, h => by
      obtain ⟨q, rfl, h⟩ := h
      rw [marks_writeItems_cons, marks_separator]
      rcases h with h | ⟨q', rfl, h⟩
      · have hlt := marks_lt_of_cutsRegex hregular.1 h
        omega
      · have hlt := marks_lt_of_cutsRegexItems hregular.2 h
        rw [marks_append]
        omega

theorem marks_lt_of_cutsRegexEntries : ∀ {entries : List (String × Literal)} {p : List Char},
    RegularEntries entries → CutsRegexEntries entries p → marks p < marks (writeEntries entries)
  | [], _, _, h => h.elim
  | (key, x) :: entries, p, hregular, h => by
      obtain ⟨q, rfl, h⟩ := h
      rw [marks_writeEntries_cons, marks_separator, marks_append, marks_keyText, marks_colon]
      rcases h with h | ⟨q', rfl, h⟩
      · have hlt := marks_lt_of_cutsRegex hregular.1 h
        omega
      · have hlt := marks_lt_of_cutsRegexEntries hregular.2 h
        rw [marks_append]
        omega

end

/-! ## What is left of a cut member -/

section

variable {text : List Char} (h : ∀ c ∈ text, isInert c)

include h

theorem takeSeparator?_inert : takeSeparator? text = none := by
  cases text with
  | nil => rfl
  | cons c text =>
      obtain ⟨⟨h1, h2, h3, h4, h5, h6⟩, hcomma, -, -⟩ := h c (by simp)
      rw [takeSeparator?, skipInline_cons ⟨h1, h2, h6⟩, takeBreak?_cons ⟨hcomma, h3, h4, h5, h6⟩]
      rfl

theorem read_many_inert {α : Type} (member : Reader α) :
    read (many (nextMember member)) text = some ([], text) :=
  read_many_of_none (by simp [nextMember, takeSeparator?_inert h])

theorem afterMembers_inert : afterMembers text = text := by
  cases text with
  | nil => rfl
  | cons c text =>
      obtain ⟨hlayout, hcomma, -, -⟩ := h c (by simp)
      have hnone : takeTrailingComma? (c :: text) = none := by
        rw [takeTrailingComma?, skipInline_cons ⟨hlayout.1, hlayout.2.1, hlayout.2.2.2.2.2⟩]
        split
        · next heq => exact absurd (List.cons.inj heq).1 hcomma
        · rfl
      rw [afterMembers, hnone, Option.getD_none, skipLayout_cons hlayout]

end

theorem afterMembers_ne_of_cut {α : Type} {member : Reader α} (hleaves : Leaves member)
    {text q after left : List Char} {found : List α} {closing : Char}
    (hclosing : closing = ']' ∨ closing = '\x7d') (hskip : skipLayout text = q)
    (hhead : ∀ c ∈ q.head?, isInner c)
    (hmember : ∀ a left, read member q = some (a, left) → ∀ c ∈ left, isInert c)
    (h : read (many (nextMember member)) (',' :: text) = some (found, after)) :
    afterMembers after ≠ closing :: left := by
  have hinner : ¬isInner closing := by rcases hclosing with rfl | rfl <;> decide
  have hnext := read_nextMember_comma member text
  rw [hskip] at hnext
  cases hread : read member q with
  | none =>
      rw [read_many_of_none (hnext.trans hread)] at h
      cases h
      rw [afterMembers_comma, hskip]
      rintro rfl
      exact hinner (hhead closing rfl)
  | some first =>
      have hinert := hmember first.1 first.2 hread
      rw [read_many_of_some (shortens_nextMember hleaves) (hnext.trans hread),
        read_many_inert hinert] at h
      cases h
      rw [afterMembers_inert hinert]
      intro heq
      exact hinner (hinert closing (heq ▸ List.mem_cons_self)).2

theorem read_members_of_cut {α : Type} {member : Reader α} (hleaves : Leaves member)
    {q : List Char} {opening closing : Char} (hclosing : closing = ']' ∨ closing = '\x7d')
    (hskip : skipLayout q = q) (hhead : ∀ c ∈ q.head?, isInner c)
    (h : ∀ found after left, read (many (nextMember member)) (',' :: ' ' :: q) = some (found, after) →
      afterMembers after ≠ closing :: left) :
    read (members opening closing member) (opening :: q) = none := by
  have hinner : ¬isInner closing := by rcases hclosing with rfl | rfl <;> decide
  cases hread : read (members opening closing member) (opening :: q) with
  | none => rfl
  | some result =>
      obtain ⟨inside, hinside, ⟨-, -, hclose⟩ | ⟨a, as, middle, after, -, hfirst, hmore, hclose⟩⟩ :=
        read_members_inv hread
      · cases hinside
        rw [hskip, hskip] at hclose
        exact absurd (hhead closing (by rw [hclose]; rfl)) hinner
      · cases hinside
        exact absurd hclose (h _ after _ ((read_many_comma hleaves).2 ⟨middle, hfirst, hmore⟩))

theorem afterMembers_ne_of_separator {α : Type} {member : Reader α} (hleaves : Leaves member)
    (hmember : read member [] = none) {p after left : List Char} {found : List α} {closing : Char}
    (hclosing : closing = ']' ∨ closing = '\x7d') (hp : p = [] ∨ p = [','])
    (h : read (many (nextMember member)) p = some (found, after)) :
    afterMembers after ≠ closing :: left := by
  rcases hp with rfl | rfl
  · cases (read_many_inert (by simp) _).symm.trans h
    nofun
  · refine afterMembers_ne_of_cut hleaves hclosing skipLayout_nil (by simp) (fun a left h' => ?_) h
    rw [hmember] at h'
    cases h'

theorem read_members_opening {α : Type} {member : Reader α} (hleaves : Leaves member)
    {opening closing : Char} (hclosing : closing = ']' ∨ closing = '\x7d')
    (hmember : read member [] = none) : read (members opening closing member) [opening] = none := by
  refine read_members_of_cut hleaves hclosing rfl (by simp) fun found after left h => ?_
  refine afterMembers_ne_of_cut hleaves hclosing (q := []) rfl (by simp) (fun a left h' => ?_) h
  rw [hmember] at h'
  cases h'

/-! ## How cut texts begin -/

theorem prefix_singleton {c : Char} {p : List Char} (h : p <+: [c]) (hne : p ≠ [c]) : p = [] := by
  cases p with
  | nil => rfl
  | cons d p =>
      obtain ⟨rfl, hp⟩ := List.cons_prefix_cons.1 h
      exact absurd (by rw [List.prefix_nil.1 hp]) hne

theorem prefix_pair_cases {c d : Char} {p text : List Char} (h : p <+: c :: d :: text) :
    p = [] ∨ p = [c] ∨ ∃ q, p = c :: d :: q ∧ q <+: text := by
  rcases p with _ | ⟨a, _ | ⟨b, q⟩⟩
  · exact .inl rfl
  · obtain ⟨rfl, -⟩ := List.cons_prefix_cons.1 h
    exact .inr (.inl rfl)
  · obtain ⟨rfl, hmore⟩ := List.cons_prefix_cons.1 h
    obtain ⟨rfl, hq⟩ := List.cons_prefix_cons.1 hmore
    exact .inr (.inr ⟨q, rfl, hq⟩)

section

variable {x : Literal} {p text : List Char}

theorem forall_mem_write {P : Char → Prop} (hdigit : ∀ c, c.isDigit = true → P c)
    (hmark : ∀ c ∈ "+-:.TZNaNinfnulltruefalse".toList, P c) (hregular : x.Regular)
    (hopen : ¬x.IsClosed) (hregex : ∀ r, x ≠ .regex r) : ∀ c ∈ write x, P c := by
  have hall (w : List Char) (hw : w ⊆ "+-:.TZNaNinfnulltruefalse".toList) : ∀ c ∈ w, P c :=
    fun c hc => hmark c (hw hc)
  cases x with
  | null => exact hall _ (by decide)
  | bool b => cases b <;> exact hall _ (by decide)
  | number x => exact forall_mem_numberText hdigit (hall _ (by decide)) x
  | string s => exact absurd trivial hopen
  | date t => exact forall_mem_shortText hdigit (hall _ (by decide)) t
  | regex r => exact absurd rfl (hregex r)
  | binary bytes => exact hregular.elim
  | sequence items => exact absurd trivial hopen
  | mapping entries => exact absurd trivial hopen

theorem head_of_cut (hp : p <+: write x ++ text) : ∀ c ∈ p.head?, isInner c := by
  obtain ⟨d, more, hcons, hd, -⟩ := write_cons x
  intro c hc
  obtain ⟨p', rfl⟩ := List.head?_eq_some_iff.1 hc
  rw [hcons, List.cons_append] at hp
  exact (List.cons_prefix_cons.1 hp).1 ▸ hd

theorem cut_of_not_cutsRegex {r : RegexLiteral} (hr : r.IsWritable)
    (hp : p <+: write (.regex r) ++ text) (hcut : ¬(Literal.regex r).CutsRegex p) :
    p = [] ∨ ∃ q, p = '/' :: (r.source.toList ++ '/' :: q) ∧ q <+: r.flags.toList ++ text := by
  by_cases hnil : p = []
  · exact .inl hnil
  rw [hr.write_eq, ← List.cons_append, List.append_assoc] at hp
  rcases prefix_append_cases hp with ⟨hp, -⟩ | ⟨q, rfl, hq⟩
  · exact absurd ⟨hnil, hp⟩ hcut
  · cases q with
    | nil => exact absurd ⟨hnil, by rw [List.append_nil]⟩ hcut
    | cons c q =>
        rw [List.cons_append] at hq
        obtain ⟨rfl, hflags⟩ := List.cons_prefix_cons.1 hq
        exact .inr ⟨q, rfl, hflags⟩

theorem skipLayout_cut (hregular : x.Regular) (hp : p <+: write x ++ text)
    (hcut : ¬x.CutsRegex p) : skipLayout p = p := by
  obtain ⟨c, more, hcons, -, hc | ⟨r, rfl⟩⟩ := write_cons x
  · cases p with
    | nil => rfl
    | cons d p =>
        rw [hcons, List.cons_append] at hp
        obtain ⟨rfl, -⟩ := List.cons_prefix_cons.1 hp
        exact skipLayout_cons hc p
  · rcases cut_of_not_cutsRegex hregular hp hcut with rfl | ⟨q, rfl, -⟩
    · rfl
    · exact skipLayout_source hregular _

end

/-! ## Cut keys -/

theorem read_objectMember_nil (inner : Reader Built) : read (objectMember inner) [] = none := rfl

theorem read_objectMember_of_notMem {inner : Reader Built} {text : List Char} (h : ':' ∉ text) :
    read (objectMember inner) text = none := by
  cases hread : read (objectMember inner) text with
  | none => rfl
  | some found =>
      obtain ⟨after, colon, hkey, hcolon, -⟩ := read_objectMember_inv hread
      have hafter : after <:+ text :=
        Moves.orElse leaves_stringText (leaves_of_splits bareKeyForm_splits) _ _ _ hkey
      have hsuffix := (skipInline_suffix after).trans hafter
      rw [hcolon] at hsuffix
      exact absurd (hsuffix.subset List.mem_cons_self) h

theorem read_objectMember_cut {inner : Reader Built} {key p : List Char} (hp : p <+: keyText key) :
    read (objectMember inner) p = none := by
  unfold keyText at hp
  split at hp
  · next h =>
    obtain ⟨-, -, -, -, -, hall⟩ := isBareKey_cons h
    refine read_objectMember_of_notMem fun hmem => ?_
    exact absurd (hall ':' (hp.subset hmem)) (by decide)
  · by_cases hwhole : p = quote key
    · have hkey : read memberKey p = some (key, []) := by
        have hstring := read_stringText_written key []
        rw [List.append_nil] at hstring
        rw [hwhole, memberKey, read_orElse, hstring]
        rfl
      rw [read_objectMember, hkey]
      rfl
    · have hkey : read memberKey p = none := by
        rw [memberKey, read_orElse, read_stringText_cut hp hwhole, Option.none_or, read_token]
        cases p with
        | nil => rfl
        | cons c p =>
            obtain ⟨rfl, -⟩ := List.cons_prefix_cons.1 hp
            rw [bareKeyForm]
            exact takeRun1?_cons_none (by decide) p
      rw [read_objectMember, hkey]
      rfl

theorem entry_cut_cases {inner : Reader Built} (hinner : read inner [] = none)
    {key p text : List Char} (hp : p <+: keyText key ++ ':' :: ' ' :: text) :
    read (objectMember inner) p = none ∨
      ∃ q, p = keyText key ++ ':' :: ' ' :: q ∧ q <+: text := by
  rcases prefix_append_cases hp with ⟨hp, -⟩ | ⟨q, rfl, hq⟩
  · exact .inl (read_objectMember_cut hp)
  · rcases prefix_pair_cases hq with rfl | rfl | ⟨q', rfl, hq'⟩
    · exact .inl (read_objectMember_cut (by rw [List.append_nil]))
    · left
      rw [read_objectMember, read_memberKey_written, Option.bind_some, skipInline_cons (by decide),
        read_char_self, Option.bind_some, skipLayout_nil, hinner]
      rfl
    · exact .inr ⟨q', rfl, hq'⟩

theorem keyText_cut {key p text : List Char} (hp : p <+: keyText key ++ text) :
    skipLayout p = p ∧ ∀ c ∈ p.head?, isInner c := by
  obtain ⟨c, more, hcons, hlayout, hinner⟩ := keyText_cons key
  cases p with
  | nil => exact ⟨rfl, by simp⟩
  | cons d p =>
      rw [hcons, List.cons_append] at hp
      obtain ⟨rfl, -⟩ := List.cons_prefix_cons.1 hp
      exact ⟨skipLayout_cons hlayout p, by simpa using hinner⟩

/-! ## Cut values -/

/-- Only a scalar is read from a beginning of its text, and the characters that are left then
do not end a member. -/
def IsReadCut (x : Literal) : Prop :=
  ∀ (fuel : Nat) (p left : List Char) (b : Built), p <+: write x → p ≠ write x →
    ¬x.CutsRegex p → p.length < fuel → read (value fuel) p = some (b, left) →
    ¬x.IsClosed ∧ ∀ c ∈ left, isInert c

def AreReadCut (items : List Literal) : Prop :=
  ∀ (fuel : Nat) (p after left : List Char) (found : List Built), p <+: writeItems items →
    p ≠ writeItems items → ¬CutsRegexItems items p → p.length ≤ fuel + 1 →
    read (many (nextMember (value fuel))) p = some (found, after) →
    afterMembers after ≠ ']' :: left

def EntriesAreReadCut (entries : List (String × Literal)) : Prop :=
  ∀ (fuel : Nat) (p after left : List Char) (found : List (List Char × Built)),
    p <+: writeEntries entries → p ≠ writeEntries entries → ¬CutsRegexEntries entries p →
    p.length ≤ fuel + 1 →
    read (many (nextMember (objectMember (value fuel)))) p = some (found, after) →
    afterMembers after ≠ '\x7d' :: left

section

variable {key : String} {item x : Literal} {items : List Literal}
  {entries : List (String × Literal)}

namespace IsReadCut

theorem scalar (hregular : x.Regular) (hopen : ¬x.IsClosed) (hregex : ∀ r, x ≠ .regex r) :
    IsReadCut x := by
  intro fuel p left b hp _ _ _ h
  have hall := forall_mem_write (P := isInert) (fun _ => isInert_of_isDigit) (by decide)
    hregular hopen hregex
  have hleft := leaves_value fuel _ _ _ h
  exact ⟨hopen, fun c hc => hall c (hp.subset (hleft.subset hc))⟩

theorem string (s : String) : IsReadCut (.string s) := by
  intro fuel p left b hp hne _ hfuel h
  obtain ⟨fuel, rfl⟩ := Nat.exists_eq_add_one_of_ne_zero (Nat.ne_zero_of_lt hfuel)
  have hcut := read_stringText_cut hp hne
  cases p with
  | nil => cases h
  | cons c p =>
      obtain ⟨rfl, -⟩ := List.cons_prefix_cons.1 hp
      rw [read_value_string, hcut] at h
      cases h

theorem regex {r : RegexLiteral} (hr : r.IsWritable) : IsReadCut (.regex r) := by
  intro fuel p left b hp _ hcut hfuel h
  obtain ⟨fuel, rfl⟩ := Nat.exists_eq_add_one_of_ne_zero (Nat.ne_zero_of_lt hfuel)
  obtain ⟨after, hsource⟩ := hr.source
  rw [← List.append_nil (write _)] at hp
  rcases cut_of_not_cutsRegex hr hp hcut with rfl | ⟨q, rfl, hq⟩
  · cases h
  · rw [List.append_nil] at hq
    have hregex := read_regexValue_text hsource hr.ne_nil hr.star
      (fun c hc => hr.flags c (hq.subset hc)) atEnd_nil fun _ => rfl
    rw [List.append_nil] at hregex
    have hread := read_scalar_some hregex atEnd_nil.mayEnd
    rw [read_value] at h
    simp only [extension, firstOf, List.foldl_cons, List.foldl_nil, read_orElse, hread,
      Option.some_or] at h
    cases h
    exact ⟨id, by simp⟩

theorem sequence (hregular : RegularItems items) (hitems : AreReadCut items) :
    IsReadCut (.sequence items) := by
  intro fuel p left b hp hne hcut hfuel h
  obtain ⟨fuel, rfl⟩ := Nat.exists_eq_add_one_of_ne_zero (Nat.ne_zero_of_lt hfuel)
  cases items with
  | nil =>
      rcases prefix_pair_cases hp with rfl | rfl | ⟨q, rfl, hq⟩
      · cases h
      · rw [read_value_bracket, read_members_opening (leaves_value fuel) (.inl rfl)
          (read_value_nil fuel)] at h
        cases h
      · exact absurd (by rw [List.prefix_nil.1 hq]; rfl) hne
  | cons item items =>
      rw [write_sequence_cons] at hp hne
      cases p with
      | nil => cases h
      | cons c q =>
          obtain ⟨rfl, hq⟩ := List.cons_prefix_cons.1 hp
          have hitem : ¬item.CutsRegex q := fun hitem => hcut ⟨q, rfl, q, rfl, .inl hitem⟩
          have hopen : ∀ found after left,
              read (many (nextMember (value fuel))) (',' :: ' ' :: q) = some (found, after) →
                afterMembers after ≠ ']' :: left := fun found after left =>
            hitems fuel _ after left found (by simpa [writeItems_cons] using hq)
              (by simpa [writeItems_cons] using hne) (fun hitems => hcut ⟨q, rfl, hitems⟩)
              (by simpa using hfuel)
          rw [read_value_bracket, read_members_of_cut (leaves_value fuel) (.inl rfl)
            (skipLayout_cut hregular.1 hq hitem) (head_of_cut hq) hopen] at h
          cases h

theorem mapping (hentries : EntriesAreReadCut entries) : IsReadCut (.mapping entries) := by
  intro fuel p left b hp hne hcut hfuel h
  obtain ⟨fuel, rfl⟩ := Nat.exists_eq_add_one_of_ne_zero (Nat.ne_zero_of_lt hfuel)
  have hleaves := leaves_objectMember (leaves_value fuel)
  cases entries with
  | nil =>
      rcases prefix_pair_cases hp with rfl | rfl | ⟨q, rfl, hq⟩
      · cases h
      · rw [read_value_brace, read_members_opening hleaves (.inr rfl) (read_objectMember_nil _)] at h
        cases h
      · exact absurd (by rw [List.prefix_nil.1 hq]; rfl) hne
  | cons entry entries =>
      obtain ⟨key, x⟩ := entry
      rw [write_mapping_cons] at hp hne
      cases p with
      | nil => cases h
      | cons c q =>
          obtain ⟨rfl, hq⟩ := List.cons_prefix_cons.1 hp
          obtain ⟨hskip, hhead⟩ := keyText_cut hq
          have hopen : ∀ found after left,
              read (many (nextMember (objectMember (value fuel)))) (',' :: ' ' :: q) =
                some (found, after) → afterMembers after ≠ '\x7d' :: left := fun found after left =>
            hentries fuel _ after left found (by simpa [writeEntries_cons] using hq)
              (by simpa [writeEntries_cons] using hne) (fun hentries => hcut ⟨q, rfl, hentries⟩)
              (by simpa using hfuel)
          rw [read_value_brace, read_members_of_cut hleaves (.inr rfl) hskip hhead hopen] at h
          cases h

end IsReadCut

theorem AreReadCut.nil : AreReadCut [] := fun _ _ _ _ _ hp hne _ _ h =>
  afterMembers_ne_of_separator (leaves_value _) (read_value_nil _) (.inl rfl)
    (.inl (prefix_singleton hp hne)) h

theorem AreReadCut.cons (hregular : item.Regular) (hstands : item.Stands (writeItems items))
    (hitem : IsReadCut item) (hitems : AreReadCut items) : AreReadCut (item :: items) := by
  intro fuel p after left found hp hne hcut hfuel h
  have hleaves := leaves_value fuel
  rw [writeItems_cons] at hp hne
  rcases prefix_pair_cases hp with hnil | hcomma | ⟨q, rfl, hq⟩
  · exact afterMembers_ne_of_separator hleaves (read_value_nil fuel) (.inl rfl) (.inl hnil) h
  · exact afterMembers_ne_of_separator hleaves (read_value_nil fuel) (.inl rfl) (.inr hcomma) h
  · have hregex : ¬item.CutsRegex q := fun hregex => hcut ⟨q, rfl, .inl hregex⟩
    have hskip := skipLayout_cut hregular hq hregex
    rw [List.length_cons, List.length_cons] at hfuel
    -- The text ends in this item or in one behind it.
    rcases prefix_append_cases hq with ⟨hq', hne'⟩ | ⟨q', rfl, hq'⟩
    · refine afterMembers_ne_of_cut hleaves (.inl rfl) ((skipLayout_space q).trans hskip)
        (head_of_cut hq) (fun a left' h' => ?_) h
      exact (hitem fuel q left' a hq' hne' hregex (by omega) h').2
    · rw [List.length_append] at hfuel
      have hwhole := read_value_write item fuel q' hregular (hstands.of_isPrefix hq')
        ((atEnd_writeItems items []).of_isPrefix (by rwa [List.append_nil])) (by omega)
      rw [← hskip] at hwhole
      obtain ⟨more, hmore⟩ := read_many_behind hleaves hwhole h
      exact hitems fuel q' after left more hq' (fun heq => hne (by rw [heq]))
        (fun hregex => hcut ⟨_, rfl, .inr ⟨q', rfl, hregex⟩⟩) (by omega) hmore

theorem EntriesAreReadCut.nil : EntriesAreReadCut [] := fun _ _ _ _ _ hp hne _ _ h =>
  afterMembers_ne_of_separator (leaves_objectMember (leaves_value _)) (read_objectMember_nil _)
    (.inr rfl) (.inl (prefix_singleton hp hne)) h

theorem EntriesAreReadCut.cons (hregular : x.Regular) (hstands : x.Stands (writeEntries entries))
    (hx : IsReadCut x) (hentries : EntriesAreReadCut entries) :
    EntriesAreReadCut ((key, x) :: entries) := by
  intro fuel p after left found hp hne hcut hfuel h
  have hleaves := leaves_objectMember (leaves_value fuel)
  have hnil := read_objectMember_nil (value fuel)
  rw [writeEntries_cons] at hp hne
  rcases prefix_pair_cases hp with hp | hp | ⟨q, rfl, hq⟩
  · exact afterMembers_ne_of_separator hleaves hnil (.inr rfl) (.inl hp) h
  · exact afterMembers_ne_of_separator hleaves hnil (.inr rfl) (.inr hp) h
  · obtain ⟨hskip, hhead⟩ := keyText_cut hq
    -- The text ends before the value of this entry, in the value, or in an entry behind it.
    rcases entry_cut_cases (read_value_nil fuel) hq with hnone | ⟨q, rfl, hvalue⟩
    · refine afterMembers_ne_of_cut hleaves (.inr rfl) ((skipLayout_space q).trans hskip) hhead
        (fun a left h' => ?_) h
      rw [hnone] at h'
      cases h'
    · have hregex : ¬x.CutsRegex q := fun hregex => hcut ⟨q, rfl, .inl hregex⟩
      have hentry := read_objectMember_written (value fuel) key.toList q
      rw [skipLayout_cut hregular hvalue hregex] at hentry
      simp only [List.length_cons, List.length_append] at hfuel
      rcases prefix_append_cases hvalue with ⟨hq', hne'⟩ | ⟨q', rfl, hq'⟩
      · refine afterMembers_ne_of_cut hleaves (.inr rfl) ((skipLayout_space _).trans hskip) hhead
          (fun a left' h' => ?_) h
        rw [hentry] at h'
        obtain ⟨⟨b, left''⟩, hread, heq⟩ := Option.map_eq_some_iff.1 h'
        cases heq
        exact (hx fuel q _ b hq' hne' hregex (by omega) hread).2
      · rw [List.length_append] at hfuel
        have hwhole := read_value_write x fuel q' hregular (hstands.of_isPrefix hq')
          ((atEnd_writeEntries entries []).of_isPrefix (by rwa [List.append_nil])) (by omega)
        rw [hwhole, Option.map_some, ← hskip] at hentry
        obtain ⟨more, hmore⟩ := read_many_behind hleaves hentry h
        exact hentries fuel q' after left more hq' (fun heq => hne (by rw [heq]))
          (fun hregex => hcut ⟨_, rfl, .inr ⟨q', rfl, hregex⟩⟩) (by omega) hmore

end

theorem isReadCut (x : Literal) : x.Regular → x.Stands [] → IsReadCut x := by
  induction x using inductionOnMembers with
  | null => exact fun hregular _ => .scalar hregular id fun _ => nofun
  | bool b => exact fun hregular _ => .scalar hregular id fun _ => nofun
  | number n => exact fun hregular _ => .scalar hregular id fun _ => nofun
  | string s => exact fun _ _ => .string s
  | date t => exact fun hregular _ => .scalar hregular id fun _ => nofun
  | regex r => exact fun hregular _ => .regex hregular
  | binary bytes => exact fun hregular _ => hregular.elim
  | sequence items ih =>
      intro hregular hstands
      refine .sequence hregular ?_
      induction items with
      | nil => exact .nil
      | cons item items ihItems =>
          obtain ⟨hitem, hitems⟩ := List.forall_mem_cons.1 ih
          obtain ⟨hregularItem, hregularItems⟩ := hregular
          obtain ⟨hstandsItem, hstandsItems⟩ := hstands
          rw [List.append_nil] at hstandsItem
          exact .cons hregularItem hstandsItem
            (hitem hregularItem (hstandsItem.of_isPrefix List.nil_prefix))
            (ihItems hitems hregularItems hstandsItems)
  | mapping entries ih =>
      rintro ⟨-, hregular⟩ hstands
      refine .mapping ?_
      induction entries with
      | nil => exact .nil
      | cons entry entries ihEntries =>
          obtain ⟨hx, hentries⟩ := List.forall_mem_cons.1 ih
          obtain ⟨hregularValue, hregularEntries⟩ := hregular
          obtain ⟨hstandsValue, hstandsEntries⟩ := hstands
          rw [List.append_nil] at hstandsValue
          exact .cons hregularValue hstandsValue
            (hx hregularValue (hstandsValue.of_isPrefix List.nil_prefix))
            (ihEntries hentries hregularEntries hstandsEntries)

theorem write_closed_cons {x : Literal} (h : x.IsClosed) :
    ∃ c more, write x = c :: more ∧ (c = '"' ∨ c = '[' ∨ c = '\x7b') := by
  cases x with
  | string s => exact ⟨_, _, rfl, .inl rfl⟩
  | sequence items => cases items <;> exact ⟨_, _, rfl, .inr (.inl rfl)⟩
  | mapping entries => cases entries <;> exact ⟨_, _, rfl, .inr (.inr rfl)⟩
  | _ => exact h.elim

theorem plainLineForm_cut {x : Literal} {p : List Char} (hclosed : x.IsClosed)
    (hp : p <+: write x) : plainLineForm p = none := by
  cases p with
  | nil => rfl
  | cons c p =>
      obtain ⟨d, more, hcons, hd⟩ := write_closed_cons hclosed
      rw [hcons] at hp
      obtain ⟨rfl, -⟩ := List.cons_prefix_cons.1 hp
      rcases hd with rfl | rfl | rfl <;> rfl

/-- The text of a string, a sequence or a mapping has no beginning that reads as a
literal, but for those that end inside a regex literal. -/
theorem parse_cut {x y : Literal} {p : List Char} (hregular : x.Regular) (hstands : x.Stands [])
    (hclosed : x.IsClosed) (hp : p <+: write x) (hne : p ≠ write x) (hcut : ¬x.CutsRegex p) :
    parse p ≠ .ok y := by
  intro h
  have hskip : skipLayout p = p :=
    skipLayout_cut hregular (hp.trans (List.prefix_append (write x) [])) hcut
  rcases parse_ok_cases h with ⟨rest, hread, -⟩ | ⟨line, rest, hform, -⟩
  · rw [hskip] at hread
    exact (isReadCut x hregular hstands _ p rest (.ok y) hp hne hcut (Nat.lt_succ_self _)
      hread).1 hclosed
  · rw [hskip, plainLineForm_cut hclosed hp] at hform
    cases hform

end RuleBook.Notation
