import RuleBook.Proofs.Notation.Passage

/-!
# Containers

Members stand one after the other with a separator between them.  A container is read
when its first member, the members after separators and the closing bracket are.
-/

namespace RuleBook.Notation

open Reader Form

section

variable {α : Type} {opening closing : Char} {member : Reader α}

theorem read_nextMember_comma (member : Reader α) (text : List Char) :
    read (nextMember member) (',' :: text) = read member (skipLayout text) := by
  simp [nextMember, takeSeparator?_comma]

theorem read_nextMember_closing (h : closing = ']' ∨ closing = '\x7d') (member : Reader α)
    (text : List Char) : read (nextMember member) (closing :: text) = none := by
  simp [nextMember, takeSeparator?_closing h]

theorem read_many_closing (h : closing = ']' ∨ closing = '\x7d') (member : Reader α)
    (text : List Char) :
    read (many (nextMember member)) (closing :: text) = some ([], closing :: text) :=
  read_many_of_none (read_nextMember_closing h member text)

private theorem beginsNoLayout_closing (h : closing = ']' ∨ closing = '\x7d') :
    beginsNoLayout closing := by
  rcases h with rfl | rfl <;> decide

def afterMembers (text : List Char) : List Char := skipLayout ((takeTrailingComma? text).getD text)

theorem afterMembers_suffix (text : List Char) : afterMembers text <:+ text := by
  refine (skipLayout_suffix _).trans ?_
  cases h : takeTrailingComma? text with
  | none => exact List.suffix_refl _
  | some rest => exact takeTrailingComma?_suffix h

theorem afterMembers_closing (h : closing = ']' ∨ closing = '\x7d') (rest : List Char) :
    afterMembers (closing :: rest) = closing :: rest := by
  rw [afterMembers, takeTrailingComma?_closing h, Option.getD_none,
    skipLayout_cons (beginsNoLayout_closing h)]

theorem afterMembers_comma (rest : List Char) : afterMembers (',' :: rest) = skipLayout rest := by
  rw [afterMembers, takeTrailingComma?, skipInline_cons (by decide)]
  rfl

def memberList (member : Reader α) : Reader (List α) := do
  let first ← member
  let rest ← many (nextMember member)
  let _ ← optional (expect takeTrailingComma?)
  return first :: rest

theorem read_memberList (member : Reader α) (text : List Char) :
    read (memberList member) text = (read member text).bind fun first =>
      (read (many (nextMember member)) first.2).map fun more =>
        (first.1 :: more.1, (takeTrailingComma? more.2).getD more.2) := by
  rw [memberList, read_bind]
  congr 1
  funext first
  rw [read_bind]
  cases read (many (nextMember member)) first.2 with
  | none => rfl
  | some more => cases h : takeTrailingComma? more.2 <;> simp [h]

theorem read_members (opening closing : Char) (member : Reader α) (text : List Char) :
    read (members opening closing member) text = (read (char opening) text).bind fun inside =>
      let found := ((read (memberList member) (skipLayout inside.2)).map
        fun found => (some found.1, found.2)).getD (none, skipLayout inside.2)
      (read (char closing) (skipLayout found.2)).map fun rest => (found.1.getD [], rest.2) := by
  have hmembers : members opening closing member = (do
      char opening
      skip skipLayout
      let found ← Reader.optional (memberList member)
      skip skipLayout
      char closing
      return found.getD []) := rfl
  rw [hmembers, read_bind]
  congr 1
  funext inside
  rw [read_bind, read_skip, Option.bind_some, read_bind, read_optional, Option.bind_some,
    read_bind, read_skip, Option.bind_some, read_bind]
  dsimp only
  generalize ((read (memberList member) (skipLayout inside.2)).map _).getD _ = found
  cases read (char closing) (skipLayout found.2) <;> rfl

theorem read_members_nil (h : closing = ']' ∨ closing = '\x7d') {rest : List Char}
    (hmember : read member (closing :: rest) = none) :
    read (members opening closing member) (opening :: closing :: rest) = some ([], rest) := by
  have hskip := skipLayout_cons (beginsNoLayout_closing h) rest
  simp [read_members, read_memberList, hskip, hmember]

theorem read_many_comma (hleaves : Leaves member) {text after : List Char} {a : α}
    {as : List α} :
    read (many (nextMember member)) (',' :: ' ' :: text) = some (a :: as, after) ↔
      ∃ middle, read member (skipLayout text) = some (a, middle) ∧
        read (many (nextMember member)) middle = some (as, after) := by
  have hnext : read (nextMember member) (',' :: ' ' :: text) = read member (skipLayout text) := by
    rw [read_nextMember_comma, skipLayout_space]
  have hshort := shortens_nextMember hleaves
  constructor
  · intro h
    cases hfirst : read member (skipLayout text) with
    | none =>
        rw [read_many_of_none (hnext.trans hfirst)] at h
        cases h
    | some found =>
        rw [read_many_of_some hshort (hnext.trans hfirst)] at h
        obtain ⟨more, hmore, heq⟩ := Option.map_eq_some_iff.1 h
        cases heq
        exact ⟨found.2, rfl, hmore⟩
  · rintro ⟨middle, hfirst, hmore⟩
    rw [read_many_of_some hshort (hnext.trans hfirst), hmore]
    rfl

theorem read_many_behind (hleaves : Leaves member) {text middle after : List Char} {a : α}
    {found : List α} (hfirst : read member (skipLayout text) = some (a, middle))
    (h : read (many (nextMember member)) (',' :: ' ' :: text) = some (found, after)) :
    ∃ more, read (many (nextMember member)) middle = some (more, after) := by
  obtain ⟨⟨more, after'⟩, hmore⟩ :=
    Option.isSome_iff_exists.1 (read_many_isSome (nextMember member) middle)
  have hall := (read_many_comma hleaves).2 ⟨middle, hfirst, hmore⟩
  cases hall.symm.trans h
  exact ⟨more, hmore⟩

theorem read_members_inv {text rest : List Char} {found : List α}
    (h : read (members opening closing member) text = some (found, rest)) :
    ∃ inside, text = opening :: inside ∧
      ((found = [] ∧ read member (skipLayout inside) = none ∧
          skipLayout (skipLayout inside) = closing :: rest) ∨
        ∃ a as middle after, found = a :: as ∧
          read member (skipLayout inside) = some (a, middle) ∧
          read (many (nextMember member)) middle = some (as, after) ∧
          afterMembers after = closing :: rest) := by
  rw [read_members] at h
  obtain ⟨⟨u, inside⟩, hopening, h⟩ := Option.bind_eq_some_iff.1 h
  obtain ⟨⟨v, rest'⟩, hclosing, heq⟩ := Option.map_eq_some_iff.1 h
  have hclosing := read_char_inv hclosing
  refine ⟨inside, read_char_inv hopening, ?_⟩
  rw [read_memberList] at heq hclosing
  cases hfirst : read member (skipLayout inside) with
  | none =>
      rw [hfirst] at heq hclosing
      cases heq
      exact .inl ⟨rfl, rfl, hclosing⟩
  | some first =>
      obtain ⟨⟨as, after⟩, hmore⟩ :=
        Option.isSome_iff_exists.1 (read_many_isSome (nextMember member) first.2)
      rw [hfirst, Option.bind_some, hmore] at heq hclosing
      cases heq
      exact .inr ⟨first.1, as, first.2, after, rfl, rfl, hmore, hclosing⟩

theorem read_members_iff (hleaves : Leaves member) {text rest : List Char} {a : α} {as : List α} :
    read (members opening closing member) (opening :: text) = some (a :: as, rest) ↔
      ∃ after, read (many (nextMember member)) (',' :: ' ' :: text) = some (a :: as, after) ∧
        afterMembers after = closing :: rest := by
  constructor
  · intro h
    obtain ⟨inside, hinside, ⟨hnil, -⟩ | ⟨b, bs, middle, after, heq, hfirst, hmore, hclose⟩⟩ :=
      read_members_inv h
    · cases hnil
    · cases hinside
      cases heq
      exact ⟨after, (read_many_comma hleaves).2 ⟨middle, hfirst, hmore⟩, hclose⟩
  · rintro ⟨after, hmany, hclose⟩
    obtain ⟨middle, hfirst, hmore⟩ := (read_many_comma hleaves).1 hmany
    rw [afterMembers] at hclose
    simp [read_members, read_memberList, hfirst, hmore, hclose]

end

def memberKey : Reader (List Char) := orElse stringText (token bareKeyForm)

theorem isBareKeyRest_plain {c : Char} (h : isBareKeyRest c = true) :
    isBareKeyChar c = true ∧ c ≠ '"' ∧ c ≠ '\'' ∧ Text.isBlank c = false := by
  simp only [isBareKeyRest, Bool.and_eq_true, Bool.not_eq_eq_eq_not, Bool.not_true,
    List.contains_eq_mem, decide_eq_false_iff_not] at h
  obtain ⟨hblank, hmark⟩ := h
  have hne : ∀ d : Char, Text.isBlank d = true → c ≠ d := by
    rintro d hd rfl
    rw [hblank] at hd
    cases hd
  have hmark' : c ≠ ',' ∧ c ≠ ':' ∧ c ≠ '[' ∧ c ≠ ']' ∧ c ≠ '\x7b' ∧ c ≠ '\x7d' ∧ c ≠ '"' ∧
      c ≠ '\'' := by simpa using hmark
  refine ⟨?_, hmark'.2.2.2.2.2.2.1, hmark'.2.2.2.2.2.2.2, hblank⟩
  simp [isBareKeyChar, isLineBreak, hmark', hne ' ' rfl, hne '\t' rfl, hne '\n' rfl,
    hne '\r' rfl]

theorem isBareKey_cons {key : List Char} (h : isBareKey key = true) :
    ∃ c more, key = c :: more ∧ c ≠ '#' ∧ c ≠ '/' ∧ ∀ d ∈ key, isBareKeyRest d = true := by
  cases key with
  | nil => cases h
  | cons c more =>
      simp only [isBareKey, Bool.and_eq_true, bne_iff_ne, ne_eq, List.all_eq_true] at h
      obtain ⟨⟨⟨h1, h2⟩, h3⟩, h4⟩ := h
      exact ⟨c, more, rfl, h1, h2, fun d hd => (List.mem_cons.1 hd).elim (fun h => h ▸ h3) (h4 d)⟩

theorem beginsNoLayout_of_isBlank {c : Char} (h : Text.isBlank c = false) (hc : c ≠ '#' ∧ c ≠ '/') :
    beginsNoLayout c := by
  refine ⟨?_, ?_, ?_, ?_, hc.1, hc.2⟩ <;> rintro rfl <;> cases h

theorem keyText_cons (key : List Char) :
    ∃ c more, keyText key = c :: more ∧ beginsNoLayout c ∧ isInner c := by
  unfold keyText
  split
  · next h =>
    obtain ⟨c, more, rfl, h1, h2, hall⟩ := isBareKey_cons h
    obtain ⟨hchar, -, -, hblank⟩ := isBareKeyRest_plain (hall c (by simp))
    refine ⟨c, more, rfl, beginsNoLayout_of_isBlank hblank ⟨h1, h2⟩, ?_, ?_, ?_⟩ <;>
      rintro rfl <;> cases hchar
  · exact ⟨_, _, rfl, by decide, by decide⟩

theorem skipLayout_keyText (key text : List Char) :
    skipLayout (keyText key ++ text) = keyText key ++ text := by
  obtain ⟨c, more, hcons, hlayout, -⟩ := keyText_cons key
  rw [hcons]
  exact skipLayout_cons hlayout _

theorem read_memberKey_written (key text : List Char) :
    read memberKey (keyText key ++ ':' :: text) = some (key, ':' :: text) := by
  unfold keyText
  split
  · next h =>
    obtain ⟨c, more, hcons, -, -, hall⟩ := isBareKey_cons h
    have hform : bareKeyForm (key ++ ':' :: text) = some (key, ':' :: text) :=
      takeRun1?_append (by simp [hcons]) (fun d hd => (isBareKeyRest_plain (hall d hd)).1)
        (by simpa using show isBareKeyChar ':' = false from rfl)
    have hplain := isBareKeyRest_plain (hall c (by simp [hcons]))
    have hstring : read stringText (key ++ ':' :: text) = none := by
      rw [hcons]
      exact read_stringText_cons ⟨hplain.2.1, hplain.2.2.1⟩ _
    simp [memberKey, hstring, hform]
  · simp [memberKey, read_stringText_written]

theorem read_objectMember (inner : Reader Built) (text : List Char) :
    read (objectMember inner) text = (read memberKey text).bind fun key =>
      (read (char ':') (skipInline key.2)).bind fun colon =>
        (read inner (skipLayout colon.2)).map fun found => ((key.1, found.1), found.2) := by
  rw [objectMember, read_rule, read_bind]
  congr 1
  funext key
  rw [read_bind, read_skip, Option.bind_some, read_bind]
  congr 1
  funext colon
  rw [read_bind, read_skip, Option.bind_some, read_bind]
  dsimp only
  cases read inner (skipLayout colon.2) <;> rfl

theorem read_objectMember_inv {inner : Reader Built} {text key rest : List Char} {built : Built}
    (h : read (objectMember inner) text = some ((key, built), rest)) :
    ∃ after colon, read memberKey text = some (key, after) ∧ skipInline after = ':' :: colon ∧
      read inner (skipLayout colon) = some (built, rest) := by
  rw [read_objectMember] at h
  obtain ⟨⟨key', after⟩, hkey, h⟩ := Option.bind_eq_some_iff.1 h
  obtain ⟨⟨_, colon⟩, hcolon, h⟩ := Option.bind_eq_some_iff.1 h
  obtain ⟨⟨built', rest'⟩, hread, heq⟩ := Option.map_eq_some_iff.1 h
  simp only [Prod.mk.injEq] at heq
  obtain ⟨⟨rfl, rfl⟩, rfl⟩ := heq
  exact ⟨after, colon, hkey, read_char_inv hcolon, hread⟩

theorem read_objectMember_written (inner : Reader Built) (key text : List Char) :
    read (objectMember inner) (keyText key ++ ':' :: ' ' :: text) =
      (read inner (skipLayout text)).map fun found => ((key, found.1), found.2) := by
  rw [read_objectMember, read_memberKey_written, Option.bind_some,
    skipInline_cons (by decide), read_char_self, Option.bind_some, skipLayout_space]

theorem read_objectMember_closing (inner : Reader Built) (text : List Char) :
    read (objectMember inner) ('\x7d' :: text) = none := by
  have hkey : read memberKey ('\x7d' :: text) = none := by
    rw [memberKey, read_orElse, read_stringText_cons (by decide), read_token, bareKeyForm,
      takeRun1?_cons_none (by decide)]
    rfl
  rw [read_objectMember, hkey]
  rfl

theorem read_value_closing (fuel : Nat) (text : List Char) :
    read (value fuel) (']' :: text) = none := by
  cases fuel with
  | zero => rfl
  | succ fuel =>
      rw [read_value, read_extension_cons (by decide), read_relaxed_cons (by decide), Option.none_or,
        read_scalar_none (by simp [constantForm_cons_none]),
        read_scalar_none (by simp [read_number_cons, beginsNumber]), Option.none_or, Option.none_or,
        read_map, read_token, plainForm_cons (by decide)]
      rfl

private theorem read_relaxed_container {c : Char} (h : c = '[' ∨ c = '\x7b')
    (inner : Reader Built) (text : List Char) :
    read (relaxed inner) (c :: text) =
      (read (object inner) (c :: text)).or (read (array inner) (c :: text)) := by
  have hplain : (c ≠ '"' ∧ c ≠ '\'') ∧ (c ≠ 't' ∧ c ≠ 'f' ∧ c ≠ 'n') ∧ beginsNumber c = false ∧
      ":,\x7b\x7d[]\"\'".toList.contains c = true := by
    rcases h with rfl | rfl <;> decide
  obtain ⟨hstring, hconstant, hnumber, hplain⟩ := hplain
  simp [relaxed, firstOf, read_stringText_cons hstring, read_scalar, constantForm_cons_none hconstant,
    read_number_cons hnumber, plainForm_cons hplain]

theorem read_value_bracket (fuel : Nat) (text : List Char) :
    read (value (fuel + 1)) ('[' :: text) =
      (read (members '[' ']' (value fuel)) ('[' :: text)).map fun found =>
        (.sequence <$> collectItems found.1, found.2) := by
  rw [read_value, read_extension_cons (by decide), Option.none_or,
    read_relaxed_container (.inl rfl), read_object_cons (by decide), Option.none_or, array,
    read_rule, read_bind]
  cases read (members '[' ']' (value fuel)) ('[' :: text) <;> rfl

theorem read_value_brace (fuel : Nat) (text : List Char) :
    read (value (fuel + 1)) ('\x7b' :: text) =
      (read (members '\x7b' '\x7d' (objectMember (value fuel))) ('\x7b' :: text)).map fun found =>
        (Literal.ofEntries <$> collectEntries found.1, found.2) := by
  rw [read_value, read_extension_cons (by decide), Option.none_or,
    read_relaxed_container (.inr rfl), read_array_cons (by decide), Option.or_none, object,
    read_rule, read_bind]
  cases read (members '\x7b' '\x7d' (objectMember (value fuel))) ('\x7b' :: text) <;> rfl

end RuleBook.Notation
