import RuleBook.Proofs.Notation.Reading
import RuleBook.Proofs.Notation.RoundTrip

/-!
# Marks

Slashes, closing brackets, and characters that are written as units, with the letter that
begins a unit, are marks.  Writing a literal makes no marks and reading one makes none
either, so a text that is read as a literal with all its marks is read in full.
-/

namespace RuleBook.Notation

open Reader Form Literal

/-! ## Marks of texts -/

def isMark (c : Char) : Bool :=
  c == '/' || c == ']' || c == '\x7d' || (escapeChar c).contains 'u'

def marks (text : List Char) : Nat := text.countP isMark

theorem marks_cons (c : Char) (text : List Char) :
    marks (c :: text) = marks [c] + marks text := by
  simp only [marks, List.countP_cons, List.countP_nil]
  omega

theorem marks_cons_pos {c : Char} (h : isMark c = true) (text : List Char) :
    marks (c :: text) = marks text + 1 := List.countP_cons_of_pos h

theorem marks_cons_neg {c : Char} (h : isMark c = false) (text : List Char) :
    marks (c :: text) = marks text := List.countP_cons_of_neg (by simp [h])

theorem marks_separator (text : List Char) : marks (',' :: ' ' :: text) = marks text := by
  rw [marks_cons_neg (by decide), marks_cons_neg (by decide)]

theorem marks_colon (text : List Char) : marks (':' :: ' ' :: text) = marks text := by
  rw [marks_cons_neg (by decide), marks_cons_neg (by decide)]

@[simp] theorem marks_append (s t : List Char) : marks (s ++ t) = marks s + marks t :=
  List.countP_append

theorem marks_le_of_sublist {s t : List Char} (h : s.Sublist t) : marks s ≤ marks t :=
  h.countP_le

theorem marks_eq_zero {text : List Char} (h : ∀ c ∈ text, isMark c = false) :
    marks text = 0 := by
  rw [marks, List.countP_eq_zero]
  simpa using h

theorem marks_singleton_le (c : Char) : marks [c] ≤ 1 := by
  rw [marks, List.countP_cons, List.countP_nil]
  split <;> omega

theorem isMark_of_isDigit {c : Char} (h : c.isDigit = true) : isMark c = false :=
  Text.forall_isDigit (P := fun c => isMark c = false) (by decide) h

/-! ## Marks of quoted texts -/

private theorem marks_hexText_unit {c : Char} (h : isUnitChar c = true) :
    marks (Text.hexText 4 c.toNat) = 0 := by
  have hcontrol : ∀ n : Fin 32, marks (Text.hexText 4 n) = 0 := by decide
  simp only [isUnitChar, Bool.or_eq_true, decide_eq_true_eq, beq_iff_eq] at h
  rcases h with (h | rfl) | rfl
  · exact hcontrol ⟨c.toNat, h⟩
  · decide
  · decide

theorem marks_escapeChar (c : Char) : marks (escapeChar c) = marks [c] := by
  by_cases hshort : c ∈ ['"', '\\', '\n', '\r', '\t']
  · have hall : ∀ d ∈ ['"', '\\', '\n', '\r', '\t'], marks (escapeChar d) = marks [d] := by decide
    exact hall c hshort
  · simp only [List.mem_cons, List.not_mem_nil, or_false, not_or] at hshort
    obtain ⟨h1, h2, h3, h4, h5⟩ := hshort
    by_cases hunit : isUnitChar c = true
    · have hescape : escapeChar c = '\\' :: 'u' :: Text.hexText 4 c.toNat := by
        rw [escapeChar, if_neg h1, if_neg h2, if_neg h3, if_neg h4, if_neg h5, if_pos]
        simpa [isUnitChar, or_assoc] using hunit
      have hmark : isMark c = true := by simp [isMark, hescape]
      have hone : marks ['\\'] = 0 ∧ marks ['u'] = 1 := by decide
      rw [hescape, marks_cons, marks_cons 'u', marks_hexText_unit hunit, hone.1, hone.2]
      simp [marks, hmark]
    · rw [escapeChar, if_neg h1, if_neg h2, if_neg h3, if_neg h4, if_neg h5, if_neg]
      simpa [isUnitChar, or_assoc] using hunit

theorem marks_flatMap_escapeChar (s : List Char) : marks (s.flatMap escapeChar) = marks s := by
  induction s with
  | nil => rfl
  | cons c s ih => rw [List.flatMap_cons, marks_append, marks_escapeChar, ih, ← marks_cons]

theorem marks_quote (s : List Char) : marks (quote s) = marks s := by
  have hquote : marks ['"'] = 0 := by decide
  rw [quote, List.cons_append, marks_cons, marks_append, marks_flatMap_escapeChar, hquote]
  omega

private theorem marks_escape? {text : List Char} {c : Char} {taken : Nat}
    (h : escape? text = some (c, taken)) : marks [c] ≤ marks (text.take taken) := by
  have hplain : ∀ d ∈ ['"', '\'', '\\', '\n', '\r', '\t'], marks [d] = 0 := by decide
  have hunit : marks ['u'] = 1 := by decide
  unfold escape? at h
  split at h
  · cases h
    exact Nat.le_trans (Nat.le_of_eq (hplain _ (by decide))) (Nat.zero_le _)
  · cases h
    exact Nat.le_trans (Nat.le_of_eq (hplain _ (by decide))) (Nat.zero_le _)
  · cases h
    exact Nat.le_trans (Nat.le_of_eq (hplain _ (by decide))) (Nat.zero_le _)
  · cases h
    exact Nat.le_refl _
  · cases h
    exact Nat.le_trans (Nat.le_of_eq (hplain _ (by decide))) (Nat.zero_le _)
  · cases h
    exact Nat.le_trans (Nat.le_of_eq (hplain _ (by decide))) (Nat.zero_le _)
  · cases h
    exact Nat.le_trans (Nat.le_of_eq (hplain _ (by decide))) (Nat.zero_le _)
  · obtain ⟨unit, -, heq⟩ := Option.map_eq_some_iff.1 h
    obtain ⟨k, rfl⟩ : ∃ k, taken = k + 1 := by
      split at heq
      · exact ⟨10, (Prod.mk.inj heq).2.symm⟩
      · exact ⟨4, (Prod.mk.inj heq).2.symm⟩
    rw [List.take_succ_cons, marks_cons 'u', hunit]
    exact Nat.le_trans (marks_singleton_le c) (Nat.le_add_right _ _)
  · cases h

private theorem marks_unescapeFrom (taken : Nat) (text : List Char) :
    marks (unescapeFrom taken text) ≤ marks (text.drop taken) := by
  fun_induction unescapeFrom taken text with
  | case1 => simp
  | case2 taken c text ih => simpa using ih
  | case3 text char taken hescape ih =>
      have hsplit := congrArg marks (List.take_append_drop taken text)
      rw [marks_append] at hsplit
      have hchar := marks_escape? hescape
      rw [List.drop_zero, marks_cons, marks_cons '\\']
      omega
  | case4 text hescape ih =>
      rw [List.drop_zero] at ih ⊢
      rw [marks_cons, marks_cons '\\' text]
      omega
  | case5 c text _ ih =>
      rw [List.drop_zero] at ih ⊢
      rw [marks_cons, marks_cons c text]
      omega

theorem marks_unescape_le (text : List Char) : marks (unescape text) ≤ marks text :=
  marks_unescapeFrom 0 text

end RuleBook.Notation

/-! ## Marks of literals -/

namespace RuleBook.Literal

open Notation

mutual

/-- The marks of keys, strings and regex literals, with one for every container. -/
def weight : Literal → Nat
  | .null => 1
  | .bool b => if b then 1 else 0
  | .string s => marks s.toList
  | .regex r => marks (regexText r.source.toList r.flags.toList)
  | .sequence items => itemsWeight items + 1
  | .mapping entries => entriesWeight entries + 1
  | _ => 0

def itemsWeight : List Literal → Nat
  | [] => 0
  | item :: items => item.weight + itemsWeight items

def entriesWeight : List (String × Literal) → Nat
  | [] => 0
  | (key, value) :: entries => marks key.toList + value.weight + entriesWeight entries

end

section

variable {key : String} {value old : Literal} {entries : List (String × Literal)}

theorem entriesWeight_insertEntry_le :
    entriesWeight (insertEntry key value entries) ≤
      entriesWeight entries + (marks key.toList + value.weight) := by
  induction entries with
  | nil => simp [insertEntry, entriesWeight]
  | cons entry entries ih =>
      obtain ⟨k, old⟩ := entry
      rw [insertEntry]
      split
      · next hk =>
        subst hk
        simp only [entriesWeight]
        omega
      · simp only [entriesWeight]
        omega

theorem entriesWeight_insertEntry_lost (h : lookup key entries = some old) :
    entriesWeight (insertEntry key value entries) + old.weight =
      entriesWeight entries + value.weight := by
  induction entries with
  | nil => cases h
  | cons entry entries ih =>
      obtain ⟨k, first⟩ := entry
      rw [insertEntry]
      rw [lookup] at h
      split
      · next hk =>
        rw [if_pos hk] at h
        cases h
        simp only [entriesWeight]
        omega
      · next hk =>
        rw [if_neg hk] at h
        have := ih h
        simp only [entriesWeight]
        omega

private theorem entriesWeight_foldl (entries kept : List (String × Literal)) :
    let all := entries.foldl (fun kept (key, value) => insertEntry key value kept) kept
    entriesWeight all ≤ entriesWeight kept + entriesWeight entries ∧
      (∀ key value, lookup key kept = some value ∨ (key, value) ∈ entries →
        lookup key all = some value ∨
          entriesWeight all + value.weight ≤ entriesWeight kept + entriesWeight entries) := by
  induction entries generalizing kept with
  | nil => exact ⟨by simp [entriesWeight], fun key value h => .inl (h.resolve_right (by simp))⟩
  | cons entry entries ih =>
      obtain ⟨key, value⟩ := entry
      obtain ⟨hweight, hfound⟩ := ih (insertEntry key value kept)
      have hle := @entriesWeight_insertEntry_le key value kept
      rw [List.foldl_cons]
      dsimp only at hweight hfound ⊢
      simp only [entriesWeight]
      refine ⟨by omega, fun key' value' h => ?_⟩
      rcases h with h | h
      · by_cases hkey : key' = key
        · subst hkey
          have hlost := @entriesWeight_insertEntry_lost key' value value' kept h
          exact .inr (by omega)
        · rcases hfound key' value' (.inl ((lookup_insertEntry_ne hkey).trans h)) with h | h
          · exact .inl h
          · exact .inr (by omega)
      · rcases List.mem_cons.1 h with h | h
        · cases h
          rcases hfound key value (.inl lookup_insertEntry_self) with h | h
          · exact .inl h
          · exact .inr (by omega)
        · rcases hfound key' value' (.inr h) with h | h
          · exact .inl h
          · exact .inr (by omega)

theorem weight_ofEntries_le (entries : List (String × Literal)) :
    (ofEntries entries).weight ≤ entriesWeight entries + 1 := by
  have h := (entriesWeight_foldl entries []).1
  rw [show entriesWeight [] = 0 from rfl, Nat.zero_add] at h
  exact Nat.succ_le_succ h

theorem get?_ofEntries_or (h : (key, value) ∈ entries) :
    (ofEntries entries).get? key = some value ∨
      (ofEntries entries).weight + value.weight ≤ entriesWeight entries + 1 := by
  rcases (entriesWeight_foldl entries []).2 key value (.inr h) with h | h
  · exact .inl h
  · rw [show entriesWeight [] = 0 from rfl, Nat.zero_add] at h
    refine .inr ?_
    rw [ofEntries, weight, Nat.add_right_comm]
    exact Nat.succ_le_succ h

end

end RuleBook.Literal

namespace RuleBook.Notation

open Reader Form Literal

/-! ## Writing makes no marks -/

private theorem marks_numberText (x : Float) : marks (numberText x) = 0 :=
  marks_eq_zero (forall_mem_numberText (fun _ => isMark_of_isDigit) (by decide) x)

private theorem marks_shortText (t : Instant) : marks t.shortText = 0 :=
  marks_eq_zero (forall_mem_shortText (fun _ => isMark_of_isDigit) (by decide) t)

private theorem marks_bytesText (bytes : List UInt8) : marks (bytesText bytes) = 0 := by
  have hbyte : ∀ n : Fin 256, marks (Text.hexText 2 n) = 0 := by decide +kernel
  rw [bytesText, marks_quote]
  induction bytes with
  | nil => rfl
  | cons byte bytes ih =>
      rw [List.flatMap_cons, marks_append, ih, hbyte ⟨byte.toNat, byte.toNat_lt⟩]

theorem marks_keyText (key : List Char) : marks (keyText key) = marks key := by
  unfold keyText
  split
  · rfl
  · exact marks_quote key

section

variable (item x : Literal) (items : List Literal) (key : String)
  (entries : List (String × Literal))

theorem marks_writeItems_cons :
    marks (writeItems (item :: items)) = marks (write item) + marks (writeItems items) := by
  rw [writeItems_cons, marks_separator, marks_append]

theorem marks_write_sequence :
    marks (write (.sequence (item :: items))) = marks (writeItems (item :: items)) := by
  rw [write_sequence_cons, writeItems_cons, marks_separator, marks_cons_neg (by decide)]

theorem marks_writeEntries_cons : marks (writeEntries ((key, x) :: entries)) =
    marks key.toList + (marks (write x) + marks (writeEntries entries)) := by
  rw [writeEntries_cons, marks_separator, marks_append, marks_keyText, marks_colon, marks_append]

theorem marks_write_mapping :
    marks (write (.mapping ((key, x) :: entries))) = marks (writeEntries ((key, x) :: entries)) := by
  rw [write_mapping_cons, writeEntries_cons, marks_separator, marks_cons_neg (by decide)]

end

mutual

theorem marks_write_le : ∀ x : Literal, marks (write x) ≤ x.weight
  | .null => by decide
  | .bool true => by decide
  | .bool false => by decide
  | .number x => Nat.le_of_eq (marks_numberText x)
  | .string s => Nat.le_of_eq (marks_quote s.toList)
  | .date t => Nat.le_of_eq (marks_shortText t)
  | .regex r => Nat.le_refl _
  | .binary bytes => Nat.le_of_eq (marks_bytesText bytes)
  | .sequence [] => by decide
  | .sequence (item :: items) => by
      rw [marks_write_sequence, weight]
      exact marks_writeItems_le (item :: items)
  | .mapping [] => by decide
  | .mapping ((key, x) :: entries) => by
      rw [marks_write_mapping, weight]
      exact marks_writeEntries_le ((key, x) :: entries)

theorem marks_writeItems_le : ∀ items : List Literal,
    marks (writeItems items) ≤ itemsWeight items + 1
  | [] => by decide
  | item :: items => by
      have hitem := marks_write_le item
      have hitems := marks_writeItems_le items
      rw [marks_writeItems_cons, itemsWeight]
      omega

theorem marks_writeEntries_le : ∀ entries : List (String × Literal),
    marks (writeEntries entries) ≤ entriesWeight entries + 1
  | [] => by decide
  | (key, x) :: entries => by
      have hx := marks_write_le x
      have hentries := marks_writeEntries_le entries
      rw [marks_writeEntries_cons, entriesWeight]
      omega

end

/-! ## Reading makes no marks -/

section

variable {α : Type}

/-- What is read and what is left have no more marks than the text. -/
def Pays (cost : α → Nat) (p : Reader α) : Prop :=
  ∀ text a rest, read p text = some (a, rest) → cost a + marks rest ≤ marks text

theorem marks_le_of_suffix {s t : List Char} (h : s <:+ t) : marks s ≤ marks t :=
  marks_le_of_sublist h.sublist

private theorem marks_char {c : Char} {text rest : List Char} {a : Unit}
    (h : read (char c) text = some (a, rest)) : marks [c] + marks rest ≤ marks text := by
  rw [read_char_inv h, marks_cons c rest]

theorem blockOf_sublist (text : List Char) : (blockOf text).Sublist text := by
  have hlast (text : List Char) :
      (if text.getLast? = some '\n' then text.dropLast else text).Sublist text := by
    split
    · exact List.dropLast_sublist text
    · exact List.Sublist.refl text
  dsimp only [blockOf]
  refine (hlast _).trans ?_
  split
  · exact List.sublist_cons_self _ _
  · exact List.Sublist.refl text

theorem marks_of_splits {f : Form} (hf : Splits f) {text a rest : List Char}
    (h : f text = some (a, rest)) : marks text = marks a + marks rest := by
  rw [hf _ _ _ h, marks_append]

theorem pays_quotedString (quote : Char) : Pays marks (quotedString quote) := by
  intro text s rest h
  simp only [quotedString, read_rule, read_bind, Option.bind_eq_some_iff, Prod.exists,
    read_token, read_pure, Option.some.injEq, Prod.mk.injEq] at h
  obtain ⟨_, inside, hopen, taken, after, hform, _, rest', hclose, rfl, rfl⟩ := h
  have h1 := marks_char hopen
  have h2 := marks_char hclose
  have h3 := marks_unescape_le taken
  have hsplit := congrArg marks (quotedForm_splits quote inside)
  rw [hform, marks_append] at hsplit
  dsimp only at hsplit
  omega

theorem pays_blockString : Pays marks blockString := by
  intro text s rest h
  simp only [blockString, read_rule, read_bind, Option.bind_eq_some_iff, Prod.exists,
    read_token, read_expect, Option.map_eq_some_iff, read_pure, Option.some.injEq,
    Prod.mk.injEq] at h
  obtain ⟨_, _, ⟨_, ⟨_, inside, hopen, rfl⟩, -, rfl⟩, taken, after, hform, _, rest',
    ⟨_, ⟨_, _, hclose, rfl⟩, -, rfl⟩, rfl, rfl⟩ := h
  have h1 := congrArg marks (word_inv hopen).2
  have h2 := congrArg marks (word_inv hclose).2
  have h3 := marks_le_of_sublist (blockOf_sublist taken)
  have hsplit := congrArg marks (blockForm_splits inside)
  rw [hform, marks_append] at hsplit
  rw [marks_append] at h1 h2
  dsimp only at hsplit h1 h2 ⊢
  omega

theorem pays_stringText : Pays marks stringText := by
  intro text s rest h
  simp only [stringText, firstOf, List.foldl_cons, List.foldl_nil, read_orElse,
    Option.or_eq_some_iff] at h
  rcases h with (h | ⟨-, h⟩) | ⟨-, h⟩
  · exact pays_blockString _ _ _ h
  · exact pays_quotedString _ _ _ _ h
  · exact pays_quotedString _ _ _ _ h

theorem pays_memberKey : Pays marks memberKey := by
  intro text key rest h
  rw [memberKey, read_orElse, Option.or_eq_some_iff] at h
  rcases h with h | ⟨-, h⟩
  · exact pays_stringText _ _ _ h
  · exact (marks_of_splits bareKeyForm_splits h).ge

variable {opening closing : Char} {member : Reader α} {cost : α → Nat}

theorem pays_many (hmember : Pays cost member) (hleaves : Leaves member) :
    Pays (fun as => (as.map cost).sum) (many (nextMember member)) := by
  intro text as rest h
  refine many_induction (shortens_nextMember hleaves)
    (motive := fun text as rest => (as.map cost).sum + marks rest ≤ marks text)
    (fun text _ => by simp) ?_ h
  intro text a middle as rest hnext _ ih
  rw [nextMember, read_bind] at hnext
  obtain ⟨⟨_, start⟩, hseparator, hfirst⟩ := Option.bind_eq_some_iff.1 hnext
  rw [read_expect] at hseparator
  obtain ⟨start', hseparator, heq⟩ := Option.map_eq_some_iff.1 hseparator
  cases heq
  have h1 := marks_le_of_suffix (takeSeparator?_suffix hseparator).1
  have h2 := hmember _ _ _ hfirst
  rw [List.map_cons, List.sum_cons]
  dsimp only at h2
  omega

theorem pays_members (hmember : Pays cost member) (hleaves : Leaves member) :
    Pays (fun as => (as.map cost).sum + marks [closing]) (members opening closing member) := by
  intro text found rest h
  obtain ⟨inside, rfl, ⟨rfl, -, hclose⟩ | ⟨a, as, middle, after, rfl, hfirst, hmore, hclose⟩⟩ :=
    read_members_inv h
  · have h1 := marks_le_of_suffix (skipLayout_suffix inside)
    have h2 := marks_le_of_suffix (skipLayout_suffix (skipLayout inside))
    rw [hclose, marks_cons] at h2
    rw [marks_cons opening]
    simp only [List.map_nil, List.sum_nil]
    omega
  · have h1 := marks_le_of_suffix (skipLayout_suffix inside)
    have h2 := hmember _ _ _ hfirst
    have h3 := pays_many hmember hleaves _ _ _ hmore
    have h4 := marks_le_of_suffix (afterMembers_suffix after)
    rw [hclose, marks_cons] at h4
    dsimp only at h3 ⊢
    rw [marks_cons opening, List.map_cons, List.sum_cons]
    omega

end

def builtWeight : Built → Nat
  | .ok x => x.weight
  | .error _ => 0

def memberWeight (member : List Char × Built) : Nat := marks member.1 + builtWeight member.2

theorem sum_builtWeight (items : List Literal) :
    ((items.map Except.ok).map builtWeight).sum = itemsWeight items := by
  induction items with
  | nil => rfl
  | cons item items ih =>
      rw [List.map_cons, List.map_cons, List.sum_cons, ih]
      rfl

theorem sum_memberWeight (entries : List (String × Literal)) :
    ((entries.map fun entry => (entry.1.toList, .ok entry.2)).map memberWeight).sum =
      entriesWeight entries := by
  induction entries with
  | nil => rfl
  | cons entry entries ih =>
      rw [List.map_cons, List.map_cons, List.sum_cons, ih]
      rfl

theorem pays_objectMember {inner : Reader Built} (h : Pays builtWeight inner) :
    Pays memberWeight (objectMember inner) := by
  rintro text ⟨key, built⟩ rest hread
  obtain ⟨after, colon, hkey, hcolon, hvalue⟩ := read_objectMember_inv hread
  have h1 := pays_memberKey _ _ _ hkey
  have h2 := marks_le_of_suffix (skipInline_suffix after)
  have h3 := marks_le_of_suffix (skipLayout_suffix colon)
  have h4 := h _ _ _ hvalue
  rw [hcolon, marks_cons] at h2
  rw [memberWeight]
  dsimp only
  omega

theorem constantForm_inv {text a rest : List Char} (h : constantForm text = some (a, rest)) :
    a = "true".toList ∨ a = "false".toList ∨ a = "null".toList := by
  simp only [constantForm, Form.orElse, Option.orElse_eq_orElse, Option.orElse_eq_or,
    Option.or_eq_some_iff] at h
  rcases h with h | ⟨-, h | ⟨-, h⟩⟩
  · exact .inl (word_inv h).1
  · exact .inr (.inl (word_inv h).1)
  · exact .inr (.inr (word_inv h).1)

theorem weight_plainOf_le (text : List Char) : (plainOf text).weight ≤ marks text := by
  rw [plainOf, weight, String.toList_ofList]
  exact marks_le_of_sublist (Text.trimEnd_isPrefix text).sublist

theorem weight_dateOf_le (text : List Char) : (dateOf text).weight ≤ marks text := by
  rw [dateOf]
  split
  · exact Nat.zero_le _
  · rw [weight, String.toList_ofList]

theorem weight_constantOf_le {text a rest : List Char}
    (h : constantForm text = some (a, rest)) : (constantOf a).weight ≤ marks a := by
  rcases constantForm_inv h with rfl | rfl | rfl <;> decide

theorem marks_le_of_readAs {fuel : Nat} {text rest : List Char} {x : Literal}
    (hinner : Pays builtWeight (value fuel)) (hrest : marks rest ≤ marks text)
    (h : ReadAs fuel text x rest) : x.weight + marks rest ≤ marks text := by
  cases h with
  | regex _ _ htext =>
      rw [htext, marks_append]
      exact Nat.le_refl _
  | number _ _ _ => simpa [weight] using hrest
  | @date a _ hdate =>
      have htext := marks_of_splits dateForm_takes.splits hdate
      have hweight := weight_dateOf_le a
      omega
  | @constant a _ hconstant =>
      have htext := marks_of_splits constantForm_takes.splits hconstant
      have hweight := weight_constantOf_le hconstant
      omega
  | string hstring =>
      have hpays := pays_stringText _ _ _ hstring
      rwa [weight, String.toList_ofList]
  | @plain a _ hplain =>
      have htext := marks_of_splits plainForm_splits hplain
      have hweight := weight_plainOf_le a
      omega
  | sequence hitems =>
      have hpays := pays_members hinner (leaves_value fuel) _ _ _ hitems
      have hclosing : marks [']'] = 1 := by decide
      dsimp only at hpays
      rwa [sum_builtWeight, hclosing] at hpays
  | @mapping entries _ hentries =>
      have hpays := pays_members (pays_objectMember hinner)
        (leaves_objectMember (leaves_value fuel)) _ _ _ hentries
      have hclosing : marks ['\x7d'] = 1 := by decide
      have hweight := weight_ofEntries_le entries
      dsimp only at hpays
      rw [sum_memberWeight, hclosing] at hpays
      omega

theorem pays_value (fuel : Nat) : Pays builtWeight (value fuel) := by
  induction fuel with
  | zero =>
      intro text built rest h
      cases h
  | succ fuel ih =>
      intro text built rest h
      have hrest := marks_le_of_suffix (leaves_value _ _ _ _ h)
      cases built with
      | error e => simpa [builtWeight] using hrest
      | ok x => exact marks_le_of_readAs ih hrest (readAs_of_read h)

/-- What a text denotes has no more marks than the text. -/
theorem weight_le_of_parse {text : List Char} {x : Literal} (h : parse text = .ok x) :
    x.weight ≤ marks text := by
  have hskip := marks_le_of_suffix (skipLayout_suffix text)
  rcases parse_ok_cases h with ⟨rest, hread, -⟩ | ⟨line, rest, hform, rfl⟩
  · have hpays : x.weight + marks rest ≤ marks (skipLayout text) := pays_value _ _ _ _ hread
    omega
  · have hline := weight_plainOf_le line
    have hsplit := marks_of_splits plainLineForm_splits hform
    omega

end RuleBook.Notation
