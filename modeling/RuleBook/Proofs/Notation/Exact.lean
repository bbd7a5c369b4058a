import RuleBook.Proofs.Literal.Equality

/-!
# Reading exactly what was written

When the text of a literal is read as an equal literal without losing a mark, every
member is read from its own text.  So the literal stands, and it is the one that is
read, with its entries in their order.
-/

namespace RuleBook.Notation

open Reader Literal

variable {fuel : Nat} {text rest left : List Char} {x y : Literal}

/-! ## Scalars that do not stand -/

theorem skipLayout_of_marks_le (h : marks ('/' :: text) ≤ marks (skipLayout ('/' :: text))) :
    skipLayout ('/' :: text) = '/' :: text := by
  refine (skipLayout_slash_or text).resolve_right fun hsuffix => ?_
  have hle := marks_le_of_suffix hsuffix
  rw [marks_cons_pos (by decide)] at h
  omega

theorem weight_pos_of_slash (h : read (value (fuel + 1)) ('/' :: text) = some (.ok y, left)) :
    0 < y.weight := by
  generalize htext : '/' :: text = whole at h
  cases readAs_of_read h with
  | @regex r _ hr _ _ =>
      rw [weight, hr.text_eq, marks_cons_pos (by decide)]
      omega
  | number hfirst _ _ => exact absurd (hfirst '/' text htext.symm) (by decide)
  | date hform =>
      rw [← htext, dateForm_cons_none (by decide)] at hform
      cases hform
  | constant hform =>
      rw [← htext, constantForm_cons_none (by decide)] at hform
      cases hform
  | string hstring =>
      rw [← htext, read_stringText_cons (by decide)] at hstring
      cases hstring
  | @plain a _ hform =>
      have hsplit := plainForm_splits _ _ _ hform
      cases a with
      | nil => exact absurd rfl (plainForm_ne_nil hform)
      | cons c a =>
          rw [← htext] at hsplit
          obtain ⟨rfl, -⟩ := List.cons.inj hsplit
          rw [plainOf, weight, String.toList_ofList, Text.trimEnd_cons (by decide),
            marks_cons_pos (by decide)]
          omega
  | sequence _ => exact Nat.succ_pos _
  | mapping _ => exact Nat.succ_pos _

private theorem shortText_signed {t : Instant} (h : ¬(0 ≤ t.date.year ∧ t.date.year ≤ 9999)) :
    ∃ c more, t.shortText = c :: more ∧ (c = '-' ∨ c = '+') := by
  obtain ⟨more, hmore⟩ := Instant.shortText_eq_append t
  rw [hmore, Instant.yearText, if_neg h]
  split
  · exact ⟨_, _, rfl, .inl rfl⟩
  · exact ⟨_, _, rfl, .inr rfl⟩

theorem read_signed {t : Instant} (hyear : ¬(0 ≤ t.date.year ∧ t.date.year ≤ 9999))
    (hrest : AtEnd rest)
    (h : read (value (fuel + 1)) (t.shortText ++ rest) = some (.ok y, left)) :
    left = rest ∧ y.beq (.date t) = false := by
  obtain ⟨c, more, hcons, hc⟩ := shortText_signed hyear
  have hinert : ∀ d ∈ t.shortText, isInert d :=
    forall_mem_shortText (fun _ => isInert_of_isDigit) (by decide) t
  have hfirst {d : Char} {after : List Char} (heq : t.shortText ++ rest = d :: after) :
      d = '-' ∨ d = '+' := by
    rw [hcons] at heq
    obtain ⟨rfl, -⟩ := List.cons.inj heq
    exact hc
  generalize htext : t.shortText ++ rest = whole at h
  cases readAs_of_read h with
  | regex hr _ hregex =>
      rw [hr.text_eq] at hregex
      rcases hfirst (htext.trans hregex) with h | h <;> exact absurd h (by decide)
  | number _ hend hway =>
      have hstays := hway (StaysBefore rest) (isPassage_staysBefore rest)
        (staysBefore_skipInline hrest) (staysBefore_take hrest)
      rw [← htext] at hstays
      exact ⟨hstays.eq hinert hend, rfl⟩
  | date hform =>
      rw [← htext, hcons, List.cons_append, dateForm_cons_none] at hform
      · cases hform
      · rcases hc with rfl | rfl <;> rfl
  | constant hform =>
      rw [← htext, hcons, List.cons_append, constantForm_cons_none] at hform
      · cases hform
      · rcases hc with rfl | rfl <;> decide
  | string hstring =>
      rw [← htext, hcons, List.cons_append, read_stringText_cons] at hstring
      · cases hstring
      · rcases hc with rfl | rfl <;> decide
  | plain hform =>
      have hplain := plainForm_append (by simp [hcons]) hinert
        (by simpa [hcons] using hc.elim (fun h => h ▸ by decide) (fun h => h ▸ by decide)) hrest
      rw [← htext, hplain] at hform
      cases hform
      exact ⟨rfl, rfl⟩
  | sequence hitems =>
      obtain ⟨inside, heq, -⟩ := read_members_inv hitems
      rcases hfirst (htext.trans heq) with h | h <;> exact absurd h (by decide)
  | mapping hentries =>
      obtain ⟨inside, heq, -⟩ := read_members_inv hentries
      rcases hfirst (htext.trans heq) with h | h <;> exact absurd h (by decide)

/-! ## Members -/

theorem regex_of_read {r : RegexLiteral}
    (h : read (value (fuel + 1)) text = some (.ok (.regex r), left)) :
    r.Stands left ∧ text = write (.regex r) ++ left := by
  generalize hy : Literal.regex r = y at h
  cases readAs_of_read h with
  | regex _ hstands htext =>
      cases hy
      exact ⟨hstands, htext⟩
  | @date a _ _ =>
      unfold dateOf at hy
      split at hy <;> cases hy
  | @constant a _ _ =>
      unfold constantOf at hy
      split at hy
      · cases hy
      · split at hy <;> cases hy
  | _ => cases hy

theorem weight_add_marks_le (h : read (value fuel) text = some (.ok y, left)) :
    y.weight + marks left ≤ marks text := pays_value fuel _ _ _ h

private theorem marks_skipLayout_le (text : List Char) : marks (skipLayout text) ≤ marks text :=
  marks_le_of_suffix (skipLayout_suffix text)

theorem marks_closing_le {closing : Char} {after : List Char} (hmark : isMark closing = true)
    (h : afterMembers after = closing :: left) : marks left + 1 ≤ marks after := by
  have hle := marks_le_of_suffix (afterMembers_suffix after)
  rwa [h, marks_cons_pos hmark] at hle

/-! ## Literals that are read exactly -/

/-- Whatever is read from the text of the literal with all marks is read from no more and no
less than that text, and when it equals the literal, it is the literal. -/
def IsReadExactly (x : Literal) : Prop :=
  ∀ (y : Literal) (fuel : Nat) (rest left : List Char), AtEnd rest →
    read (value fuel) (skipLayout (write x ++ rest)) = some (.ok y, left) →
    marks (write x ++ rest) ≤ y.weight + marks left → y.beq x = true ∨ y.weight = 0 →
    left = rest ∧ (y.beq x = true → y = x ∧ x.Stands rest)

namespace IsReadExactly

theorem of_read (hread : ∀ (fuel : Nat) (rest : List Char), AtEnd rest →
      read (value (fuel + 1)) (skipLayout (write x ++ rest)) = some (.ok x, rest))
    (hstands : ∀ rest, x.Stands rest) : IsReadExactly x := by
  intro y fuel rest left hrest h _ _
  cases fuel with
  | zero => cases h
  | succ fuel =>
      cases (hread fuel rest hrest).symm.trans h
      exact ⟨rfl, fun _ => ⟨rfl, hstands rest⟩⟩

theorem null : IsReadExactly .null := .of_read
  (fun fuel rest hrest => by
    rw [skipLayout_write (x := .null) trivial]
    exact read_value_null fuel hrest.mayEnd)
  fun _ => trivial

theorem bool (b : Bool) : IsReadExactly (.bool b) := .of_read
  (fun fuel rest hrest => by
    rw [skipLayout_write (x := .bool b) trivial]
    cases b with
    | true => exact read_value_true fuel hrest.mayEnd
    | false => exact read_value_false fuel hrest.mayEnd)
  fun _ => trivial

theorem number (n : Float) : IsReadExactly (.number n) := .of_read
  (fun fuel rest hrest => by
    rw [skipLayout_write (x := .number n) trivial]
    exact read_value_number fuel n hrest.mayEnd)
  fun _ => trivial

theorem string (s : String) : IsReadExactly (.string s) := .of_read
  (fun fuel rest _ => by
    have hread := read_value_quote fuel s.toList rest
    rw [String.ofList_toList] at hread
    rw [skipLayout_write (x := .string s) trivial]
    exact hread)
  fun _ => trivial

theorem date (t : Instant) : IsReadExactly (.date t) := by
  intro y fuel rest left hrest h _ _
  cases fuel with
  | zero => cases h
  | succ fuel =>
      rw [skipLayout_write (x := .date t) trivial] at h
      by_cases hyear : 0 ≤ t.date.year ∧ t.date.year ≤ 9999
      · cases (read_value_date fuel hyear hrest).symm.trans h
        exact ⟨rfl, fun _ => ⟨rfl, hyear⟩⟩
      · obtain ⟨hleft, hne⟩ := read_signed hyear hrest h
        exact ⟨hleft, fun hbeq => by rw [hne] at hbeq; cases hbeq⟩

theorem binary (bytes : List UInt8) : IsReadExactly (.binary bytes) := by
  intro y fuel rest left _ h _ _
  cases fuel with
  | zero => cases h
  | succ fuel =>
      have hskip : skipLayout (write (.binary bytes) ++ rest) = write (.binary bytes) ++ rest :=
        skipLayout_cons (by decide) _
      rw [hskip] at h
      cases (read_value_quote fuel _ rest).symm.trans h
      exact ⟨rfl, fun hbeq => by cases hbeq⟩

theorem regex (r : RegexLiteral) : IsReadExactly (.regex r) := by
  intro y fuel rest left _ h hmarks hmatch
  cases fuel with
  | zero => cases h
  | succ fuel =>
      have hskip : skipLayout (write (.regex r) ++ rest) = write (.regex r) ++ rest :=
        skipLayout_of_marks_le (Nat.le_trans hmarks (weight_add_marks_le h))
      rw [hskip] at h
      have hpos : 0 < y.weight := weight_pos_of_slash h
      have hbeq := hmatch.resolve_right (Nat.pos_iff_ne_zero.1 hpos)
      cases y with
      | regex r' =>
          obtain rfl : r' = r := eq_of_beq hbeq
          obtain ⟨hstands, htext⟩ := regex_of_read h
          obtain rfl := List.append_cancel_left htext
          exact ⟨rfl, fun _ => ⟨rfl, hstands⟩⟩
      | _ => cases hbeq

end IsReadExactly

/-! ## Sequences that are read exactly -/

section

variable {item : Literal} {items : List Literal}

def AreReadExactly (items : List Literal) : Prop :=
  ∀ (ys : List Literal) (fuel : Nat) (rest after : List Char),
    read (many (nextMember (value fuel))) (writeItems items ++ rest) = some (ys.map .ok, after) →
    marks (writeItems items ++ rest) ≤ itemsWeight ys + marks after → beqItems ys items = true →
    ys = items ∧ after = ']' :: rest ∧ StandsItems items rest

theorem AreReadExactly.nil : AreReadExactly [] := by
  intro ys fuel rest after h _ hbeq
  cases ys with
  | nil =>
      have hread := read_many_closing (.inl rfl) (value fuel) rest
      cases hread.symm.trans h
      exact ⟨rfl, rfl, trivial⟩
  | cons y ys => cases hbeq

theorem AreReadExactly.cons (hitem : IsReadExactly item) (hitems : AreReadExactly items) :
    AreReadExactly (item :: items) := by
  intro ys fuel rest after h hmarks hbeq
  cases ys with
  | nil => cases hbeq
  | cons y ys =>
      rw [beqItems, Bool.and_eq_true] at hbeq
      rw [writeItems_append, List.map_cons] at h
      rw [writeItems_append, marks_separator, itemsWeight] at hmarks
      obtain ⟨left, hfirst, hmore⟩ := (read_many_comma (leaves_value fuel)).1 h
      have hpays := weight_add_marks_le hfirst
      have hskip := marks_skipLayout_le (write item ++ (writeItems items ++ rest))
      have hmorePays := pays_many (pays_value fuel) (leaves_value fuel) _ _ _ hmore
      dsimp only at hmorePays
      rw [sum_builtWeight] at hmorePays
      obtain ⟨rfl, hexact⟩ := hitem y fuel _ left (atEnd_writeItems items rest) hfirst
        (by omega) (.inl hbeq.1)
      obtain ⟨rfl, hstands⟩ := hexact hbeq.1
      rw [marks_append] at hmarks hskip
      obtain ⟨rfl, hafter, hstands'⟩ := hitems ys fuel rest _ hmore (by omega) hbeq.2
      exact ⟨rfl, hafter, hstands, hstands'⟩

private theorem read_sequence_inv
    (h : read (value (fuel + 1)) (skipLayout (write (.sequence (item :: items)) ++ rest)) =
      some (.ok y, left)) :
    ∃ ys, y = .sequence ys ∧ (ys ≠ [] → ∃ after,
      read (many (nextMember (value fuel))) (writeItems (item :: items) ++ rest) =
        some (ys.map .ok, after) ∧ afterMembers after = ']' :: left) := by
  rw [write_sequence_append, skipLayout_cons (by decide), read_value_bracket] at h
  obtain ⟨⟨found, left'⟩, hmembers, heq⟩ := Option.map_eq_some_iff.1 h
  simp only [Prod.mk.injEq] at heq
  obtain ⟨hbuilt, rfl⟩ := heq
  obtain ⟨ys, hitems, rfl⟩ := map_eq_ok hbuilt
  rw [collectItems_eq_ok hitems] at hmembers
  refine ⟨ys, rfl, fun hne => ?_⟩
  obtain ⟨first, ys, rfl⟩ := List.exists_cons_of_ne_nil hne
  rw [writeItems_append]
  exact (read_members_iff (leaves_value fuel)).1 hmembers

theorem IsReadExactly.sequence (h : AreReadExactly items) : IsReadExactly (.sequence items) := by
  cases items with
  | nil =>
      refine .of_read (fun fuel rest _ => ?_) fun _ => trivial
      rw [show write (.sequence []) ++ rest = '[' :: ']' :: rest from rfl,
        skipLayout_cons (by decide), read_value_bracket,
        read_members_nil (.inl rfl) (read_value_closing fuel rest)]
      rfl
  | cons item items =>
      intro y fuel rest left _ hread hmarks hmatch
      cases fuel with
      | zero => cases hread
      | succ fuel =>
          obtain ⟨ys, rfl, hmany⟩ := read_sequence_inv hread
          have hbeq : beqItems ys (item :: items) = true :=
            hmatch.resolve_right (Nat.succ_ne_zero _)
          obtain ⟨after, hmany, hclose⟩ := hmany fun hnil => by
            rw [hnil] at hbeq
            cases hbeq
          have hafter := marks_closing_le (by decide) hclose
          rw [write_sequence_append, marks_cons_neg (by decide), weight] at hmarks
          obtain ⟨rfl, rfl, hstands⟩ := h ys fuel rest after hmany (by
            rw [writeItems_append, marks_separator]
            omega) hbeq
          rw [afterMembers_closing (.inl rfl)] at hclose
          exact ⟨(List.cons.inj hclose).2.symm, fun _ => ⟨rfl, hstands⟩⟩

end

/-! ## Mappings that are read exactly -/

section

variable {key : String} {entries es : List (String × Literal)}

def EntriesAreReadExactly (entries : List (String × Literal)) : Prop :=
  ∀ (es : List (String × Literal)) (fuel : Nat) (rest after left : List Char),
    read (many (nextMember (objectMember (value fuel)))) (writeEntries entries ++ rest) =
      some (es.map fun entry => (entry.1.toList, .ok entry.2), after) →
    afterMembers after = '\x7d' :: left →
    marks (writeEntries entries ++ rest) ≤ entriesWeight es + marks after →
    (∀ e ∈ es, ∀ e' ∈ entries, e.1 = e'.1 → e.2.beq e'.2 = true ∨ e.2.weight = 0) →
    es.map Prod.fst = entries.map Prod.fst ∧ after = '\x7d' :: rest ∧
      ((∀ e ∈ es, ∀ e' ∈ entries, e.1 = e'.1 → e.2.beq e'.2 = true) →
        es = entries ∧ StandsEntries entries rest)

theorem EntriesAreReadExactly.nil : EntriesAreReadExactly [] := by
  intro es fuel rest after left h _ _ _
  have hread := read_many_closing (.inr rfl) (objectMember (value fuel)) rest
  cases es with
  | nil =>
      cases hread.symm.trans h
      exact ⟨rfl, rfl, fun _ => ⟨rfl, trivial⟩⟩
  | cons e es => cases hread.symm.trans h

private theorem keyText_ne_closing (key text : List Char) :
    keyText key ++ text ≠ '\x7d' :: left := by
  obtain ⟨c, more, hcons, -, -, -, hc⟩ := keyText_cons key
  rw [hcons]
  exact fun heq => hc (List.cons.inj heq).1

private theorem afterMembers_ne_of_entry {after : List Char}
    (h : read (many (nextMember (objectMember (value fuel))))
      (writeEntries ((key, x) :: entries) ++ rest) = some ([], after)) :
    afterMembers after ≠ '\x7d' :: left := by
  rw [writeEntries_append] at h
  cases hnext : read (nextMember (objectMember (value fuel))) (',' :: ' ' ::
      (keyText key.toList ++ ':' :: ' ' :: (write x ++ (writeEntries entries ++ rest)))) with
  | none =>
      rw [read_many_of_none hnext] at h
      cases h
      rw [afterMembers_comma, skipLayout_space, skipLayout_keyText]
      exact keyText_ne_closing _ _
  | some found =>
      rw [read_many_of_some
        (shortens_nextMember (leaves_objectMember (leaves_value fuel))) hnext] at h
      obtain ⟨more, -, heq⟩ := Option.map_eq_some_iff.1 h
      cases heq

theorem EntriesAreReadExactly.cons (hx : IsReadExactly x)
    (hentries : EntriesAreReadExactly entries) : EntriesAreReadExactly ((key, x) :: entries) := by
  intro es fuel rest after left h hclose hmarks hmatch
  cases es with
  | nil => exact absurd hclose (afterMembers_ne_of_entry h)
  | cons e es =>
      obtain ⟨key', y⟩ := e
      rw [writeEntries_append, List.map_cons] at h
      rw [writeEntries_append, marks_separator, marks_append, marks_keyText, marks_colon,
        entriesWeight] at hmarks
      obtain ⟨middle, hfirst, hmore⟩ :=
        (read_many_comma (leaves_objectMember (leaves_value fuel))).1 h
      rw [skipLayout_keyText, read_objectMember_written] at hfirst
      obtain ⟨⟨built, middle'⟩, hvalue, heq⟩ := Option.map_eq_some_iff.1 hfirst
      simp only [Prod.mk.injEq] at heq
      obtain ⟨⟨hkey, rfl⟩, rfl⟩ := heq
      obtain rfl := String.toList_injective hkey
      have hpays := weight_add_marks_le hvalue
      have hskip := marks_skipLayout_le (write x ++ (writeEntries entries ++ rest))
      have hmorePays := pays_many (pays_objectMember (pays_value fuel))
        (leaves_objectMember (leaves_value fuel)) _ _ _ hmore
      dsimp only at hmorePays
      rw [sum_memberWeight] at hmorePays
      obtain ⟨rfl, hexact⟩ := hx y fuel _ middle' (atEnd_writeEntries entries rest) hvalue
        (by omega) (hmatch (key, y) (by simp) (key, x) (by simp) rfl)
      rw [marks_append] at hmarks hskip
      obtain ⟨hkeys, hafter, hsame⟩ := hentries es fuel rest after left hmore hclose (by omega)
        fun e he e' he' => hmatch e (by simp [he]) e' (by simp [he'])
      refine ⟨by simp [hkeys], hafter, fun hall => ?_⟩
      obtain ⟨rfl, hstands⟩ := hexact (hall (key, y) (by simp) (key, x) (by simp) rfl)
      obtain ⟨rfl, hstands'⟩ := hsame fun e he e' he' => hall e (by simp [he]) e' (by simp [he'])
      exact ⟨rfl, hstands, hstands'⟩

private theorem read_mapping_inv
    (h : read (value (fuel + 1)) (skipLayout (write (.mapping ((key, x) :: entries)) ++ rest)) =
      some (.ok y, left)) :
    ∃ es, y = ofEntries es ∧ (es ≠ [] → ∃ after,
      read (many (nextMember (objectMember (value fuel))))
          (writeEntries ((key, x) :: entries) ++ rest) =
        some (es.map fun entry => (entry.1.toList, .ok entry.2), after) ∧
      afterMembers after = '\x7d' :: left) := by
  rw [write_mapping_append, skipLayout_cons (by decide), read_value_brace] at h
  obtain ⟨⟨found, left'⟩, hmembers, heq⟩ := Option.map_eq_some_iff.1 h
  simp only [Prod.mk.injEq] at heq
  obtain ⟨hbuilt, rfl⟩ := heq
  obtain ⟨es, hentries, rfl⟩ := map_eq_ok hbuilt
  rw [collectEntries_eq_ok hentries] at hmembers
  refine ⟨es, rfl, fun hne => ?_⟩
  obtain ⟨first, es, rfl⟩ := List.exists_cons_of_ne_nil hne
  rw [writeEntries_append]
  exact (read_members_iff (leaves_objectMember (leaves_value fuel))).1 hmembers

private theorem beq_or_lost (hbeq : (ofEntries es).beq (.mapping entries) = true) :
    (entries.map Prod.fst).Nodup ∧ ∀ e ∈ es, ∀ e' ∈ entries, e.1 = e'.1 →
      e.2.beq e'.2 = true ∨ (ofEntries es).weight + e.2.weight ≤ entriesWeight es + 1 := by
  obtain ⟨kept, hkept, hnodup, -⟩ := ofEntries_spec es
  rw [hkept, beq, Bool.and_eq_true, beq_iff_eq] at hbeq
  have hnodup' := nodup_of_beqEntries hnodup hbeq.1 hbeq.2
  refine ⟨hnodup', fun e he e' he' hkey => ?_⟩
  rcases get?_ofEntries_or he with hget | hlost
  · rw [hkept] at hget
    obtain ⟨b, hb, hvalue⟩ := beqEntries_iff.1 hbeq.2 _ (mem_of_lookup hget)
    rw [hkey, lookup_of_mem hnodup' he'] at hb
    cases hb
    exact .inl hvalue
  · exact .inr hlost

theorem IsReadExactly.mapping (h : EntriesAreReadExactly entries) :
    IsReadExactly (.mapping entries) := by
  cases entries with
  | nil =>
      refine .of_read (fun fuel rest _ => ?_) fun _ => trivial
      rw [show write (.mapping []) ++ rest = '\x7b' :: '\x7d' :: rest from rfl,
        skipLayout_cons (by decide), read_value_brace,
        read_members_nil (.inr rfl) (read_objectMember_closing _ rest)]
      rfl
  | cons entry entries =>
      obtain ⟨key, x⟩ := entry
      intro y fuel rest left _ hread hmarks hmatch
      cases fuel with
      | zero => cases hread
      | succ fuel =>
          obtain ⟨es, rfl, hmany⟩ := read_mapping_inv hread
          have hbeq := hmatch.resolve_right (Nat.succ_ne_zero _)
          obtain ⟨hnodup, hvalues⟩ := beq_or_lost hbeq
          obtain ⟨after, hmany, hclose⟩ := hmany fun hnil => by
            rw [hnil] at hbeq
            cases hbeq
          have hafter := marks_closing_le (by decide) hclose
          have hpays := pays_many (pays_objectMember (pays_value fuel))
            (leaves_objectMember (leaves_value fuel)) _ _ _ hmany
          have hweight := weight_ofEntries_le es
          dsimp only at hpays
          rw [sum_memberWeight, writeEntries_append, marks_separator] at hpays
          rw [write_mapping_append, marks_cons_neg (by decide)] at hmarks
          -- A value that is lost has no mark, since all marks of the text are in what is kept.
          obtain ⟨hkeys, rfl, hsame⟩ := h es fuel rest after left hmany hclose (by
            rw [writeEntries_append, marks_separator]
            omega) fun e he e' he' hkey =>
              (hvalues e he e' he' hkey).imp id fun hlost => by omega
          have hes := ofEntries_of_nodup (hkeys ▸ hnodup)
          rw [afterMembers_closing (.inr rfl)] at hclose
          rw [hes, beq, Bool.and_eq_true] at hbeq
          obtain ⟨rfl, hstands⟩ := hsame fun e he e' he' hkey => by
            obtain ⟨b, hb, hvalue⟩ := beqEntries_iff.1 hbeq.2 e he
            rw [hkey, lookup_of_mem hnodup he'] at hb
            cases hb
            exact hvalue
          exact ⟨(List.cons.inj hclose).2.symm, fun _ => ⟨hes, hstands⟩⟩

end

theorem isReadExactly (x : Literal) : IsReadExactly x := by
  induction x using inductionOnMembers with
  | null => exact .null
  | bool b => exact .bool b
  | number n => exact .number n
  | string s => exact .string s
  | date t => exact .date t
  | regex r => exact .regex r
  | binary bytes => exact .binary bytes
  | sequence items ih =>
      refine .sequence ?_
      induction items with
      | nil => exact .nil
      | cons item items ihItems =>
          obtain ⟨hitem, hitems⟩ := List.forall_mem_cons.1 ih
          exact .cons hitem (ihItems hitems)
  | mapping entries ih =>
      refine .mapping ?_
      induction entries with
      | nil => exact .nil
      | cons entry entries ihEntries =>
          obtain ⟨hx, hentries⟩ := List.forall_mem_cons.1 ih
          exact .cons hx (ihEntries hentries)

end RuleBook.Notation
