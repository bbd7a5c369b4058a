import RuleBook.Proofs.Literal.Shape
import RuleBook.Proofs.Notation.Document

/-!
# Reading back what is written

A regular literal that stands before the text after it is read back from its own text.
Plain literals always stand, so they are read back wherever they are written.
-/

namespace RuleBook.Notation

open Reader Literal

theorem shortText_cons (t : Instant) :
    ∃ c more, t.shortText = c :: more ∧ (c.isDigit = true ∨ c = '-' ∨ c = '+') := by
  have hpadded (n : Nat) : ∃ c more, Instant.padded 4 n = c :: more ∧ c.isDigit = true := by
    cases hcons : Instant.padded 4 n with
    | nil => exact absurd hcons (Instant.padded_ne_nil 4 n)
    | cons c more => exact ⟨c, more, rfl, Instant.isDigit_padded 4 n c (by simp [hcons])⟩
  obtain ⟨more, hmore⟩ := Instant.shortText_eq_append t
  rw [hmore]
  unfold Instant.yearText
  split
  · obtain ⟨c, digits, hcons, hc⟩ := hpadded t.date.year.toNat
    exact ⟨c, _, by rw [hcons, List.cons_append], .inl hc⟩
  · split
    · exact ⟨_, _, rfl, .inr (.inl rfl)⟩
    · exact ⟨_, _, rfl, .inr (.inr rfl)⟩

private theorem numberText_cons (x : Float) :
    ∃ c more, numberText x = c :: more ∧ (c.isDigit = true ∨ c = '-' ∨ c = '+' ∨ c = 'N') := by
  rcases numberText_cases x with ⟨h, -⟩ | ⟨h, -⟩ | ⟨h, -⟩ |
    ⟨negative, whole, fraction, h, hwhole, -⟩
  · exact ⟨_, _, h, .inr (.inr (.inr rfl))⟩
  · exact ⟨_, _, h, .inr (.inl rfl)⟩
  · exact ⟨_, _, h, .inr (.inr (.inl rfl))⟩
  · obtain ⟨c, more, hcons, hc⟩ := plainNumber_cons negative hwhole fraction
    have hc : c.isDigit = true ∨ c = '-' := by simpa [beginsNumber] using hc
    exact ⟨c, more, h.trans hcons, hc.imp_right .inl⟩

theorem write_cons (x : Literal) :
    ∃ c more, write x = c :: more ∧ isInner c ∧ (beginsNoLayout c ∨ ∃ r, x = .regex r) := by
  have hinert : ∀ c : Char, isInert c → isInner c ∧ (beginsNoLayout c ∨ ∃ r, x = .regex r) :=
    fun c hc => hc.symm.imp_right .inl
  cases x with
  | null => exact ⟨_, _, rfl, hinert _ (by decide)⟩
  | bool b => cases b <;> exact ⟨_, _, rfl, hinert _ (by decide)⟩
  | number x =>
      obtain ⟨c, more, h, hc⟩ := numberText_cons x
      refine ⟨c, more, h, ?_⟩
      rcases hc with hc | rfl | rfl | rfl
      · exact hinert c (isInert_of_isDigit hc)
      all_goals exact hinert _ (by decide)
  | string s => exact ⟨_, _, rfl, hinert _ (by decide)⟩
  | date t =>
      obtain ⟨c, more, h, hc⟩ := shortText_cons t
      refine ⟨c, more, h, ?_⟩
      rcases hc with hc | rfl | rfl
      · exact hinert c (isInert_of_isDigit hc)
      all_goals exact hinert _ (by decide)
  | regex r => exact ⟨_, _, rfl, by decide, .inr ⟨r, rfl⟩⟩
  | binary bytes => exact ⟨_, _, rfl, hinert _ (by decide)⟩
  | sequence items => cases items <;> exact ⟨_, _, rfl, hinert _ (by decide)⟩
  | mapping entries => cases entries <;> exact ⟨_, _, rfl, hinert _ (by decide)⟩

theorem SourceBefore.head {after source : List Char} (h : SourceBefore after source) :
    source.head? ≠ some '/' := by
  cases h with
  | plain hc _ => simp [hc.2.1]
  | _ => simp

theorem skipLayout_source {r : RegexLiteral} (h : r.IsWritable) (text : List Char) :
    skipLayout ('/' :: (r.source.toList ++ text)) = '/' :: (r.source.toList ++ text) := by
  obtain ⟨after, hsource⟩ := h.source
  have hslash := hsource.head
  have hstar := h.star
  cases hsrc : r.source.toList with
  | nil => exact absurd hsrc h.ne_nil
  | cons d source =>
      rw [hsrc] at hslash hstar
      exact skipLayout_slash ⟨by simpa using hslash, by simpa using hstar⟩ _

theorem skipLayout_write {x : Literal} (h : x.Regular) (rest : List Char) :
    skipLayout (write x ++ rest) = write x ++ rest := by
  obtain ⟨c, more, hcons, -, hc | ⟨r, rfl⟩⟩ := write_cons x
  · rw [hcons]
    exact skipLayout_cons hc _
  · have hr : r.IsWritable := h
    rw [hr.write_eq, List.cons_append, List.append_assoc]
    exact skipLayout_source hr _

section

variable (item x : Literal) (items : List Literal) (key : String)
  (entries : List (String × Literal)) (rest : List Char)

theorem write_sequence_cons :
    write (.sequence (item :: items)) = '[' :: (write item ++ writeItems items) := rfl

theorem writeItems_cons :
    writeItems (item :: items) = ',' :: ' ' :: (write item ++ writeItems items) := rfl

theorem write_mapping_cons : write (.mapping ((key, x) :: entries)) =
    '\x7b' :: (keyText key.toList ++ ':' :: ' ' :: (write x ++ writeEntries entries)) := by
  simp [write]

theorem writeEntries_cons : writeEntries ((key, x) :: entries) =
    ',' :: ' ' :: (keyText key.toList ++ ':' :: ' ' :: (write x ++ writeEntries entries)) := by
  simp [writeEntries]

theorem write_sequence_append : write (.sequence (item :: items)) ++ rest =
    '[' :: (write item ++ (writeItems items ++ rest)) := by simp [write]

theorem write_mapping_append : write (.mapping ((key, x) :: entries)) ++ rest =
    '\x7b' :: (keyText key.toList ++ ':' :: ' ' :: (write x ++ (writeEntries entries ++ rest))) := by
  simp [write]

theorem writeItems_append : writeItems (item :: items) ++ rest =
    ',' :: ' ' :: (write item ++ (writeItems items ++ rest)) := by simp [writeItems]

theorem writeEntries_append : writeEntries ((key, x) :: entries) ++ rest =
    ',' :: ' ' :: (keyText key.toList ++ ':' :: ' ' ::
      (write x ++ (writeEntries entries ++ rest))) := by simp [writeEntries]

end

theorem atEnd_writeItems (items : List Literal) (rest : List Char) :
    AtEnd (writeItems items ++ rest) := by
  cases items with
  | nil => exact .inr (.inl rfl)
  | cons item items => exact .inl rfl

theorem atEnd_writeEntries (entries : List (String × Literal)) (rest : List Char) :
    AtEnd (writeEntries entries ++ rest) := by
  cases entries with
  | nil => exact .inr (.inr rfl)
  | cons entry entries => exact .inl rfl

theorem collectItems_map_ok (items : List Literal) :
    collectItems (items.map .ok) = .ok items := by
  induction items with
  | nil => rfl
  | cons item items ih =>
      rw [List.map_cons, collectItems, ih]
      rfl

theorem collectEntries_map_ok (entries : List (String × Literal)) :
    collectEntries (entries.map fun entry => (entry.1.toList, .ok entry.2)) = .ok entries := by
  induction entries with
  | nil => rfl
  | cons entry entries ih =>
      rw [List.map_cons, collectEntries, ih, String.ofList_toList]
      rfl

theorem length_writeItems_le (items : List Literal) :
    (writeItems items).length ≤ (write (.sequence items)).length + 1 := by
  cases items <;> simp [writeItems, write]

theorem length_writeEntries_le (entries : List (String × Literal)) :
    (writeEntries entries).length ≤ (write (.mapping entries)).length + 1 := by
  cases entries <;> simp [writeEntries, write]

section

variable {fuel : Nat} {rest : List Char}

theorem read_value_sequence {items : List Literal}
    (hmany : read (many (nextMember (value fuel))) (writeItems items ++ rest) =
      some (items.map .ok, ']' :: rest)) :
    read (value (fuel + 1)) (write (.sequence items) ++ rest) =
      some (.ok (.sequence items), rest) := by
  cases items with
  | nil =>
      rw [show write (.sequence []) ++ rest = '[' :: ']' :: rest from rfl, read_value_bracket,
        read_members_nil (.inl rfl) (read_value_closing fuel rest)]
      rfl
  | cons item items =>
      rw [writeItems_append, List.map_cons] at hmany
      rw [write_sequence_append, read_value_bracket,
        (read_members_iff (leaves_value fuel)).2 ⟨_, hmany, afterMembers_closing (.inl rfl) rest⟩,
        Option.map_some, ← List.map_cons (f := Except.ok), collectItems_map_ok]
      rfl

theorem read_value_mapping {entries : List (String × Literal)}
    (hnodup : (entries.map Prod.fst).Nodup)
    (hmany : read (many (nextMember (objectMember (value fuel)))) (writeEntries entries ++ rest) =
      some (entries.map fun entry => (entry.1.toList, .ok entry.2), '\x7d' :: rest)) :
    read (value (fuel + 1)) (write (.mapping entries) ++ rest) =
      some (.ok (.mapping entries), rest) := by
  cases entries with
  | nil =>
      rw [show write (.mapping []) ++ rest = '\x7b' :: '\x7d' :: rest from rfl, read_value_brace,
        read_members_nil (.inr rfl) (read_objectMember_closing _ rest)]
      rfl
  | cons entry entries =>
      obtain ⟨key, x⟩ := entry
      have hall := collectEntries_map_ok ((key, x) :: entries)
      rw [writeEntries_append, List.map_cons] at hmany
      rw [List.map_cons] at hall
      rw [write_mapping_append, read_value_brace,
        (read_members_iff (leaves_objectMember (leaves_value fuel))).2
          ⟨_, hmany, afterMembers_closing (.inr rfl) rest⟩,
        Option.map_some, hall]
      exact congrArg (fun y => some (Except.ok y, rest)) (ofEntries_of_nodup hnodup)

end

mutual

/-- A regular literal is read back before a text in which it stands. -/
theorem read_value_write : ∀ (x : Literal) (fuel : Nat) (rest : List Char), x.Regular →
    x.Stands rest → AtEnd rest → (write x).length < fuel →
    read (value fuel) (write x ++ rest) = some (.ok x, rest)
  | _, 0, _, _, _, _, hfuel => absurd hfuel (Nat.not_lt_zero _)
  | .null, fuel + 1, rest, _, _, hrest, _ => read_value_null fuel hrest.mayEnd
  | .bool true, fuel + 1, rest, _, _, hrest, _ => read_value_true fuel hrest.mayEnd
  | .bool false, fuel + 1, rest, _, _, hrest, _ => read_value_false fuel hrest.mayEnd
  | .number x, fuel + 1, rest, _, _, hrest, _ => read_value_number fuel x hrest.mayEnd
  | .string s, fuel + 1, rest, _, _, hrest, _ => by
      rw [show write (.string s) = quote s.toList from rfl, read_value_quote, String.ofList_toList]
  | .date t, fuel + 1, rest, _, hstands, hrest, _ => read_value_date fuel hstands hrest
  | .regex r, fuel + 1, rest, hregular, hstands, hrest, _ =>
      read_value_regex fuel hregular hrest hstands
  | .sequence items, fuel + 1, rest, hregular, hstands, _, hfuel =>
      read_value_sequence (read_writeItems items fuel rest hregular hstands
        (Nat.le_trans (length_writeItems_le items) hfuel))
  | .mapping entries, fuel + 1, rest, hregular, hstands, _, hfuel =>
      read_value_mapping hregular.1 (read_writeEntries entries fuel rest hregular.2 hstands
        (Nat.le_trans (length_writeEntries_le entries) hfuel))

theorem read_writeItems : ∀ (items : List Literal) (fuel : Nat) (rest : List Char),
    RegularItems items → StandsItems items rest → (writeItems items).length ≤ fuel + 1 →
    read (many (nextMember (value fuel))) (writeItems items ++ rest) =
      some (items.map .ok, ']' :: rest)
  | [], fuel, rest, _, _, _ => read_many_closing (.inl rfl) _ rest
  | item :: items, fuel, rest, hregular, hstands, hfuel => by
      have hlength := congrArg List.length (writeItems_append item items [])
      simp only [List.append_nil, List.length_cons, List.length_append] at hlength
      have hfirst := read_value_write item fuel (writeItems items ++ rest) hregular.1 hstands.1
        (atEnd_writeItems items rest) (by omega)
      have hmore := read_writeItems items fuel rest hregular.2 hstands.2 (by omega)
      rw [← skipLayout_write hregular.1] at hfirst
      rw [writeItems_append]
      exact (read_many_comma (leaves_value fuel)).2 ⟨_, hfirst, hmore⟩

theorem read_writeEntries : ∀ (entries : List (String × Literal)) (fuel : Nat)
    (rest : List Char), RegularEntries entries → StandsEntries entries rest →
    (writeEntries entries).length ≤ fuel + 1 →
    read (many (nextMember (objectMember (value fuel)))) (writeEntries entries ++ rest) =
      some (entries.map fun entry => (entry.1.toList, .ok entry.2), '\x7d' :: rest)
  | [], fuel, rest, _, _, _ => read_many_closing (.inr rfl) _ rest
  | (key, x) :: entries, fuel, rest, hregular, hstands, hfuel => by
      have hlength := congrArg List.length (writeEntries_append x key entries [])
      simp only [List.append_nil, List.length_cons, List.length_append] at hlength
      have hvalue := read_value_write x fuel (writeEntries entries ++ rest) hregular.1 hstands.1
        (atEnd_writeEntries entries rest) (by omega)
      have hfirst : read (objectMember (value fuel)) (skipLayout (keyText key.toList ++ ':' :: ' ' ::
          (write x ++ (writeEntries entries ++ rest)))) =
          some ((key.toList, .ok x), writeEntries entries ++ rest) := by
        rw [skipLayout_keyText, read_objectMember_written, skipLayout_write hregular.1, hvalue]
        rfl
      have hmore := read_writeEntries entries fuel rest hregular.2 hstands.2 (by omega)
      rw [writeEntries_append]
      exact (read_many_comma (leaves_objectMember (leaves_value fuel))).2 ⟨_, hfirst, hmore⟩

end

/-- A regular literal that stands alone is what its text denotes. -/
theorem parse_write {x : Literal} (hregular : x.Regular) (hstands : x.Stands []) :
    parse (write x) = .ok x := by
  have hlayout := skipLayout_write hregular []
  have hread := read_value_write x ((write x).length + 1) [] hregular hstands atEnd_nil
    (Nat.lt_succ_self _)
  rw [List.append_nil] at hlayout hread
  refine parse_of_read_value ?_ skipLayout_nil
  rwa [hlayout]

theorem isLineBreak_keyText (key : List Char) : ∀ c ∈ keyText key, isLineBreak c = false := by
  intro c hc
  unfold keyText at hc
  split at hc
  · next h =>
    obtain ⟨-, -, -, -, -, hall⟩ := isBareKey_cons h
    have hchar := (isBareKeyRest_plain (hall c hc)).1
    simp only [isBareKeyChar, Bool.not_eq_true', Bool.or_eq_false_iff] at hchar
    exact hchar.2
  · exact isLineBreak_quote c hc

private theorem isLineBreak_of_isDigit {c : Char} (h : c.isDigit = true) :
    isLineBreak c = false :=
  Text.forall_isDigit (P := fun c => isLineBreak c = false) (by decide) h

theorem isLineBreak_regexText {r : RegexLiteral} (hr : r.IsWritable) :
    ∀ c ∈ write (.regex r), isLineBreak c = false := by
  obtain ⟨after, hsource⟩ := hr.source
  have hflags : ∀ c ∈ RegexLiteral.knownFlags, isLineBreak c = false := by decide
  intro c hc
  rw [hr.write_eq] at hc
  simp only [List.mem_cons, List.mem_append] at hc
  rcases hc with rfl | hc | rfl | hc
  · rfl
  · exact hsource.isLineBreak_eq c hc
  · rfl
  · exact hflags c (hr.flags c hc)

section

variable {c : Char} {items : List Literal} {entries : List (String × Literal)}

private theorem mem_writeItems (h : c ∈ writeItems items) :
    c ∈ ", ]".toList ∨ ∃ item ∈ items, c ∈ write item := by
  induction items with
  | nil => exact .inl (List.mem_singleton.1 h ▸ by decide)
  | cons item items ih =>
      simp only [writeItems, List.mem_cons, List.mem_append, or_assoc] at h
      rcases h with rfl | rfl | h | h
      · exact .inl (by decide)
      · exact .inl (by decide)
      · exact .inr ⟨item, by simp, h⟩
      · exact (ih h).imp_right fun ⟨other, hother, hc⟩ => ⟨other, by simp [hother], hc⟩

private theorem mem_writeEntries (h : c ∈ writeEntries entries) :
    c ∈ ", :\x7d".toList ∨ ∃ entry ∈ entries, c ∈ keyText entry.1.toList ∨ c ∈ write entry.2 := by
  induction entries with
  | nil => exact .inl (List.mem_singleton.1 h ▸ by decide)
  | cons entry entries ih =>
      simp only [writeEntries, List.mem_cons, List.mem_append, or_assoc] at h
      rcases h with rfl | rfl | h | rfl | rfl | h | h
      · exact .inl (by decide)
      · exact .inl (by decide)
      · exact .inr ⟨entry, by simp, .inl h⟩
      · exact .inl (by decide)
      · exact .inl (by decide)
      · exact .inr ⟨entry, by simp, .inr h⟩
      · exact (ih h).imp_right fun ⟨other, hother, hc⟩ => ⟨other, by simp [hother], hc⟩

private theorem mem_write_sequence (h : c ∈ write (.sequence items)) :
    c ∈ "[, ]".toList ∨ ∃ item ∈ items, c ∈ write item := by
  have hmem : c = '[' ∨ c ∈ writeItems items := by
    cases items with
    | nil => simpa [write, writeItems] using h
    | cons item items =>
        rw [write_sequence_cons, List.mem_cons] at h
        rw [writeItems_cons, List.mem_cons, List.mem_cons]
        exact h.imp_right fun h => .inr (.inr h)
  rcases hmem with rfl | hmem
  · exact .inl (by decide)
  · exact (mem_writeItems hmem).imp_left fun h => List.mem_cons_of_mem _ h

private theorem mem_write_mapping (h : c ∈ write (.mapping entries)) :
    c ∈ "\x7b, :\x7d".toList ∨
      ∃ entry ∈ entries, c ∈ keyText entry.1.toList ∨ c ∈ write entry.2 := by
  have hmem : c = '\x7b' ∨ c ∈ writeEntries entries := by
    cases entries with
    | nil => simpa [write, writeEntries] using h
    | cons entry entries =>
        rw [write_mapping_cons, List.mem_cons] at h
        rw [writeEntries_cons, List.mem_cons, List.mem_cons]
        exact h.imp_right fun h => .inr (.inr h)
  rcases hmem with rfl | hmem
  · exact .inl (by decide)
  · exact (mem_writeEntries hmem).imp_left fun h => List.mem_cons_of_mem _ h

end

theorem isLineBreak_write {x : Literal} (h : x.Regular) : ∀ c ∈ write x, isLineBreak c = false := by
  induction x using inductionOnMembers with
  | null => decide
  | bool b => cases b <;> decide
  | number n => exact forall_mem_numberText (fun _ => isLineBreak_of_isDigit) (by decide) n
  | string s => exact isLineBreak_quote
  | date t => exact forall_mem_shortText (fun _ => isLineBreak_of_isDigit) (by decide) t
  | regex r => exact isLineBreak_regexText h
  | binary bytes => exact h.elim
  | sequence items ih =>
      intro c hc
      have hmark : ∀ c ∈ "[, ]".toList, isLineBreak c = false := by decide
      rcases mem_write_sequence hc with hc | ⟨item, hitem, hc⟩
      · exact hmark c hc
      · exact ih item hitem (regularItems_iff.1 h item hitem) c hc
  | mapping entries ih =>
      intro c hc
      have hmark : ∀ c ∈ "\x7b, :\x7d".toList, isLineBreak c = false := by decide
      rcases mem_write_mapping hc with hc | ⟨entry, hentry, hc | hc⟩
      · exact hmark c hc
      · exact isLineBreak_keyText _ c hc
      · exact ih entry hentry (regularEntries_iff.1 h.2 entry hentry) c hc

/-- A plain literal is read back from its text exactly as it is, down to the order of
entries and the sign of zero, and its text is one line. -/
theorem parse_text_of_plain {x : Literal} (h : x.Plain) :
    Literal.parse x.text = .ok x ∧ ∀ c ∈ x.text.toList, c ≠ '\n' ∧ c ≠ '\r' := by
  rw [Literal.parse, Literal.text, String.toList_ofList]
  refine ⟨parse_write h.regular (h.stands []), fun c hc => ?_⟩
  simpa [isLineBreak] using isLineBreak_write h.regular c hc

/-- An instant, a negative zero and a control character, under keys with and without
quotes. -/
theorem parse_text_of_plain_nested :
    let x : Literal := .mapping
      [("", .sequence [.number (-0.0), .string "a\u0001\nb", .date ⟨0, 0, by decide⟩]),
        ("a b", .mapping []), ("c", .number Number.nan)]
    x.Plain ∧ Literal.parse x.text = .ok x ∧ ∀ c ∈ x.text.toList, c ≠ '\n' ∧ c ≠ '\r' := by
  intro x
  have hdate : Literal.Plain (.date ⟨0, 0, by decide⟩) := ⟨by decide, by decide⟩
  have h : x.Plain :=
    ⟨by decide, ⟨trivial, trivial, hdate, trivial⟩, ⟨by decide, trivial⟩, trivial, trivial⟩
  exact ⟨h, parse_text_of_plain h⟩

end RuleBook.Notation
