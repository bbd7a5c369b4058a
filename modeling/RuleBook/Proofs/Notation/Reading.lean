import RuleBook.Proofs.Literal.Shape
import RuleBook.Proofs.Notation.Document
import RuleBook.Proofs.Outcome

/-!
# What a value was read from

Whatever a text denotes comes from one of the forms of values, so it has unique keys and
regex literals that can stand in a text.
-/

namespace RuleBook.Notation

open Reader Literal

theorem collectItems_eq_ok {found : List Built} {items : List Literal}
    (h : collectItems found = .ok items) : found = items.map .ok := by
  induction found generalizing items with
  | nil =>
      cases h
      rfl
  | cons item found ih =>
      rw [collectItems] at h
      obtain ⟨x, rfl, hrest⟩ := bind_eq_ok h
      obtain ⟨more, hmore, heq⟩ := bind_eq_ok hrest
      cases heq
      rw [List.map_cons, ← ih hmore]

theorem collectEntries_eq_ok {found : List (List Char × Built)}
    {entries : List (String × Literal)} (h : collectEntries found = .ok entries) :
    found = entries.map fun entry => (entry.1.toList, .ok entry.2) := by
  induction found generalizing entries with
  | nil =>
      cases h
      rfl
  | cons entry found ih =>
      obtain ⟨key, value⟩ := entry
      rw [collectEntries] at h
      obtain ⟨x, rfl, hrest⟩ := bind_eq_ok h
      obtain ⟨more, hmore, heq⟩ := bind_eq_ok hrest
      cases heq
      rw [List.map_cons, ← ih hmore, String.toList_ofList]

theorem read_object_inv {inner : Reader Built} {text rest : List Char} {x : Literal}
    (h : read (object inner) text = some (.ok x, rest)) :
    ∃ entries, x = ofEntries entries ∧
      read (members '\x7b' '\x7d' (objectMember inner)) text =
        some (entries.map fun entry => (entry.1.toList, .ok entry.2), rest) := by
  rw [object, read_rule, read_bind] at h
  obtain ⟨⟨found, rest'⟩, hmembers, heq⟩ := Option.bind_eq_some_iff.1 h
  simp only [read_pure, Option.some.injEq, Prod.mk.injEq] at heq
  obtain ⟨hbuilt, rfl⟩ := heq
  obtain ⟨entries, hentries, rfl⟩ := map_eq_ok hbuilt
  rw [collectEntries_eq_ok hentries] at hmembers
  exact ⟨entries, rfl, hmembers⟩

theorem read_array_inv {inner : Reader Built} {text rest : List Char} {x : Literal}
    (h : read (array inner) text = some (.ok x, rest)) :
    ∃ items, x = .sequence items ∧
      read (members '[' ']' inner) text = some (items.map .ok, rest) := by
  rw [array, read_rule, read_bind] at h
  obtain ⟨⟨found, rest'⟩, hmembers, heq⟩ := Option.bind_eq_some_iff.1 h
  simp only [read_pure, Option.some.injEq, Prod.mk.injEq] at heq
  obtain ⟨hbuilt, rfl⟩ := heq
  obtain ⟨items, hitems, rfl⟩ := map_eq_ok hbuilt
  rw [collectItems_eq_ok hitems] at hmembers
  exact ⟨items, rfl, hmembers⟩

inductive ReadAs (fuel : Nat) (text : List Char) : Literal → List Char → Prop where
  | regex {r : RegexLiteral} {rest : List Char} (hr : r.IsWritable) (hstands : r.Stands rest)
      (htext : text = regexText r.source.toList r.flags.toList ++ rest) :
      ReadAs fuel text (.regex r) rest
  | number {x : Float} {rest : List Char}
      (hfirst : ∀ c more, text = c :: more → beginsArithmetic c = true)
      (hend : (read valueEnd rest).isSome)
      (hway : ∀ R, IsPassage R → (∀ text, R text (skipInline text)) →
        (∀ a rest, (∀ c ∈ a, isInner c) → R (a ++ rest) rest) → R text rest) :
      ReadAs fuel text (.number x) rest
  | date {a rest : List Char} (hform : dateForm text = some (a, rest)) :
      ReadAs fuel text (dateOf a) rest
  | constant {a rest : List Char} (hform : constantForm text = some (a, rest)) :
      ReadAs fuel text (constantOf a) rest
  | string {s rest : List Char} (hstring : read stringText text = some (s, rest)) :
      ReadAs fuel text (.string (String.ofList s)) rest
  | plain {a rest : List Char} (hform : plainForm text = some (a, rest)) :
      ReadAs fuel text (plainOf a) rest
  | sequence {items : List Literal} {rest : List Char}
      (hitems : read (members '[' ']' (value fuel)) text = some (items.map .ok, rest)) :
      ReadAs fuel text (.sequence items) rest
  | mapping {entries : List (String × Literal)} {rest : List Char}
      (hentries : read (members '\x7b' '\x7d' (objectMember (value fuel))) text =
        some (entries.map fun entry => (entry.1.toList, .ok entry.2), rest)) :
      ReadAs fuel text (ofEntries entries) rest

private theorem number_readAs {fuel : Nat} {text rest : List Char} {x : Literal}
    {p : Reader (Except ParseError Float)}
    (hp : ∀ {R}, IsPassage R → (∀ text, R text (skipInline text)) →
      (∀ a rest, (∀ c ∈ a, isInner c) → R (a ++ rest) rest) → Moves R p)
    (hrefuses : ∀ {c}, beginsArithmetic c = false → ∀ text, read p (c :: text) = none)
    (h : read (scalar (Except.map Literal.number <$> p)) text = some (.ok x, rest)) :
    ReadAs fuel text x rest := by
  obtain ⟨hread, hend⟩ := read_scalar_inv h
  obtain ⟨built, hp', heq⟩ := read_map_inv hread
  cases built with
  | error e => cases heq
  | ok n =>
      cases heq
      refine .number (fun c more htext => ?_) hend
        fun R hR hinline htake => hp hR hinline htake _ _ _ hp'
      cases hc : beginsArithmetic c with
      | true => rfl
      | false =>
          rw [htext, hrefuses hc] at hp'
          cases hp'

private theorem readAs_of_read_extension {fuel : Nat} {text rest : List Char} {x : Literal}
    (h : read (extension (fuel + 1)) text = some (.ok x, rest)) : ReadAs fuel text x rest := by
  simp only [extension, firstOf, List.foldl_cons, List.foldl_nil, read_orElse,
    Option.or_assoc, Option.or_eq_some_iff] at h
  rcases h with h | ⟨-, h | ⟨-, h | ⟨-, h⟩⟩⟩
  · obtain ⟨r, rfl, hr, hstands, htext⟩ := read_regexValue_inv (read_scalar_inv h).1
    exact .regex hr hstands htext
  · exact number_readAs (fun _ _ htake => moves_hexNumber htake)
      (fun hc => read_hexNumber_cons (beginsArithmetic_ne hc)) h
  · obtain ⟨a, hform, ⟨⟩⟩ := read_map_inv (read_scalar_inv h).1
    exact .date hform
  · exact number_readAs (fun hR hinline htake => moves_arithmetic hR hinline htake _)
      (fun hc => read_arithmetic_cons hc _) h

private theorem readAs_of_read_relaxed {fuel : Nat} {text rest : List Char} {x : Literal}
    (h : read (relaxed (value fuel)) text = some (.ok x, rest)) : ReadAs fuel text x rest := by
  simp only [relaxed, firstOf, List.foldl_cons, List.foldl_nil, read_orElse,
    Option.or_assoc, Option.or_eq_some_iff] at h
  rcases h with h | ⟨-, h | ⟨-, h | ⟨-, h | ⟨-, h | ⟨-, h⟩⟩⟩⟩⟩
  · obtain ⟨entries, rfl, hentries⟩ := read_object_inv h
    exact .mapping hentries
  · obtain ⟨items, rfl, hitems⟩ := read_array_inv h
    exact .sequence hitems
  · obtain ⟨s, hstring, ⟨⟩⟩ := read_map_inv h
    exact .string hstring
  · obtain ⟨a, hform, ⟨⟩⟩ := read_map_inv (read_scalar_inv h).1
    exact .constant hform
  · refine number_readAs (p := .ok <$> number) (fun _ _ htake => (moves_number htake).map)
      (fun hc text => ?_) ?_
    · rw [read_map, read_number_cons (beginsNumber_of_beginsArithmetic hc)]
      rfl
    · rw [← h, read_scalar, read_scalar, read_map, read_map, read_map, Option.map_map]
      rfl
  · obtain ⟨a, hform, ⟨⟩⟩ := read_map_inv h
    exact .plain hform

theorem readAs_of_read {fuel : Nat} {text rest : List Char} {x : Literal}
    (h : read (value (fuel + 1)) text = some (.ok x, rest)) : ReadAs fuel text x rest := by
  rw [read_value, Option.or_eq_some_iff] at h
  rcases h with h | ⟨-, h⟩
  · exact readAs_of_read_extension h
  · exact readAs_of_read_relaxed h

theorem mem_of_read_many {α : Type} {p : Reader α} (hp : Shortens p) {text rest : List Char}
    {as : List α} (h : read (many p) text = some (as, rest)) :
    ∀ a ∈ as, ∃ text rest, read p text = some (a, rest) := by
  refine many_induction hp (motive := fun _ as _ => ∀ a ∈ as, ∃ text rest,
    read p text = some (a, rest)) (fun _ _ => by simp) ?_ h
  intro text a middle as rest hfirst _ ih b hb
  rcases List.mem_cons.1 hb with rfl | hb
  · exact ⟨_, _, hfirst⟩
  · exact ih b hb

theorem mem_of_read_members {α : Type} {opening closing : Char} {member : Reader α}
    (hmember : Leaves member) {text rest : List Char} {found : List α}
    (h : read (members opening closing member) text = some (found, rest)) :
    ∀ a ∈ found, ∃ text rest, read member text = some (a, rest) := by
  obtain ⟨inside, -, ⟨rfl, -⟩ | ⟨a, as, middle, after, rfl, hfirst, hmore, -⟩⟩ :=
    read_members_inv h
  · simp
  · intro b hb
    rcases List.mem_cons.1 hb with rfl | hb
    · exact ⟨_, _, hfirst⟩
    · obtain ⟨text', rest', hnext⟩ := mem_of_read_many (shortens_nextMember hmember) hmore b hb
      rw [nextMember, read_bind] at hnext
      obtain ⟨_, -, hnext⟩ := Option.bind_eq_some_iff.1 hnext
      exact ⟨_, _, hnext⟩

/-- Whatever is read has unique keys and regex literals that can stand in a text. -/
theorem regular_of_read {fuel : Nat} {text rest : List Char} {x : Literal}
    (h : read (value fuel) text = some (.ok x, rest)) : x.Regular := by
  induction fuel generalizing text rest x with
  | zero => cases h
  | succ fuel ih =>
      cases readAs_of_read h with
      | regex hr _ _ => exact hr
      | number _ _ _ => trivial
      | date _ =>
          unfold dateOf
          split <;> trivial
      | constant _ =>
          unfold constantOf
          split
          · trivial
          · split <;> trivial
      | string _ => trivial
      | plain _ => trivial
      | sequence hitems =>
          refine regularItems_iff.2 fun item hitem => ?_
          obtain ⟨_, _, hread⟩ := mem_of_read_members (leaves_value fuel) hitems (.ok item)
            (List.mem_map_of_mem hitem)
          exact ih hread
      | mapping hentries =>
          refine regular_ofEntries fun entry hentry => ?_
          obtain ⟨_, _, hread⟩ := mem_of_read_members (leaves_objectMember (leaves_value fuel))
            hentries (entry.1.toList, .ok entry.2) (List.mem_map.2 ⟨entry, hentry, rfl⟩)
          obtain ⟨_, _, -, -, hread⟩ := read_objectMember_inv hread
          exact ih hread

theorem regular_of_parse {text : List Char} {x : Literal} (h : parse text = .ok x) :
    x.Regular := by
  rcases parse_ok_cases h with ⟨rest, hread, -⟩ | ⟨line, rest, -, rfl⟩
  · exact regular_of_read hread
  · trivial

end RuleBook.Notation
