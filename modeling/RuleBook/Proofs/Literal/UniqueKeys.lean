import RuleBook.Literal.Json
import RuleBook.Proofs.Literal.Reordering
import RuleBook.Proofs.Notation.LaidOut
import RuleBook.Proofs.Notation.Reading
import RuleBook.Proofs.Reference.Substitution

/-!
# Unique keys of literals from outside

Texts, JSON values and lists of entries may repeat a key.  None of the literals that are made
of them does, at any depth, and the values of a record that are put in the place of markers
keep it so.  In a text the entry that is kept of a repeated key stands where the key came
first, with the value that came last.
-/

namespace RuleBook

namespace Literal

theorem uniqueKeys_ofEntries {entries : List (String × Literal)}
    (h : ∀ entry ∈ entries, entry.2.UniqueKeys) :
    (ofEntries entries).UniqueKeys := by
  obtain ⟨kept, hkept, hnodup, hmem⟩ := ofEntries_spec entries
  rw [hkept]
  exact ⟨hnodup, uniqueKeysEntries_iff.2 fun entry hentry => h entry (hmem entry hentry)⟩

theorem uniqueKeys_of_parse {text : String} {x : Literal} (h : Literal.parse text = .ok x) :
    x.UniqueKeys :=
  (Notation.regular_of_parse h).uniqueKeys

mutual

theorem regular_ofJson : ∀ value : Json, (ofJson value).Regular
  | .null => trivial
  | .bool _ => trivial
  | .natural _ => trivial
  | .number _ => trivial
  | .string _ => trivial
  | .array items => regularItems_ofJsonItems items
  | .object members => regular_ofEntries (regular_ofJsonMembers members)

theorem regularItems_ofJsonItems : ∀ items : List Json, RegularItems (ofJsonItems items)
  | [] => trivial
  | item :: items => ⟨regular_ofJson item, regularItems_ofJsonItems items⟩

theorem regular_ofJsonMembers : ∀ members : List (String × Json),
    ∀ entry ∈ ofJsonMembers members, entry.2.Regular
  | [], _, hentry => by cases hentry
  | (_, value) :: members, entry, hentry => by
      rcases List.mem_cons.1 hentry with rfl | hmore
      · exact regular_ofJson value
      · exact regular_ofJsonMembers members entry hmore

end

theorem uniqueKeys_ofJson (value : Json) : (ofJson value).UniqueKeys :=
  (regular_ofJson value).uniqueKeys

theorem uniqueKeys_of_parseJson {text : String} {x : Literal} (h : parseJson text = .ok x) :
    x.UniqueKeys := by
  rw [parseJson] at h
  split at h
  · next value hvalue =>
    cases h
    exact uniqueKeys_ofJson value
  · cases h

end Literal

namespace Reference

open Literal

variable {resolve : Literal → Literal}

theorem inherited_uniqueKeys : Inherited UniqueKeys where
  item h := uniqueKeysItems_iff.1 h
  entry h := uniqueKeysEntries_iff.1 h.2

mutual

theorem uniqueKeys_substitute (hresolve : ∀ target, (resolve target).UniqueKeys) :
    ∀ {x : Literal}, x.UniqueKeys → (substitute resolve x).UniqueKeys
  | .mapping entries, h => by
      cases hlookup : lookup markerKey entries with
      | some target =>
          rw [substitute_marker hlookup]
          exact hresolve target
      | none =>
          rw [substitute_mapping hlookup]
          have hkeys : (substituteEntries resolve entries).map Prod.fst = entries.map Prod.fst := by
            rw [substituteEntries_eq_map, List.map_map]
            rfl
          exact ⟨hkeys ▸ h.1, uniqueKeysEntries_substitute hresolve h.2⟩
  | .sequence items, h => by
      rw [substitute]
      exact uniqueKeysItems_substitute hresolve h
  | .null, _ => trivial
  | .bool _, _ => trivial
  | .number _, _ => trivial
  | .string _, _ => trivial
  | .date _, _ => trivial
  | .regex _, _ => trivial
  | .binary _, _ => trivial

theorem uniqueKeysItems_substitute (hresolve : ∀ target, (resolve target).UniqueKeys) :
    ∀ {items : List Literal}, UniqueKeysItems items →
      UniqueKeysItems (substituteItems resolve items)
  | [], _ => trivial
  | _ :: _, h => ⟨uniqueKeys_substitute hresolve h.1, uniqueKeysItems_substitute hresolve h.2⟩

theorem uniqueKeysEntries_substitute (hresolve : ∀ target, (resolve target).UniqueKeys) :
    ∀ {entries : List (String × Literal)}, UniqueKeysEntries entries →
      UniqueKeysEntries (substituteEntries resolve entries)
  | [], _ => trivial
  | _ :: _, h => ⟨uniqueKeys_substitute hresolve h.1, uniqueKeysEntries_substitute hresolve h.2⟩

end

theorem uniqueKeys_dereference {head record : Literal} (hhead : head.UniqueKeys)
    (hrecord : record.UniqueKeys) : (dereference head record).UniqueKeys :=
  uniqueKeys_substitute (inherited_uniqueKeys.target trivial hrecord) hhead

end Reference

namespace Notation

open Reader Literal

variable {kept : List (String × Literal)}

theorem read_value_mapping_iff {fuel : Nat} {text rest : List Char} :
    read (value (fuel + 1)) text = some (.ok (.mapping kept), rest) ↔
      ∃ entries, Gathered entries kept ∧
        read (members '\x7b' '\x7d' (objectMember (value fuel))) text =
          some (entries.map fun entry => (entry.1.toList, .ok entry.2), rest) := by
  constructor
  · intro h
    have hform := readAs_of_read h
    -- Each form has its own value, and only gathered entries can be a mapping.
    generalize hx : Literal.mapping kept = x at hform
    cases hform with
    | mapping hentries => exact ⟨_, ofEntries_eq_iff.1 hx.symm, hentries⟩
    | date _ =>
        unfold dateOf at hx
        split at hx <;> cases hx
    | constant _ =>
        unfold constantOf at hx
        split at hx
        · cases hx
        · split at hx <;> cases hx
    | _ => cases hx
  · rintro ⟨entries, hgathered, hmembers⟩
    obtain ⟨inside, rfl, -⟩ := read_members_inv hmembers
    rw [read_value_brace, hmembers, Option.map_some, collectEntries_map_ok,
      ← ofEntries_eq_iff.2 hgathered]
    rfl

/-- A text denotes a mapping when entries between braces are all that it has but for layout. -/
theorem parse_mapping_iff {text : List Char} :
    parse text = .ok (.mapping kept) ↔
      ∃ entries rest, Gathered entries kept ∧ skipLayout rest = [] ∧
        read (members '\x7b' '\x7d' (objectMember (value text.length))) (skipLayout text) =
          some (entries.map fun entry => (entry.1.toList, .ok entry.2), rest) := by
  constructor
  · intro h
    rcases parse_ok_cases h with ⟨rest, hread, hend⟩ | ⟨line, rest, -, hline⟩
    · obtain ⟨entries, hgathered, hmembers⟩ := read_value_mapping_iff.1 hread
      exact ⟨entries, rest, hgathered, hend, hmembers⟩
    · cases hline
  · rintro ⟨entries, rest, hgathered, hend, hmembers⟩
    exact parse_of_read_value (read_value_mapping_iff.2 ⟨entries, hgathered, hmembers⟩) hend

theorem parse_laidOut_mapping {entries : List (String × Literal)} {before text after : List Char}
    (hbefore : Gap before) (h : Bracketed (Entry LaidOut) '\x7b' '\x7d' entries text)
    (hafter : Gap after) :
    ∃ kept, Gathered entries kept ∧
      Literal.parse (String.ofList (before ++ (text ++ after))) = .ok (.mapping kept) := by
  obtain ⟨kept, hkept, hgathered, -⟩ := exists_gathered entries
  exact ⟨kept, hgathered, hkept ▸ parse_laidOut hbefore (.mapping h) hafter⟩

end Notation

namespace Literal

open Notation Reader

/-- No literal that is made from a text, from JSON or from a list of entries, and no head with
values of a record in it, repeats a key.  The last three parts are about the keys that a text
repeats: in the whole of it, at any depth, and in a text that is described without reading it. -/
theorem uniqueKeys_from_outside :
    (∀ text x, Literal.parse text = .ok x → x.UniqueKeys) ∧
    (∀ value : Json, (ofJson value).UniqueKeys) ∧
    (∀ text x, parseJson text = .ok x → x.UniqueKeys) ∧
    (∀ entries, (∀ entry ∈ entries, entry.2.UniqueKeys) → (ofEntries entries).UniqueKeys) ∧
    (∀ x : Literal, x.UniqueKeys → (ofJson x.toSortedJson).UniqueKeys) ∧
    (∀ head record : Literal, head.UniqueKeys → record.UniqueKeys →
      (Reference.dereference head record).UniqueKeys) ∧
    (∀ text kept, Literal.parse (String.ofList text) = .ok (.mapping kept) ↔
      ∃ entries rest, Gathered entries kept ∧ skipLayout rest = [] ∧
        read (members '\x7b' '\x7d' (objectMember (value text.length))) (skipLayout text) =
          some (entries.map fun entry => (entry.1.toList, .ok entry.2), rest)) ∧
    (∀ fuel text rest kept, read (value (fuel + 1)) text = some (.ok (.mapping kept), rest) ↔
      ∃ entries, Gathered entries kept ∧
        read (members '\x7b' '\x7d' (objectMember (value fuel))) text =
          some (entries.map fun entry => (entry.1.toList, .ok entry.2), rest)) ∧
    ∀ entries before text after, Gap before →
      Bracketed (Entry LaidOut) '\x7b' '\x7d' entries text → Gap after →
      ∃ kept, Gathered entries kept ∧
        Literal.parse (String.ofList (before ++ (text ++ after))) = .ok (.mapping kept) := by
  refine ⟨fun _ _ => uniqueKeys_of_parse, uniqueKeys_ofJson, fun _ _ => uniqueKeys_of_parseJson,
    fun _ => uniqueKeys_ofEntries, fun x _ => uniqueKeys_ofJson x.toSortedJson,
    fun _ _ => Reference.uniqueKeys_dereference, fun text kept => ?_,
    fun _ _ _ _ => read_value_mapping_iff, fun _ _ _ _ => parse_laidOut_mapping⟩
  rw [Literal.parse, String.toList_ofList]
  exact parse_mapping_iff

/-- A key with two values in a text, in JSON and in a list of entries, and a marker that a
mapping of the record is put in the place of. -/
theorem uniqueKeys_from_outside_repeated :
    let entries : List (String × Literal) := [("a", .bool true), ("b", .null), ("a", .bool false)]
    let kept : List (String × Literal) := [("a", .bool false), ("b", .null)]
    let text := "\x7ba: true, b: null, a: false\x7d"
    let json := "\x7b\"a\": true, \"b\": null, \"a\": false\x7d"
    let head : Literal := .mapping [("c", .mapping [(Reference.markerKey, .string "/d")])]
    let record : Literal := .mapping [("d", .mapping kept)]
    (Literal.parse text = .ok (.mapping kept) ∧ Gathered entries kept ∧
        (Literal.mapping kept).UniqueKeys) ∧
      (parseJson json = .ok (.mapping kept) ∧ (Literal.mapping kept).UniqueKeys) ∧
      (ofEntries entries = .mapping kept ∧ (ofEntries entries).UniqueKeys) ∧
      (ofJson (Literal.mapping kept).toSortedJson).UniqueKeys ∧
      Reference.dereference head record = .mapping [("c", .mapping kept)] ∧
        (Reference.dereference head record).UniqueKeys := by
  intro entries kept text json head record
  obtain ⟨hparse, -, hjson, hentries, hback, hhead, -, -, hlaidOut⟩ := uniqueKeys_from_outside
  have hgathered : Gathered entries kept := ofEntries_eq_iff.1 rfl
  have hspace : Gap [' '] := .single (.inline .space)
  have ha : Key ['a'] (['a'] ++ []) := .bare (by decide) .nil (by decide)
  have hb : Key ['b'] (['b'] ++ []) := .bare (by decide) .nil (by decide)
  have hbracketed : Bracketed (Entry LaidOut) '\x7b' '\x7d' entries _ :=
    .full .nil (.cons (.mk ha hspace (.bool true)) .nil .comma hspace
      (.cons (.mk hb hspace .null) .nil .comma hspace
        (.last (.mk ha hspace (.bool false)) .nil (.inl rfl) .nil)))
  obtain ⟨found, hfound, hread⟩ := hlaidOut entries [] _ [] .nil hbracketed .nil
  rw [← ofEntries_eq_iff.2 hfound, ofEntries_eq_iff.2 hgathered] at hread
  have htext : Literal.parse text = .ok (.mapping kept) := hread
  have hparsed : parseJson json = .ok (.mapping kept) := by cbv
  have hunique := hparse _ _ htext
  exact ⟨⟨htext, hgathered, hunique⟩, ⟨hparsed, hjson _ _ hparsed⟩,
    ⟨rfl, hentries _ (by simp [entries, UniqueKeys])⟩, hback _ hunique, by rfl,
    hhead head record ⟨by simp, ⟨by simp, trivial, trivial⟩, trivial⟩
      ⟨by simp, hunique, trivial⟩⟩

end Literal

end RuleBook
