import RuleBook.Json.Read

/-!
# Reading records from JSON

A record is read from an object, where fields that are left out keep their values and
unknown members are passed over, or from an array of its fields in order, of which the
last ones may be left out.  A field that is repeated is an error.
-/

namespace RuleBook.Json

def skipString? : Nat → List Char → Option (List Char)
  | 0, _ => none
  | _ + 1, [] => none
  | fuel + 1, c :: text =>
      if c = '"' then some text
      else if c.toNat < 0x20 then none
      else if c = '\\' then
        match text with
        | 'u' :: text => do
            let (_, text) ← takeUnit? text
            skipString? fuel text
        | escape :: text =>
            if (simpleEscape? escape).isSome then skipString? fuel text else none
        | [] => none
      else skipString? fuel text

mutual

def skipValue? : Nat → List Char → Option (List Char)
  | 0, _ => none
  | fuel + 1, text =>
      match text with
      | [] => none
      | '"' :: rest => skipString? (rest.length + 1) rest
      | '[' :: rest =>
          match skipBlanks rest with
          | ']' :: rest => some rest
          | rest => skipItems? fuel rest
      | '\x7b' :: rest =>
          match skipBlanks rest with
          | '\x7d' :: rest => some rest
          | rest => skipMembers? fuel rest
      | 'n' :: _ => (takeWord? "null" .null text).map (·.2)
      | 't' :: _ => (takeWord? "true" .null text).map (·.2)
      | 'f' :: _ => (takeWord? "false" .null text).map (·.2)
      | _ => (takeNumberText? text).map (·.2)

def skipItems? : Nat → List Char → Option (List Char)
  | 0, _ => none
  | fuel + 1, text => do
      let rest ← skipValue? fuel text
      match skipBlanks rest with
      | ']' :: rest => some rest
      | ',' :: rest => skipItems? fuel (skipBlanks rest)
      | _ => none

def skipMembers? : Nat → List Char → Option (List Char)
  | 0, _ => none
  | fuel + 1, text =>
      match text with
      | '"' :: rest => do
          let rest ← skipString? (rest.length + 1) rest
          match skipBlanks rest with
          | ':' :: rest =>
              let rest ← skipValue? fuel (skipBlanks rest)
              match skipBlanks rest with
              | '\x7d' :: rest => some rest
              | ',' :: rest => skipMembers? fuel (skipBlanks rest)
              | _ => none
          | _ => none
      | _ => none

end

structure Field (σ : Type) where
  name : String
  take? : σ → List Char → Option (σ × List Char)

namespace Field

variable {σ : Type}

def string (name : String) (put : String → σ → σ) : Field σ where
  name
  take? record text := (takeString? text).map fun (s, rest) => (put s record, rest)

def bool (name : String) (put : Bool → σ → σ) : Field σ where
  name
  take? record text :=
    match takeWord? "true" .null text, takeWord? "false" .null text with
    | some (_, rest), _ => some (put true record, rest)
    | none, some (_, rest) => some (put false record, rest)
    | none, none => none

def takeItems? : List (Field σ) → σ → List Char → Option (σ × List Char)
  | [], _, _ => none
  | field :: fields, record, text => do
      let (record, rest) ← field.take? record text
      match skipBlanks rest with
      | ']' :: rest => some (record, rest)
      | ',' :: rest => takeItems? fields record (skipBlanks rest)
      | _ => none

def takeMembers? (fields : List (Field σ)) :
    Nat → List String → σ → List Char → Option (σ × List Char)
  | 0, _, _, _ => none
  | fuel + 1, seen, record, text => do
      let (name, rest) ← takeString? text
      match skipBlanks rest with
      | ':' :: rest =>
          let rest := skipBlanks rest
          let (record, rest) ← match fields.find? (·.name == name) with
            | some field => if seen.contains name then none else field.take? record rest
            | none => (skipValue? (2 * rest.length + 2) rest).map (record, ·)
          match skipBlanks rest with
          | '\x7d' :: rest => some (record, rest)
          | ',' :: rest => takeMembers? fields fuel (name :: seen) record (skipBlanks rest)
          | _ => none
      | _ => none

def takeRecord? (fields : List (Field σ)) (record : σ) :
    List Char → Option (σ × List Char)
  | '[' :: text =>
      match skipBlanks text with
      | ']' :: rest => some (record, rest)
      | rest => takeItems? fields record rest
  | '\x7b' :: text =>
      match skipBlanks text with
      | '\x7d' :: rest => some (record, rest)
      | rest => takeMembers? fields (rest.length + 1) [] record rest
  | _ => none

def parse? (fields : List (Field σ)) (record : σ) (text : List Char) : Option σ := do
  let (record, rest) ← takeRecord? fields record (skipBlanks text)
  if skipBlanks rest = [] then some record else none

end Field

end RuleBook.Json
