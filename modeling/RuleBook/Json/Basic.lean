/-!
# JSON values

Objects are lists of members; those that are read from text or built in sorted form
have ascending keys without repetitions.
-/

namespace RuleBook

inductive Json where
  | null
  | bool (b : Bool)
  /-- A whole number that is written without a point. -/
  | natural (n : Nat)
  | number (x : Float)
  | string (s : String)
  | array (items : List Json)
  | object (members : List (String × Json))
  deriving Inhabited

namespace Json

def insertMember (key : String) (value : Json) :
    List (String × Json) → List (String × Json)
  | [] => [(key, value)]
  | (k, old) :: members =>
      if key = k then (key, value) :: members
      else if key < k then (key, value) :: (k, old) :: members
      else (k, old) :: insertMember key value members

def sortMembers (members : List (String × Json)) : List (String × Json) :=
  members.foldl (fun sorted (key, value) => insertMember key value sorted) []

end Json

end RuleBook
