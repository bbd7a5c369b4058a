/-!
# Separators in texts

Cutting a text at a separator token: every place where the token stands, read from
left to right without overlaps, and the pieces between those places.
-/

namespace RuleBook.Text

def dropToken? : List Char → List Char → Option (List Char)
  | [], text => some text
  | _ :: _, [] => none
  | t :: token, c :: text => if t = c then dropToken? token text else none

theorem dropToken?_eq_some_iff {token text rest : List Char} :
    dropToken? token text = some rest ↔ text = token ++ rest := by
  induction token generalizing text with
  | nil => simp [dropToken?, eq_comm]
  | cons t token ih =>
      cases text with
      | nil => simp [dropToken?]
      | cons c text =>
          by_cases h : t = c
          · simp [dropToken?, h, ih]
          · simp [dropToken?, h, Ne.symm h]

/-- The text before and after each place of the token.  Characters of a place that
was found are skipped, and an empty token stands nowhere. -/
def occurrencesFrom (token : List Char) :
    List Char → Nat → List Char → List (List Char × List Char)
  | _, _, [] => []
  | before, skip + 1, c :: text => occurrencesFrom token (c :: before) skip text
  | before, 0, c :: text =>
      match dropToken? token (c :: text) with
      | some after =>
          (before.reverse, after) ::
            occurrencesFrom token (c :: before) (token.length - 1) text
      | none => occurrencesFrom token (c :: before) 0 text

def occurrences (token text : List Char) : List (List Char × List Char) :=
  if token = [] then [] else occurrencesFrom token [] 0 text

def piecesFrom (token : List Char) : List Char → Nat → List Char → List (List Char)
  | piece, _, [] => [piece.reverse]
  | piece, skip + 1, _ :: text => piecesFrom token piece skip text
  | piece, 0, c :: text =>
      match dropToken? token (c :: text) with
      | some _ => piece.reverse :: piecesFrom token [] (token.length - 1) text
      | none => piecesFrom token (c :: piece) 0 text

/-- The pieces of a text; an empty token cuts before, after and between all
characters. -/
def splitOn (token text : List Char) : List (List Char) :=
  if token = [] then [] :: (text.map fun c => [c]) ++ [[]]
  else piecesFrom token [] 0 text

def join (token : List Char) : List (List Char) → List Char
  | [] => []
  | [piece] => piece
  | piece :: pieces => piece ++ token ++ join token pieces

end RuleBook.Text
