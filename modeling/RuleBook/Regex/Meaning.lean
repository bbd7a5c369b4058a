import RuleBook.Regex.Class
import RuleBook.Regex.Expr
import RuleBook.Regex.Form

/-!
# What patterns mean

From a syntax tree to a simplified pattern, where flags take effect, and from there to
an expression over character sets.
-/

namespace RuleBook.Regex

/-- A character under flags.  With the Unicode flag off only ASCII letters have another
case. -/
def Flags.charForm (flags : Flags) (c : Char) : Form :=
  if flags.ignoreCase ∧ (flags.unicode ∨ c.toNat < 0x80) then
    .ofSet (flags.closeCase (.single c.toNat))
  else .literal [c]

def Atom.toForm? (flags : Flags) : Atom → Option Form
  | .char c mayBeByte =>
      if flags.allowsChar c mayBeByte then some (flags.charForm c) else none
  | .dot => flags.dotSet?.map .ofSet
  | .assertion a => some (.look (flags.look a))
  | .kind k negated => (flags.negate? negated (flags.kindSet k)).map .ofSet
  | .property query negated => (flags.propertySet? query negated).map .ofSet

mutual

/-- The simplified form of a tree, and the flags that hold after it. -/
def Tree.toForm? (flags : Flags) : Tree → Option (Form × Flags)
  | .empty => some (.empty, flags)
  | .atom a => (a.toForm? flags).map (·, flags)
  | .bracket negated inside =>
      ((inside.toSet? flags).bind (flags.closeAndNegate? negated)).map fun set =>
        (.ofSet set, flags)
  | .flags changes => some (.empty, flags.applyAll changes)
  | .group changes body =>
      (body.toForm? (flags.applyAll changes)).map fun (form, _) => (form, flags)
  | .capture body => (body.toForm? flags).map fun (form, _) => (.capture form, flags)
  | .repetition body least greatest isLazy =>
      (body.toForm? flags).map fun (form, after) =>
        (.ofRepetition form least greatest (isLazy == flags.swapGreed), after)
  | .concat items =>
      (formsOfTrees? flags items).map fun (forms, flags) => (.ofItems forms, flags)
  | .alternation branches =>
      (formsOfTrees? flags branches).map fun (forms, flags) => (.ofAlternatives forms, flags)

def formsOfTrees? (flags : Flags) : List Tree → Option (List Form × Flags)
  | [] => some ([], flags)
  | tree :: trees => do
      let (form, flags) ← tree.toForm? flags
      let (forms, flags) ← formsOfTrees? flags trees
      some (form :: forms, flags)

end

abbrev Meaning := Expr CharSet Look

mutual

def Form.toExpr : Form → Meaning
  | .empty => .empty
  | .literal text => .catAll (text.map fun c => .step (.single c.toNat))
  | .set members => .step members
  | .look asked => .look asked
  | .repeated body least greatest _ => .rep body.toExpr least greatest
  | .capture body => body.toExpr
  | .cat items => .catAll (exprsOfForms items)
  | .alt branches =>
      match exprsOfForms branches with
      | [] => .step .empty
      | first :: rest => .altAll first rest

def exprsOfForms : List Form → List Meaning
  | [] => []
  | form :: forms => form.toExpr :: exprsOfForms forms

end

end RuleBook.Regex
