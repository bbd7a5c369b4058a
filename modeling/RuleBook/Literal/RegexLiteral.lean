import RuleBook.Error
import RuleBook.Regex.Basic

/-!
# Regex literals

A regular expression as it is written, a source and flag letters, together with its
compiled form.  The compiled form is determined by the written one, so two literals
are equal when they are written alike.
-/

namespace RuleBook

/-- Of the flags `i`, `m`, `s` and `x` change how the source compiles; the others are
kept for writing. -/
structure RegexLiteral where
  source : String
  flags : String
  compiled : Regex
  compiles : Regex.compile? source.toList flags.toList = some compiled

namespace RegexLiteral

def knownFlags : List Char := ['d', 'g', 'i', 'm', 's', 'u', 'v', 'x', 'y']

/-- Flags are checked before the source. -/
def ofSource (source flags : String) : Except ParseError RegexLiteral :=
  match flags.toList.find? fun flag => !knownFlags.contains flag with
  | some flag => .error (.unknownFlag flag source flags)
  | none =>
      match h : Regex.compile? source.toList flags.toList with
      | some compiled => .ok ⟨source, flags, compiled, h⟩
      | none => .error (.invalidRegex source flags)

def isFoundIn (r : RegexLiteral) (text : String) : Bool := r.compiled.isFoundIn text.toList

theorem ext_of_written {a b : RegexLiteral} (hsource : a.source = b.source)
    (hflags : a.flags = b.flags) : a = b := by
  obtain ⟨source, flags, compiled, compiles⟩ := a
  obtain ⟨source', flags', compiled', compiles'⟩ := b
  subst hsource hflags
  cases compiles.symm.trans compiles'
  rfl

instance : DecidableEq RegexLiteral := fun a b =>
  if h : a.source = b.source ∧ a.flags = b.flags then
    isTrue (ext_of_written h.1 h.2)
  else
    isFalse fun hab => h (hab ▸ ⟨rfl, rfl⟩)

end RegexLiteral

end RuleBook
