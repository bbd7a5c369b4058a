import RuleBook.Proofs.Rule.Text
import RuleBook.RuleSet.Basic

/-!
# Rule sets from their texts

The text of a rule set is cut at every rule separator, also where one stands in a literal or
in a name.  Literals are written on one line, so with the default separators only a name can
hold one.
-/

namespace RuleBook.Rule

open Notation Text WrittenRule

/-- Without regex literals, and with a name that does not hold the rule separator. -/
structure IsSeparable (rule : Rule) : Prop where
  head : rule.head.Plain
  tail : rule.tail.Plain
  name : ¬";\n".toList <:+: rule.name.toList

namespace IsSeparable

variable {rule : Rule} (h : rule.IsSeparable)

include h

theorem ofText_text : ∃ again, ofText {} (rule.text {}) none "" = .ok again ∧
    again.head = rule.head ∧ again.tail = rule.tail ∧ again.name = rule.name := by
  have hsurvives {x : Literal} (hx : x.Plain) : x.Survives :=
    Literal.survives_iff.2 ⟨hx.regular, hx.stands []⟩
  have hheadTail : IsToken "-->".toList := ⟨by decide, by decide⟩
  have hname : IsToken "#==".toList := ⟨by decide, by decide⟩
  have harrow := h.head.unread_of_foreign hheadTail (.inr ⟨'>', by decide, by decide⟩)
  have hhash := h.tail.unread_of_foreign hname (.inr ⟨'#', by decide, by decide⟩)
  exact Rule.ofText_text hheadTail hname (hsurvives h.head) (hsurvives h.tail) harrow hhash

theorem write_eq : rule.write {} = Notation.write rule.head ++ ' ' :: ("-->".toList ++
    ' ' :: (Notation.write rule.tail ++ rule.nameText {})) :=
  Rule.write_eq ⟨by decide, by decide⟩ h.head.regular h.tail.regular

theorem not_infix_write : ¬";\n".toList <:+: rule.write {} := by
  have hline {s : List Char} (hs : ∀ c ∈ s, isLineBreak c = false) : ¬";\n".toList <:+: s := by
    intro hwithin
    cases hs '\n' (hwithin.subset (by decide))
  have hwritten {x : Literal} (hx : x.Plain) : ¬";\n".toList <:+: Notation.write x :=
    hline (isLineBreak_write hx.regular)
  have hblank : ' ' ∉ ";\n".toList := by decide
  have harrow : ¬";\n".toList <:+: "-->".toList := hline (by decide)
  have hhash : ¬";\n".toList <:+: "#==".toList := hline (by decide)
  rw [h.write_eq]
  refine not_infix_append_cons hblank (hwritten h.head)
    (not_infix_append_cons hblank harrow ?_)
  unfold nameText
  split
  · rw [List.append_nil]
    exact hwritten h.tail
  · exact not_infix_append_cons hblank (hwritten h.tail)
      (not_infix_append_cons hblank hhash h.name)

theorem all_isBlank_write : (rule.write {}).all isBlank = false := by
  obtain ⟨c, more, hcons, hc⟩ := (isTrimmed_write h.head.regular).head
  rw [h.write_eq, hcons, List.all_eq_false]
  exact ⟨c, by simp, by simp [hc]⟩

end IsSeparable

end RuleBook.Rule

namespace RuleBook.RuleSet

open Text

theorem specs_text {set other : RuleSet} (hset : set.separators = {})
    (hother : other.separators = {}) (hrules : ∀ rule ∈ set.rules, rule.IsSeparable) :
    other.specs (.text set.text) = set.rules.map fun rule => .text (rule.text {}) none "" := by
  have hpieces {P : List Char → Prop} (hP : ∀ rule : Rule, rule.IsSeparable → P (rule.write {})) :
      ∀ piece ∈ set.rules.map (Rule.write {}), P piece :=
    List.forall_mem_map.2 fun rule hrule => hP rule (hrules rule hrule)
  have hfilter : ∀ piece ∈ set.rules.map (Rule.write {}), (!piece.all isBlank) = true :=
    hpieces fun rule h => by rw [h.all_isBlank_write]; rfl
  rw [specs, text, String.toList_ofList, write, hset, hother]
  cases hempty : set.rules with
  | nil => rfl
  | cons first rules =>
      have hsplit : splitOn ";\n".toList (join ";\n".toList (set.rules.map (Rule.write {}))) =
          set.rules.map (Rule.write {}) :=
        @splitOn_join [';'] '\n' (by decide) _ (by simp [hempty])
          (hpieces fun _ h => h.not_infix_write)
      rw [← hempty, hsplit, List.filter_eq_self.2 hfilter, List.map_map]
      rfl

theorem build_text {set : RuleSet} (hset : set.separators = {}) {rule : Rule}
    (h : rule.IsSeparable) :
    ∃ again, set.build (.text (rule.text {}) none "") = .ok again ∧ again.head = rule.head ∧
      again.tail = rule.tail ∧ again.name = rule.name := by
  obtain ⟨again, hagain, hparts⟩ := h.ofText_text
  refine ⟨{ again with now? := set.now? }, ?_, hparts⟩
  rw [build, hset, hagain]
  rfl

theorem mapM_build_text {set : RuleSet} (hset : set.separators = {}) {rules : List Rule}
    (hrules : ∀ rule ∈ rules, rule.IsSeparable) :
    ∃ again, (rules.map fun rule => .text (rule.text {}) none "").mapM set.build = .ok again ∧
      again.map (fun rule => (rule.head, rule.tail, rule.name)) =
        rules.map fun rule => (rule.head, rule.tail, rule.name) := by
  induction rules with
  | nil => exact ⟨[], rfl, rfl⟩
  | cons rule rules ih =>
      obtain ⟨hrule, hmore⟩ := List.forall_mem_cons.1 hrules
      obtain ⟨first, hfirst, hhead, htail, hname⟩ := build_text hset hrule
      obtain ⟨again, hagain, hparts⟩ := ih hmore
      refine ⟨first :: again, ?_, by simp [hhead, htail, hname, hparts]⟩
      rw [List.map_cons, List.mapM_cons, hfirst, hagain]
      rfl

/-- A rule set without regex literals is read back from its text rule by rule, where no
name holds the rule separator. -/
theorem ofSource_text_of_separable {set : RuleSet} (hset : set.separators = {})
    (hrules : ∀ rule ∈ set.rules, rule.IsSeparable) (name : String) :
    ∃ again, ofSource name (.text set.text) = .ok again ∧
      again.rules.map (fun rule => (rule.head, rule.tail, rule.name)) =
        set.rules.map fun rule => (rule.head, rule.tail, rule.name) := by
  obtain ⟨rules, hread, hparts⟩ := @mapM_build_text { name } rfl _ hrules
  refine ⟨{ name, rules }, ?_, hparts⟩
  rw [ofSource, addAll, specs_text hset rfl hrules, hread]
  rfl

/-- The rule separator in a string, and names that end in its first character and hold its
second one. -/
theorem ofSource_text_of_separable_semicolon :
    ∃ set : RuleSet, set.rules.map (fun rule => (rule.head, rule.tail, rule.name)) =
        [(.mapping [("a", .string ";\n")], .number Number.nan, "x;"),
          (.null, .string "#==", "y\n--> z"), (.string "-->", .bool true, "")] ∧
      ∃ again, ofSource "read" (.text set.text) = .ok again ∧
        again.rules.map (fun rule => (rule.head, rule.tail, rule.name)) =
          set.rules.map fun rule => (rule.head, rule.tail, rule.name) := by
  let first : Rule :=
    { head := .mapping [("a", .string ";\n")]
      tail := .number Number.nan
      name := "x;"
      now? := none
      plan := _
      planned := rfl
      trimmed := by decide }
  let second : Rule :=
    { head := .null
      tail := .string "#=="
      name := "y\n--> z"
      now? := none
      plan := _
      planned := rfl
      trimmed := by decide }
  let third : Rule :=
    { head := .string "-->"
      tail := .bool true
      name := ""
      now? := none
      plan := _
      planned := rfl
      trimmed := rfl }
  have hfirst : first.IsSeparable := ⟨⟨by decide, trivial, trivial⟩, trivial, by decide⟩
  have hsecond : second.IsSeparable := ⟨trivial, trivial, by decide⟩
  have hthird : third.IsSeparable := ⟨trivial, trivial, by decide⟩
  refine ⟨{ rules := [first, second, third] }, rfl, ofSource_text_of_separable rfl ?_ "read"⟩
  intro rule hrule
  simp only [List.mem_cons, List.not_mem_nil, or_false] at hrule
  rcases hrule with rfl | rfl | rfl
  · exact hfirst
  · exact hsecond
  · exact hthird

end RuleBook.RuleSet
