import RuleBook.Proofs.Matching.Compile
import RuleBook.Proofs.Reference.Filling

/-!
# Operands that stay unresolved

A marker that leads nowhere stands for NaN.  As a head or a value to compare with, NaN
compiles; most operators that check their operands refuse it.
-/

namespace RuleBook

open Literal Reference

def Operator.refusesNaN : Operator → Bool
  | .isIn | .notIn | .regex | .and | .or | .nor | .all | .size | .mod | .type => true
  | .olderThan | .newerThan => true
  | _ => false

namespace Predicate

mutual

/-- Whether a marker of a head stands where NaN is refused: as the operand of an operator
that refuses it, or as the options beside a regular expression. -/
def needsValue : Literal → Bool
  | .mapping entries =>
      (lookup markerKey entries).isNone && needsValueEntries entries entries
  | _ => false

def needsValueOperands : Literal → Bool
  | .sequence items => needsValueItems items
  | _ => false

def needsValueItems : List Literal → Bool
  | [] => false
  | item :: items => needsValue item || needsValueItems items

def needsValueEntries (siblings : List (String × Literal)) : List (String × Literal) → Bool
  | [] => false
  | entry :: entries => needsValueEntry siblings entry || needsValueEntries siblings entries

def needsValueEntry (siblings : List (String × Literal)) : String × Literal → Bool
  | (key, operand) =>
      match Operator.ofKey? key with
      | none => needsValue operand
      | some .not => needsValue operand
      | some .elemMatch => needsValue operand
      | some .and => isMarker operand || needsValueOperands operand
      | some .or => isMarker operand || needsValueOperands operand
      | some .nor => isMarker operand || needsValueOperands operand
      | some .regex =>
          isMarker operand || (lookup Operator.options.key siblings).any isMarker
      | some operator => operator.refusesNaN && isMarker operand

end

theorem isOk_compileOperator_nan (operator : Operator) (siblings : List (String × Literal)) :
    (compileOperator operator .nan siblings).isOk = !operator.refusesNaN := by
  cases operator with
  | regex =>
      show (Operand.regex .nan (lookup Operator.options.key siblings) >>= _).isOk = false
      rw [Operand.regex]
      cases Operand.regexOptions (lookup Operator.options.key siblings) <;> rfl
  | _ => rfl

theorem needsValue_of_isMarker {x : Literal} (h : isMarker x = true) : needsValue x = false := by
  cases x with
  | mapping entries =>
      obtain ⟨target, htarget⟩ := Option.isSome_iff_exists.1 h
      rw [needsValue, htarget]
      rfl
  | _ => cases h

section

variable {operator : Operator} {x y : Literal} {xs ys siblings siblings' : List (String × Literal)}

theorem ofOperand_siblings (hoperator : operator ≠ .regex) :
    ofOperand operator x siblings = ofOperand operator x siblings' := by
  cases operator with
  | regex => exact absurd rfl hoperator
  | _ => rfl

theorem isOk_ofOperand_sequence {items items' : List Literal} (hregex : operator ≠ .regex)
    (hmod : operator ≠ .mod) :
    (ofOperand operator (.sequence items) siblings).isOk =
      (ofOperand operator (.sequence items') siblings').isOk := by
  cases operator with
  | regex => exact absurd rfl hregex
  | mod => exact absurd rfl hmod
  | _ => rfl

theorem isOk_ofOperand_mapping (hregex : operator ≠ .regex) :
    (ofOperand operator (.mapping xs) siblings).isOk =
      (ofOperand operator (.mapping ys) siblings').isOk := by
  cases operator with
  | regex => exact absurd rfl hregex
  | _ => rfl

theorem exists_number_of_fills {n : Float} (h : Fills x (.number n)) :
    ∃ m, blank x = .number m := by
  cases hmarker : isMarker x with
  | true => exact ⟨_, blank_of_isMarker hmarker⟩
  | false =>
      rcases h.cases hmarker with ⟨rfl, hblank⟩ | ⟨_, _, -, ⟨⟩, -⟩ | ⟨_, _, -, ⟨⟩, -⟩
      exact ⟨n, hblank⟩

theorem isOk_divisorAndRemainder_blank {items items' : List Literal}
    (hitems : FillsItems items items')
    (h : (Operand.divisorAndRemainder .mod (.sequence items')).isOk = true) :
    (Operand.divisorAndRemainder .mod (blank (.sequence items))).isOk = true := by
  have hpair : ∃ divisor remainder, items' = [.number divisor, .number remainder] := by
    simp only [Operand.divisorAndRemainder, Operand.items, bind, Except.bind] at h
    split at h
    · exact ⟨_, _, rfl⟩
    · cases h
  obtain ⟨divisor, remainder, rfl⟩ := hpair
  obtain ⟨a, b, rfl, ha, hb⟩ := exists_pair_of_fillsItems hitems
  obtain ⟨m, hm⟩ := exists_number_of_fills ha
  obtain ⟨n, hn⟩ := exists_number_of_fills hb
  show (Operand.divisorAndRemainder .mod (.sequence [blank a, blank b])).isOk = true
  rw [hm, hn]
  rfl

theorem isOk_ofOperand_blank (hregex : operator ≠ .regex) (hfills : Fills x y)
    (hmarker : isMarker x = false) (h : (ofOperand operator y siblings).isOk = true) :
    (ofOperand operator (blank x) siblings').isOk = true := by
  rcases hfills.cases hmarker with ⟨rfl, hblank⟩ | ⟨items, items', rfl, rfl, hitems⟩ |
    ⟨xs, ys, rfl, rfl, -, hblank⟩
  · rwa [hblank, ofOperand_siblings hregex]
  · by_cases hmod : operator = .mod
    · subst hmod
      rw [isOk_ofOperand_mod] at h ⊢
      exact isOk_divisorAndRemainder_blank hitems h
    · exact (isOk_ofOperand_sequence hregex hmod).trans h
  · rw [hblank]
    exact (isOk_ofOperand_mapping hregex).trans h

theorem options_blank_cases {a b : Option Literal} (hfills : Option.Rel Fills a b)
    (h : (Operand.regexOptions b).isOk = true) :
    (a.any isMarker = true ∧ a.map blank = some .nan) ∨
      (a.any isMarker = false ∧ a.map blank = b) := by
  cases hfills with
  | none => exact .inr ⟨rfl, rfl⟩
  | @some x y hxy =>
      cases hmarker : isMarker x with
      | true => exact .inl ⟨hmarker, congrArg some (blank_of_isMarker hmarker)⟩
      | false =>
          rcases hxy.cases hmarker with ⟨rfl, hblank⟩ | ⟨_, _, -, rfl, -⟩ | ⟨_, _, -, rfl, -⟩
          · exact .inr ⟨hmarker, congrArg some hblank⟩
          · cases h
          · cases h

theorem isOk_regex_blank {a b : Option Literal} (hoptions : Option.Rel Fills a b)
    (hfills : Fills x y) (hmarker : isMarker x = false) (h : (Operand.regex y b).isOk = true) :
    (Operand.regex (blank x) (a.map blank)).isOk = !a.any isMarker := by
  cases hflags : Operand.regexOptions b with
  | error e =>
      rw [Operand.regex, hflags] at h
      cases h
  | ok flags =>
      have hsource : y = x ∧ blank x = x := by
        rcases hfills.cases hmarker with hscalar | ⟨_, _, -, rfl, -⟩ | ⟨_, _, -, rfl, -⟩
        · exact hscalar
        · rw [Operand.regex, hflags] at h
          cases h
        · rw [Operand.regex, hflags] at h
          cases h
      obtain ⟨rfl, hblank⟩ := hsource
      rcases options_blank_cases hoptions (by rw [hflags]; rfl) with ⟨hany, hmap⟩ | ⟨hany, hmap⟩
      · rw [hany, hmap]
        rfl
      · rw [hany, hmap, hblank, h]
        rfl

def needsValueOperator (operator : Operator) (operand : Literal)
    (siblings : List (String × Literal)) : Bool :=
  match operator with
  | .not => needsValue operand
  | .elemMatch => needsValue operand
  | .and => isMarker operand || needsValueOperands operand
  | .or => isMarker operand || needsValueOperands operand
  | .nor => isMarker operand || needsValueOperands operand
  | .regex => isMarker operand || (lookup Operator.options.key siblings).any isMarker
  | operator => operator.refusesNaN && isMarker operand

theorem needsValueEntry_operator {key : String} (h : Operator.ofKey? key = some operator) :
    needsValueEntry siblings (key, x) = needsValueOperator operator x siblings := by
  rw [needsValueEntry, h]
  cases operator <;> rfl

theorem needsValueEntry_field {key : String} (h : Operator.isOperatorKey key = false) :
    needsValueEntry siblings (key, x) = needsValue x := by
  rw [needsValueEntry, Operator.ofKey?_eq_none h]

theorem needsValueOperator_of_isMarker (h : isMarker x = true) :
    needsValueOperator operator x siblings = operator.refusesNaN := by
  cases operator with
  | not => exact needsValue_of_isMarker h
  | elemMatch => exact needsValue_of_isMarker h
  | _ => simp [needsValueOperator, Operator.refusesNaN, h]

theorem isOk_compileOperator_blank (hfills : Fills x y) (hsiblings : FillsEntries xs ys)
    (hhead : (compile y).isOk = true → (compile (blank x)).isOk = !needsValue x)
    (hheads : ∀ operator, isMarker x = false → (compileOperands operator y).isOk = true →
      (compileOperands operator (blank x)).isOk = !needsValueOperands x)
    (h : (compileOperator operator y ys).isOk = true) :
    (compileOperator operator (blank x) (substituteEntries (fun _ => .nan) xs)).isOk =
      !needsValueOperator operator x xs := by
  cases hmarker : isMarker x with
  | true =>
      rw [blank_of_isMarker hmarker, isOk_compileOperator_nan,
        needsValueOperator_of_isMarker hmarker]
  | false =>
      have hother : operator ≠ .regex → (ofOperand operator y ys).isOk = true →
          (ofOperand operator (blank x) (substituteEntries (fun _ => .nan) xs)).isOk = true :=
        fun hregex => isOk_ofOperand_blank hregex hfills hmarker
      cases operator with
      | not =>
          rw [isOk_compileOperator_not] at h ⊢
          exact hhead h
      | elemMatch =>
          rw [isOk_compileOperator_elemMatch] at h ⊢
          exact hhead h
      | and =>
          rw [isOk_compileOperator_and] at h ⊢
          rw [needsValueOperator, hmarker, Bool.false_or]
          exact hheads .and hmarker h
      | or =>
          rw [isOk_compileOperator_or] at h ⊢
          rw [needsValueOperator, hmarker, Bool.false_or]
          exact hheads .or hmarker h
      | nor =>
          rw [isOk_compileOperator_nor] at h ⊢
          rw [needsValueOperator, hmarker, Bool.false_or]
          exact hheads .nor hmarker h
      | regex =>
          have hoptions : lookup Operator.options.key (substituteEntries (fun _ => .nan) xs) =
              (lookup Operator.options.key xs).map blank := lookup_substituteEntries _ _
          rw [isOk_compileOperator_regex] at h ⊢
          rw [needsValueOperator, hmarker, Bool.false_or, hoptions]
          exact isOk_regex_blank (rel_lookup_of_fillsEntries hsiblings _) hfills hmarker h
      | _ => exact (hother nofun h).trans (by simp [needsValueOperator, hmarker])

theorem isOk_compileField_blank (hfills : Fills x y)
    (hhead : (compile y).isOk = true → (compile (blank x)).isOk = !needsValue x)
    (h : (compileField y).isOk = true) : (compileField (blank x)).isOk = !needsValue x := by
  cases hmarker : isMarker x with
  | true =>
      rw [blank_of_isMarker hmarker, needsValue_of_isMarker hmarker]
      rfl
  | false =>
      by_cases hempty : x = .mapping []
      · subst hempty
        rfl
      · have hkept : blank x ≠ .mapping [] ∧ y ≠ .mapping [] := by
          rcases hfills.cases hmarker with ⟨rfl, hblank⟩ | ⟨_, _, rfl, rfl, -⟩ |
            ⟨xs, ys, rfl, rfl, hentries, hblank⟩
          · exact ⟨by rwa [hblank], hempty⟩
          · exact ⟨nofun, nofun⟩
          · cases xs with
            | nil => exact absurd rfl hempty
            | cons entry xs =>
                obtain ⟨_, _, rfl, -⟩ := hentries
                rw [hblank]
                exact ⟨nofun, nofun⟩
        rw [compileField_of_ne hkept.1]
        rw [compileField_of_ne hkept.2] at h
        exact hhead h

theorem isOk_compileEntry_blank (key : String) (hfills : Fills x y)
    (hsiblings : FillsEntries xs ys)
    (hhead : (compile y).isOk = true → (compile (blank x)).isOk = !needsValue x)
    (hheads : ∀ operator, isMarker x = false → (compileOperands operator y).isOk = true →
      (compileOperands operator (blank x)).isOk = !needsValueOperands x)
    (h : (compileEntry ys (key, y)).isOk = true) :
    (compileEntry (substituteEntries (fun _ => .nan) xs) (key, blank x)).isOk =
      !needsValueEntry xs (key, x) := by
  rcases isOk_compileEntry_cases h with ⟨hkey, hfield⟩ | ⟨operator, hoperator, hok⟩
  · rw [isOk_compileEntry_field hkey, needsValueEntry_field hkey]
    exact isOk_compileField_blank hfills hhead hfield
  · rw [isOk_compileEntry_operator hoperator, needsValueEntry_operator hoperator]
    exact isOk_compileOperator_blank hfills hsiblings hhead hheads hok

end

mutual

/-- A head that compiles with some values in the place of its markers compiles with its
markers blanked, unless one of them stands where NaN is refused. -/
theorem isOk_compile_blank : ∀ {x y : Literal}, Fills x y → (compile y).isOk = true →
    (compile (blank x)).isOk = !needsValue x
  | .mapping xs, y, hfills, h => by
      cases hmarker : isMarker (.mapping xs) with
      | true =>
          rw [blank_of_isMarker hmarker, needsValue_of_isMarker hmarker]
          rfl
      | false =>
          have hnone : lookup markerKey xs = none := by simpa [isMarker] using hmarker
          rcases hfills with hsome | ⟨ys, rfl, hentries⟩
          · rw [hnone] at hsome
            cases hsome
          · rw [isOk_compile_mapping] at h
            rw [blank, substitute_mapping hnone, isOk_compile_mapping, needsValue, hnone]
            exact isOk_compileEntries_blank hentries hentries h
  | .sequence items, _, ⟨items', rfl, hitems⟩, _ => rfl
  | .null, _, _, _ => rfl
  | .bool _, _, _, _ => rfl
  | .number _, _, _, _ => rfl
  | .string _, _, _, _ => rfl
  | .date _, _, _, _ => rfl
  | .regex _, _, _, _ => rfl
  | .binary _, _, _, _ => rfl

theorem isOk_compileOperands_blank : ∀ {x y : Literal} (operator : Operator), Fills x y →
    isMarker x = false → (compileOperands operator y).isOk = true →
    (compileOperands operator (blank x)).isOk = !needsValueOperands x
  | .sequence items, _, _, ⟨items', rfl, hitems⟩, _, h => isOk_compileItems_blank hitems h
  | .mapping xs, _, _, hfills, hmarker, h => by
      rcases hfills.cases hmarker with ⟨rfl, -⟩ | ⟨_, _, ⟨⟩, -, -⟩ | ⟨_, _, -, rfl, -⟩
      · cases h
      · cases h
  | .null, _, _, rfl, _, h => by cases h
  | .bool _, _, _, rfl, _, h => by cases h
  | .number _, _, _, rfl, _, h => by cases h
  | .string _, _, _, rfl, _, h => by cases h
  | .date _, _, _, rfl, _, h => by cases h
  | .regex _, _, _, rfl, _, h => by cases h
  | .binary _, _, _, rfl, _, h => by cases h

theorem isOk_compileItems_blank : ∀ {items items' : List Literal}, FillsItems items items' →
    (compileItems items').isOk = true →
    (compileItems (substituteItems (fun _ => .nan) items)).isOk = !needsValueItems items
  | [], _, rfl, _ => rfl
  | x :: items, _, ⟨y, items', rfl, hfills, hitems⟩, h => by
      rw [isOk_compileItems_cons, Bool.and_eq_true] at h
      have hhead := isOk_compile_blank hfills h.1
      rw [substituteItems, isOk_compileItems_cons, ← blank, hhead,
        isOk_compileItems_blank hitems h.2, needsValueItems, Bool.not_or]

theorem isOk_compileEntries_blank : ∀ {xs ys siblings siblings' : List (String × Literal)},
    FillsEntries xs ys → FillsEntries siblings siblings' →
    (compileEntries siblings' ys).isOk = true →
    (compileEntries (substituteEntries (fun _ => .nan) siblings)
      (substituteEntries (fun _ => .nan) xs)).isOk = !needsValueEntries siblings xs
  | [], _, _, _, rfl, _, _ => rfl
  | (key, x) :: xs, _, siblings, siblings', ⟨y, ys, rfl, hfills, hmore⟩, hsiblings, h => by
      rw [isOk_compileEntries_cons, Bool.and_eq_true] at h
      have hentry := isOk_compileEntry_blank key hfills hsiblings (isOk_compile_blank hfills)
        (fun operator => isOk_compileOperands_blank operator hfills) h.1
      rw [substituteEntries, isOk_compileEntries_cons, ← blank, hentry,
        isOk_compileEntries_blank hmore hsiblings h.2, needsValueEntries, Bool.not_or]

end

end Predicate

end RuleBook
