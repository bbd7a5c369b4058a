import RuleBook.Pointer
import RuleBook.Proofs.Literal.Lookup
import RuleBook.Proofs.Number.Text
import RuleBook.Proofs.Text.Separator

/-!
# Pointers made of tokens

A pointer of tokens has each of them behind a slash, with `~0` for a tilde and `~1` for a slash
in it.  It leads where the tokens lead one after the other: into a mapping by a key, into a
sequence by the decimal text of an index.
-/

namespace RuleBook.Pointer

open Literal Text

def escapeChar (c : Char) : List Char :=
  if c = '~' then ['~', '0'] else if c = '/' then ['~', '1'] else [c]

def escape (token : List Char) : List Char := token.flatMap escapeChar

def ofTokens (tokens : List String) : String :=
  String.ofList (tokens.flatMap fun token => '/' :: escape token.toList)

section

variable {c : Char} {token : List Char}

theorem escape_plain (htilde : c ≠ '~') (hslash : c ≠ '/') (token : List Char) :
    escape (c :: token) = c :: escape token := by
  rw [escape, List.flatMap_cons, escapeChar, if_neg htilde, if_neg hslash]
  rfl

private theorem dropToken?_tilde (h : c ≠ '~') (d : Char) (text : List Char) :
    dropToken? ['~', d] (c :: text) = none := by
  rw [dropToken?, if_neg (Ne.symm h)]

private theorem replace_slashes (token : List Char) :
    replace ['~', '1'] ['/'] (escape token) =
      token.flatMap fun c => if c = '~' then ['~', '0'] else [c] := by
  induction token with
  | nil => rfl
  | cons c token ih =>
      by_cases htilde : c = '~'
      · subst htilde
        have hzero : dropToken? ['~', '1'] ('~' :: '0' :: escape token) = none := rfl
        rw [show escape ('~' :: token) = '~' :: '0' :: escape token from rfl, replace_cons hzero,
          replace_cons (dropToken?_tilde (by decide) _ _), ih]
        rfl
      · by_cases hslash : c = '/'
        · subst hslash
          rw [show escape ('/' :: token) = ['~', '1'] ++ escape token from rfl,
            replace_place (by decide), ih]
          rfl
        · rw [escape_plain htilde hslash, replace_cons (dropToken?_tilde htilde _ _), ih,
            List.flatMap_cons, if_neg htilde]
          rfl

private theorem replace_tildes (token : List Char) :
    replace ['~', '0'] ['~'] (token.flatMap fun c => if c = '~' then ['~', '0'] else [c]) =
      token := by
  induction token with
  | nil => rfl
  | cons c token ih =>
      rw [List.flatMap_cons]
      by_cases htilde : c = '~'
      · rw [if_pos htilde, replace_place (by decide), ih, htilde]
        rfl
      · rw [if_neg htilde, List.singleton_append, replace_cons (dropToken?_tilde htilde _ _), ih]

theorem unescape_escape (token : List Char) : unescape (escape token) = token :=
  (congrArg (replace ['~', '0'] ['~']) (replace_slashes token)).trans (replace_tildes token)

theorem slash_notMem_escape (token : List Char) : '/' ∉ escape token := by
  intro hmem
  obtain ⟨c, -, hc⟩ := List.mem_flatMap.1 hmem
  unfold escapeChar at hc
  split_ifs at hc with htilde hslash
  · simp at hc
  · simp at hc
  · exact hslash (List.mem_singleton.1 hc).symm

end

theorem flatMap_slash (piece : List Char) (pieces : List (List Char)) :
    (piece :: pieces).flatMap ('/' :: ·) = '/' :: join ['/'] (piece :: pieces) := by
  induction pieces generalizing piece with
  | nil => simp [join]
  | cons next pieces ih =>
      rw [List.flatMap_cons, ih next, join_cons (List.cons_ne_nil _ _)]
      simp

theorem tokens?_ofTokens (tokens : List String) :
    tokens? (ofTokens tokens).toList = some (tokens.map String.toList) := by
  cases tokens with
  | nil => rfl
  | cons token tokens =>
      let pieces := (token :: tokens).map fun token => escape token.toList
      have htext : (ofTokens (token :: tokens)).toList = '/' :: join ['/'] pieces := by
        rw [ofTokens, String.toList_ofList]
        exact (List.flatMap_map _ _ _).symm.trans (flatMap_slash _ _)
      have hsplit : splitOn ['/'] (join ['/'] pieces) = pieces :=
        splitOn_join_singleton (List.cons_ne_nil _ _)
          (List.forall_mem_map.2 fun token _ => slash_notMem_escape token.toList)
      rw [htext, tokens?, hsplit, List.map_map]
      simp [Function.comp_def, unescape_escape]

private theorem isWhole_iff {token : List Char} : Decimal.IsWhole token ↔
    ¬(token = [] ∨ !token.all Char.isDigit ∨ (1 < token.length ∧ token.head? = some '0')) := by
  simp only [not_or, not_and, Bool.not_eq_true', Bool.not_eq_false, List.all_eq_true]
  constructor
  · intro h
    refine ⟨h.ne_nil, h.all, fun hlength hzero => ?_⟩
    rw [h.lead hzero] at hlength
    exact absurd hlength (by decide)
  · rintro ⟨hne, hdigits, hlead⟩
    refine ⟨hne, hdigits, fun hzero => ?_⟩
    obtain ⟨c, more, rfl⟩ := List.exists_cons_of_ne_nil hne
    cases more with
    | nil => rw [Option.some.inj hzero]
    | cons d more => exact absurd hzero (hlead (by simp))

theorem index?_eq_some_iff {token : List Char} {i : Nat} :
    index? token = some i ↔ token = Nat.toDigits 10 i := by
  constructor
  · intro h
    rw [index?] at h
    split at h
    · cases h
    · next hwhole =>
      cases h
      exact (isWhole_iff.2 hwhole).toDigits_eq.symm
  · rintro rfl
    rw [index?, if_neg (isWhole_iff.1 (Decimal.isWhole_toDigits i)), Nat.ofDigitChars_ten_toDigits]

/-- A key leads from a mapping to its first value; the decimal text of the number of items
before it leads from a sequence to an item. -/
inductive Enters : Literal → String → Literal → Prop
  | key {before after : List (String × Literal)} {key : String} {value : Literal}
      (hfirst : key ∉ before.map Prod.fst) :
      Enters (.mapping (before ++ (key, value) :: after)) key value
  | index {before after : List Literal} {value : Literal} :
      Enters (.sequence (before ++ value :: after)) (toString before.length) value

inductive Leads : Literal → List String → Literal → Prop
  | nil {document : Literal} : Leads document [] document
  | cons {document next value : Literal} {token : String} {tokens : List String}
      (hnext : Enters document token next) (hvalue : Leads next tokens value) :
      Leads document (token :: tokens) value

/-- One of the tokens leads nowhere from where those before it lead to. -/
inductive Stuck : Literal → List String → Prop
  | here {document : Literal} {token : String} {tokens : List String}
      (hnext : ∀ next, ¬Enters document token next) : Stuck document (token :: tokens)
  | later {document next : Literal} {token : String} {tokens : List String}
      (hnext : Enters document token next) (hstuck : Stuck next tokens) :
      Stuck document (token :: tokens)

section

variable {document value : Literal} {token : String} {tokens : List String}

theorem getElem?_eq_some_iff_append {items : List Literal} {i : Nat} : items[i]? = some value ↔
    ∃ before after, items = before ++ value :: after ∧ before.length = i := by
  constructor
  · intro h
    obtain ⟨hi, rfl⟩ := List.getElem?_eq_some_iff.1 h
    exact ⟨items.take i, items.drop (i + 1), by simp, List.length_take_of_le hi.le⟩
  · rintro ⟨before, after, rfl, rfl⟩
    simp

theorem step?_eq_some_iff : step? document token.toList = some value ↔
    Enters document token value := by
  constructor
  · intro h
    cases document with
    | mapping entries =>
        rw [step?, String.ofList_toList] at h
        obtain ⟨before, after, rfl, hfirst⟩ := lookup_eq_some_iff.1 h
        exact .key hfirst
    | sequence items =>
        obtain ⟨i, hi, hvalue⟩ := Option.bind_eq_some_iff.1 h
        obtain ⟨before, after, rfl, rfl⟩ := getElem?_eq_some_iff_append.1 hvalue
        have htoken : token = toString before.length := by
          rw [Nat.toString_eq_ofList_toDigits, ← index?_eq_some_iff.1 hi, String.ofList_toList]
        rw [htoken]
        exact .index
    | _ => cases h
  · intro h
    cases h with
    | key hfirst =>
        rw [step?, String.ofList_toList]
        exact lookup_eq_some_iff.2 ⟨_, _, rfl, hfirst⟩
    | @index before after =>
        have hindex : index? (toString before.length).toList = some before.length := by
          rw [index?_eq_some_iff, Nat.toString_eq_ofList_toDigits, String.toList_ofList]
        rw [step?, hindex]
        exact getElem?_eq_some_iff_append.2 ⟨before, after, rfl, rfl⟩

theorem descend?_eq_some_iff : descend? document (tokens.map String.toList) = some value ↔
    Leads document tokens value := by
  induction tokens generalizing document with
  | nil =>
      constructor
      · rintro ⟨⟩
        exact .nil
      · rintro ⟨⟩
        rfl
  | cons token tokens ih =>
      rw [List.map_cons, descend?, Option.bind_eq_some_iff]
      constructor
      · rintro ⟨next, hnext, hvalue⟩
        exact .cons (step?_eq_some_iff.1 hnext) (ih.1 hvalue)
      · rintro (_ | ⟨hnext, hvalue⟩)
        exact ⟨_, step?_eq_some_iff.2 hnext, ih.2 hvalue⟩

theorem resolve?_ofTokens : resolve? document (ofTokens tokens).toList = some value ↔
    Leads document tokens value := by
  rw [resolve?, tokens?_ofTokens, Option.bind_some, descend?_eq_some_iff]

theorem pointer_eq_ok_iff {pointer : String} : document.pointer pointer = .ok value ↔
    resolve? document pointer.toList = some value := by
  rw [Literal.pointer]
  cases resolve? document pointer.toList <;> simp

theorem stuck_iff : Stuck document tokens ↔ ∀ value, ¬Leads document tokens value := by
  induction tokens generalizing document with
  | nil =>
      constructor
      · rintro ⟨⟩
      · exact fun h => absurd .nil (h document)
  | cons token tokens ih =>
      constructor
      · rintro h value (_ | ⟨hnext, hvalue⟩)
        cases h with
        | here hnone => exact hnone _ hnext
        | later hother hstuck =>
            -- A token leads to one place only.
            have heq := (step?_eq_some_iff.2 hother).symm.trans (step?_eq_some_iff.2 hnext)
            obtain rfl := Option.some.inj heq
            exact ih.1 hstuck value hvalue
      · intro h
        by_cases hnext : ∃ next, Enters document token next
        · obtain ⟨next, hnext⟩ := hnext
          exact .later hnext (ih.2 fun value hvalue => h value (.cons hnext hvalue))
        · exact .here fun next henters => hnext ⟨next, henters⟩

end

/-- A pointer made of tokens finds what the tokens lead to, and nothing else; it fails if and
only if one of them leads nowhere.  So does a text that is neither empty nor begins with a
slash. -/
theorem pointer_ofTokens (document : Literal) (tokens : List String) :
    (∀ value, document.pointer (ofTokens tokens) = .ok value ↔ Leads document tokens value) ∧
    (∀ e, document.pointer (ofTokens tokens) = .error e ↔
      e = .pointerNotFound (ofTokens tokens) ∧ Stuck document tokens) ∧
    document.pointer "" = .ok document ∧
    ∀ text : String, text ≠ "" → text.toList.head? ≠ some '/' →
      document.pointer text = .error (.pointerNotFound text) := by
  have hfound (value : Literal) : resolve? document (ofTokens tokens).toList = some value ↔
      Leads document tokens value := resolve?_ofTokens
  refine ⟨fun value => pointer_eq_ok_iff.trans (hfound value), fun e => ?_, rfl,
    fun text hne hslash => ?_⟩
  · rw [stuck_iff, Literal.pointer]
    simp only [← hfound]
    cases resolve? document (ofTokens tokens).toList <;> simp [eq_comm]
  · have hnone : tokens? text.toList = none := by
      cases htext : text.toList with
      | nil => exact absurd (String.toList_eq_nil_iff.1 htext) hne
      | cons c path =>
          rw [htext, List.head?_cons, ne_eq, Option.some_inj] at hslash
          unfold tokens?
          split <;> simp_all
    rw [Literal.pointer, resolve?, hnone]
    rfl

/-- A key with a slash, one with a tilde before the digit one, and an index with a superfluous
zero. -/
theorem pointer_ofTokens_escaped :
    let items : List Literal := [.null, .mapping [("~1", .bool true)]]
    let document : Literal := .mapping [("a/b", .sequence items)]
    ofTokens ["a/b", "1", "~1"] = "/a~1b/1/~01" ∧
      document.pointer "/a~1b/1/~01" = .ok (.bool true) ∧
      document.pointer "/a~1b/01" = .error (.pointerNotFound "/a~1b/01") ∧
      "a" ≠ "" ∧ "a".toList.head? ≠ some '/' ∧
      document.pointer "a" = .error (.pointerNotFound "a") := by
  intro items document
  have hkey : Enters document "a/b" (.sequence items) := step?_eq_some_iff.1 rfl
  have hindex : Enters (.sequence items) "1" (.mapping [("~1", .bool true)]) :=
    step?_eq_some_iff.1 rfl
  have hvalue : Enters (.mapping [("~1", .bool true)]) "~1" (.bool true) :=
    step?_eq_some_iff.1 rfl
  have hzero : ∀ next, ¬Enters (.sequence items) "01" next := by
    intro next hnext
    cases step?_eq_some_iff.2 hnext
  obtain ⟨hleads, -, -, -⟩ := pointer_ofTokens document ["a/b", "1", "~1"]
  obtain ⟨-, hstuck, -, hforeign⟩ := pointer_ofTokens document ["a/b", "01"]
  exact ⟨rfl, (hleads _).2 (.cons hkey (.cons hindex (.cons hvalue .nil))),
    (hstuck _).2 ⟨rfl, .later hkey (.here hzero)⟩, by decide, by decide,
    hforeign "a" (by decide) (by decide)⟩

end RuleBook.Pointer
