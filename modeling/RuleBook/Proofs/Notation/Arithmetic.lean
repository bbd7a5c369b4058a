import RuleBook.Proofs.Notation.Passage

/-!
# Reading arithmetic

A chain is an operand and the steps behind it, each an operation with its operand.  Groups
are read inside their parentheses, so fuel for every character is fuel enough.
-/

namespace RuleBook.Notation

open Reader

section

variable {operation : Reader Operation} {operand operand' : Reader (Except ParseError Float)}

def chainStep (operation : Reader Operation) (operand : Reader (Except ParseError Float)) :
    Reader (Operation × Except ParseError Float) := do
  skip skipInline
  let operation ← operation
  skip skipInline
  let operand ← operand
  return (operation, operand)

theorem read_chainStep (operation : Reader Operation)
    (operand : Reader (Except ParseError Float)) (text : List Char) :
    read (chainStep operation operand) text =
      (read operation (skipInline text)).bind fun found =>
        (read operand (skipInline found.2)).map fun value => ((found.1, value.1), value.2) := by
  rw [chainStep, read_bind, read_skip, Option.bind_some, read_bind]
  congr 1
  funext found
  rw [read_bind, read_skip, Option.bind_some, read_bind]
  dsimp only
  cases read operand (skipInline found.2) <;> rfl

def chainFrom (operation : Reader Operation) (operand : Reader (Except ParseError Float))
    (total : Except ParseError Float) (text : List Char) :
    Option (Except ParseError Float × List Char) :=
  (read (many (chainStep operation operand)) text).map fun rest =>
    (foldOperations total rest.1, rest.2)

theorem read_chain (operation : Reader Operation) (operand : Reader (Except ParseError Float))
    (text : List Char) :
    read (chain operation operand) text = (read operand text).bind fun first =>
      chainFrom operation operand first.1 first.2 := by
  have hchain : chain operation operand = rule (do
      let first ← operand
      let rest ← many (chainStep operation operand)
      return foldOperations first rest) := rfl
  rw [hchain, read_rule, read_bind]
  congr 1
  funext first
  rw [read_bind, chainFrom]
  cases read (many (chainStep operation operand)) first.2 <;> rfl

theorem shortens_chainStep (hoperation : Shortens operation) (hoperand : Leaves operand) :
    Shortens (chainStep operation operand) := by
  intro text a rest h
  rw [read_chainStep] at h
  obtain ⟨⟨found, middle⟩, hfound, h⟩ := Option.bind_eq_some_iff.1 h
  obtain ⟨⟨value, rest'⟩, hvalue, heq⟩ := Option.map_eq_some_iff.1 h
  cases heq
  have hlt := hoperation _ _ _ hfound
  have hle := ((hoperand _ _ _ hvalue).trans (skipInline_suffix middle)).length_le
  have hskip := (skipInline_suffix text).length_le
  dsimp only at hle ⊢
  omega

theorem shortens_sumOperation : Shortens sumOperation := by
  intro text a rest h
  rw [sumOperation, read_token] at h
  split at h <;> cases h <;> exact Nat.lt_succ_self _

theorem shortens_productOperation : Shortens productOperation := by
  intro text a rest h
  rw [productOperation, read_token] at h
  split at h <;> cases h <;> exact Nat.lt_succ_self _

private theorem suffix_of_append (a rest : List Char) (_ : ∀ c ∈ a, isInner c) : rest <:+ a ++ rest :=
  List.suffix_append a rest

theorem leaves_minus : Leaves minus := moves_minus suffix_of_append

theorem leaves_factor {inner : Reader (Except ParseError Float)} (h : Leaves inner) :
    Leaves (factor inner) := moves_factor isPassage_suffix skipInline_suffix suffix_of_append h

theorem leaves_product {inner : Reader (Except ParseError Float)} (h : Leaves inner) :
    Leaves (chain productOperation (factor inner)) :=
  moves_chain isPassage_suffix skipInline_suffix (moves_productOperation suffix_of_append)
    (leaves_factor h)

theorem leaves_sum (fuel : Nat) : Leaves (sum fuel) :=
  moves_sum isPassage_suffix skipInline_suffix suffix_of_append fuel

theorem chainFrom_stop {text : List Char} (h : read operation (skipInline text) = none)
    (total : Except ParseError Float) :
    chainFrom operation operand total text = some (total, text) := by
  have hstep : read (chainStep operation operand) text = none := by
    rw [read_chainStep, h]
    rfl
  rw [chainFrom, read_many_of_none hstep]
  rfl

theorem chainFrom_step (hshort : Shortens (chainStep operation operand)) {op : Operation}
    {x y : Float} {text middle rest : List Char}
    (hoperation : read operation (skipInline text) = some (op, middle))
    (hoperand : read operand (skipInline middle) = some (.ok y, rest)) :
    chainFrom operation operand (.ok x) text =
      chainFrom operation operand (.ok (op.apply x y)) rest := by
  have hstep : read (chainStep operation operand) text = some ((op, .ok y), rest) := by
    rw [read_chainStep, hoperation, Option.bind_some, hoperand]
    rfl
  rw [chainFrom, read_many_of_some hshort hstep, Option.map_map]
  rfl

theorem read_chain_congr (hoperation : Shortens operation) (hleaves : Leaves operand)
    (hleaves' : Leaves operand') {n : Nat}
    (h : ∀ text, text.length ≤ n → read operand text = read operand' text) (text : List Char)
    (hn : text.length ≤ n) :
    read (chain operation operand) text = read (chain operation operand') text := by
  have hmany : ∀ text, text.length ≤ n → read (many (chainStep operation operand)) text =
      read (many (chainStep operation operand')) text := by
    intro text
    induction hlen : text.length using Nat.strongRecOn generalizing text with
    | _ m ih =>
        intro hm
        have hstep : read (chainStep operation operand) text =
            read (chainStep operation operand') text := by
          rw [read_chainStep, read_chainStep]
          refine Option.bind_congr fun found hfound => ?_
          have hlt := hoperation _ _ _ hfound
          have hskip := (skipInline_suffix text).length_le
          have hskip' := (skipInline_suffix found.2).length_le
          rw [h _ (by omega)]
        cases hfirst : read (chainStep operation operand) text with
        | none => rw [read_many_of_none hfirst, read_many_of_none (hstep ▸ hfirst)]
        | some found =>
            have hshort := shortens_chainStep hoperation hleaves
            have hshort' := shortens_chainStep hoperation hleaves'
            have hlt := hshort _ _ _ hfirst
            rw [read_many_of_some hshort hfirst, read_many_of_some hshort' (hstep ▸ hfirst),
              ih found.2.length (by omega) found.2 rfl (by omega)]
  rw [read_chain, read_chain, h text hn]
  refine Option.bind_congr fun first hfirst => ?_
  have hle := (hleaves' _ _ _ hfirst).length_le
  rw [chainFrom, chainFrom, hmany _ (by omega)]

end

section

variable (inner : Reader (Except ParseError Float))

def group : Reader (Except ParseError Float) := rule do
  char '('
  skip skipInline
  let value ← inner
  skip skipInline
  char ')'
  return value

theorem read_group (text : List Char) :
    read (group inner) text = (read (char '(') text).bind fun inside =>
      (read inner (skipInline inside.2)).bind fun found =>
        (read (char ')') (skipInline found.2)).map fun rest => (found.1, rest.2) := by
  rw [group, read_rule, read_bind]
  congr 1
  funext inside
  rw [read_bind, read_skip, Option.bind_some, read_bind]
  congr 1
  funext found
  rw [read_bind, read_skip, Option.bind_some, read_bind]
  dsimp only
  cases read (char ')') (skipInline found.2) <;> rfl

def unsigned : Reader (Except ParseError Float) :=
  firstOf (group inner) [hexNumber, .ok <$> number]

theorem read_factor (text : List Char) :
    read (factor inner) text = (read (optional minus) text).bind fun negated =>
      (read (unsigned inner) negated.2).map fun value =>
        (negateOf negated.1 value.1, value.2) := by
  have hfactor : factor inner = rule (do
      let negated ← optional minus
      let value ← unsigned inner
      return negateOf negated value) := rfl
  rw [hfactor, read_rule, read_bind]
  congr 1
  funext negated
  rw [read_bind]
  cases read (unsigned inner) negated.2 <;> rfl

end

theorem read_factor_congr {inner inner' : Reader (Except ParseError Float)} {n : Nat}
    (h : ∀ text, text.length < n → read inner text = read inner' text) (text : List Char)
    (hn : text.length ≤ n) : read (factor inner) text = read (factor inner') text := by
  have hgroup : ∀ text, text.length ≤ n → read (group inner) text = read (group inner') text := by
    intro text hn
    rw [read_group, read_group]
    refine Option.bind_congr fun inside hinside => ?_
    have hlength := congrArg List.length (read_char_inv hinside)
    have hskip := (skipInline_suffix inside.2).length_le
    rw [List.length_cons] at hlength
    rw [h _ (by omega)]
  rw [read_factor, read_factor]
  refine Option.bind_congr fun negated hnegated => ?_
  have hle := (Moves.optional isPassage_suffix leaves_minus _ _ _ hnegated).length_le
  simp only [unsigned, firstOf, List.foldl_cons, List.foldl_nil, read_orElse,
    hgroup _ (Nat.le_trans hle hn)]

theorem read_sum_eq {m n : Nat} {text : List Char} (hm : text.length < m) (hn : text.length < n) :
    read (sum m) text = read (sum n) text := by
  induction m generalizing n text with
  | zero => exact absurd hm (Nat.not_lt_zero _)
  | succ m ih =>
      cases n with
      | zero => exact absurd hn (Nat.not_lt_zero _)
      | succ n =>
          have hfactor := @read_factor_congr (sum m) (sum n) text.length
            fun text' hlt => ih (by omega) (by omega)
          have hproduct := read_chain_congr shortens_productOperation
            (leaves_factor (leaves_sum m)) (leaves_factor (leaves_sum n)) hfactor
          exact read_chain_congr shortens_sumOperation (leaves_product (leaves_sum m))
            (leaves_product (leaves_sum n)) hproduct text (Nat.le_refl _)

end RuleBook.Notation
