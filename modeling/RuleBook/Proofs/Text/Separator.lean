import RuleBook.Proofs.Text.Blank
import RuleBook.Text.Separator

/-!
# Places of a token

A place of a token cuts the text in front of it and the text after it.  A token without
blanks does not reach over a blank, so the places before a blank are those in the text
before it.  Another text is put in the place of a token from left to right.
-/

namespace RuleBook.Text

structure IsToken (token : List Char) : Prop where
  ne_nil : token ≠ []
  isBlank_eq : ∀ c ∈ token, isBlank c = false

section

variable {token : List Char}

private theorem place_cons {place : List Char × List Char} {before text : List Char} {c : Char}
    (h : ∃ q, place.1 = (c :: before).reverse ++ q ∧ text = q ++ (token ++ place.2)) :
    ∃ q, place.1 = before.reverse ++ q ∧ c :: text = q ++ (token ++ place.2) := by
  obtain ⟨q, hplace, rfl⟩ := h
  exact ⟨c :: q, by simp [hplace], rfl⟩

private theorem mem_occurrencesFrom {place : List Char × List Char} (before text : List Char)
    (skip : Nat) (h : place ∈ occurrencesFrom token before skip text) :
    ∃ q, place.1 = before.reverse ++ q ∧ text = q ++ (token ++ place.2) := by
  induction text generalizing before skip with
  | nil => cases h
  | cons c text ih =>
      cases skip with
      | succ skip => exact place_cons (ih _ _ h)
      | zero =>
          rw [occurrencesFrom] at h
          split at h
          · next after hdrop =>
            rcases List.mem_cons.1 h with rfl | h
            · have hsplit : c :: text = token ++ after := dropToken?_eq_some_iff.1 hdrop
              exact ⟨[], by rw [List.append_nil], hsplit⟩
            · exact place_cons (ih _ _ h)
          · exact place_cons (ih _ _ h)

theorem mem_occurrences {place : List Char × List Char} {text : List Char}
    (h : place ∈ occurrences token text) : text = place.1 ++ (token ++ place.2) := by
  unfold occurrences at h
  split at h
  · cases h
  · obtain ⟨q, hplace, htext⟩ := mem_occurrencesFrom [] text 0 h
    rw [hplace]
    exact htext

private theorem dropToken?_append {c : Char} (hc : c ∉ token) (s more : List Char) :
    dropToken? token (s ++ c :: more) = (dropToken? token s).map (· ++ c :: more) := by
  induction token generalizing s with
  | nil => rfl
  | cons t token ih =>
      rw [List.mem_cons, not_or] at hc
      cases s with
      | nil =>
          have hnone : dropToken? (t :: token) (c :: more) = none := by
            rw [dropToken?, if_neg (Ne.symm hc.1)]
          rw [List.nil_append, hnone]
          rfl
      | cons d s =>
          rw [List.cons_append, dropToken?, dropToken?]
          split
          · exact ih hc.2 s
          · rfl

section

variable {c : Char} {before text after : List Char}

private theorem occurrencesFrom_some (h : dropToken? token (c :: text) = some after) :
    occurrencesFrom token before 0 (c :: text) =
      (before.reverse, after) :: occurrencesFrom token (c :: before) (token.length - 1) text := by
  rw [occurrencesFrom, h]

private theorem occurrencesFrom_none (h : dropToken? token (c :: text) = none) :
    occurrencesFrom token before 0 (c :: text) = occurrencesFrom token (c :: before) 0 text := by
  rw [occurrencesFrom, h]

end

private theorem occurrencesFrom_append {c : Char} (hc : c ∉ token) (hne : token ≠ [])
    (before s text : List Char) (skip : Nat) (hskip : skip ≤ s.length) :
    occurrencesFrom token before skip (s ++ c :: text) =
      (occurrencesFrom token before skip s).map (fun place => (place.1, place.2 ++ c :: text)) ++
        occurrencesFrom token (c :: (s.reverse ++ before)) 0 text := by
  induction s generalizing before skip with
  | nil =>
      obtain rfl : skip = 0 := Nat.le_zero.1 hskip
      obtain ⟨t, token', rfl⟩ := List.exists_cons_of_ne_nil hne
      have hnone := dropToken?_append hc [] text
      rw [List.nil_append, dropToken?, Option.map_none] at hnone
      rw [List.nil_append, occurrencesFrom_none hnone]
      rfl
  | cons d s ih =>
      cases skip with
      | succ skip =>
          simpa [occurrencesFrom] using ih (d :: before) skip (Nat.le_of_succ_le_succ hskip)
      | zero =>
          have happend := dropToken?_append hc (d :: s) text
          cases hdrop : dropToken? token (d :: s) with
          | none =>
              have hmore := ih (d :: before) 0 (Nat.zero_le _)
              rw [hdrop, Option.map_none, List.cons_append] at happend
              rw [occurrencesFrom_none hdrop, List.cons_append, occurrencesFrom_none happend]
              simpa using hmore
          | some more =>
              have hlength := congrArg List.length (dropToken?_eq_some_iff.1 hdrop)
              rw [List.length_append, List.length_cons] at hlength
              have hmore := ih (d :: before) (token.length - 1) (by omega)
              rw [hdrop, Option.map_some, List.cons_append] at happend
              rw [occurrencesFrom_some hdrop, List.cons_append, occurrencesFrom_some happend]
              simpa using hmore

private theorem occurrencesFrom_before (base before s : List Char) (skip : Nat) :
    occurrencesFrom token (before ++ base) skip s =
      (occurrencesFrom token before skip s).map fun place =>
        (base.reverse ++ place.1, place.2) := by
  induction s generalizing before skip with
  | nil => cases skip <;> rfl
  | cons c s ih =>
      cases skip with
      | succ skip =>
          exact ih (c :: before) skip
      | zero =>
          cases hdrop : dropToken? token (c :: s) with
          | none =>
              rw [occurrencesFrom_none hdrop, occurrencesFrom_none hdrop]
              exact ih (c :: before) 0
          | some after =>
              have hmore := ih (c :: before) (token.length - 1)
              rw [List.cons_append] at hmore
              rw [occurrencesFrom_some hdrop, occurrencesFrom_some hdrop, List.map_cons, hmore,
                List.reverse_append]

theorem occurrences_append_blank (h : IsToken token) (s text : List Char) :
    occurrences token (s ++ ' ' :: text) =
      (occurrences token s).map (fun place => (place.1, place.2 ++ ' ' :: text)) ++
        (occurrences token text).map fun place => (s ++ ' ' :: place.1, place.2) := by
  have hblank : ' ' ∉ token := fun hmem => absurd (h.isBlank_eq ' ' hmem) (by decide)
  have hbefore := @occurrencesFrom_before token (' ' :: s.reverse) [] text 0
  unfold occurrences
  rw [if_neg h.ne_nil, if_neg h.ne_nil, if_neg h.ne_nil,
    occurrencesFrom_append hblank h.ne_nil [] s text 0 (Nat.zero_le _)]
  simpa using hbefore

theorem occurrences_append (h : IsToken token) (s after : List Char) :
    ∃ late, occurrences token (s ++ ' ' :: (token ++ after)) =
      (occurrences token s).map (fun place => (place.1, place.2 ++ ' ' :: (token ++ after))) ++
        (s ++ [' '], after) :: late := by
  obtain ⟨t, token', rfl⟩ := List.exists_cons_of_ne_nil h.ne_nil
  have hfirst : dropToken? (t :: token') (t :: (token' ++ after)) = some after :=
    dropToken?_eq_some_iff.2 rfl
  have hplaces : occurrences (t :: token') (t :: token' ++ after) =
      ([], after) :: occurrencesFrom (t :: token') [t] token'.length (token' ++ after) := by
    rw [occurrences, if_neg h.ne_nil, List.cons_append, occurrencesFrom_some hfirst]
    rfl
  rw [occurrences_append_blank h, hplaces]
  exact ⟨_, rfl⟩

theorem occurrences_blank (h : IsToken token) (s : List Char) :
    occurrences token (' ' :: s) =
      (occurrences token s).map fun place => (' ' :: place.1, place.2) := by
  have hplaces := occurrences_append_blank h [] s
  have hnil : occurrences token [] = [] := by
    rw [occurrences, if_neg h.ne_nil, occurrencesFrom]
  rwa [hnil, List.map_nil, List.nil_append] at hplaces

theorem occurrences_eq_nil_iff (h : token ≠ []) {s : List Char} :
    occurrences token s = [] ↔ ¬token <:+: s := by
  have hfrom (before : List Char) : occurrencesFrom token before 0 s = [] → ¬token <:+: s := by
    induction s generalizing before with
    | nil => exact fun _ hinfix => h (List.infix_nil.1 hinfix)
    | cons c s ih =>
        intro hnil
        cases hdrop : dropToken? token (c :: s) with
        | some after =>
            rw [occurrencesFrom_some hdrop] at hnil
            cases hnil
        | none =>
            rw [occurrencesFrom_none hdrop] at hnil
            rw [List.infix_cons_iff]
            rintro (⟨after, hafter⟩ | hinfix)
            · rw [dropToken?_eq_some_iff.2 hafter.symm] at hdrop
              cases hdrop
            · exact ih _ hnil hinfix
  constructor
  · rw [occurrences, if_neg h]
    exact hfrom []
  · intro hinfix
    refine List.eq_nil_iff_forall_not_mem.2 fun place hplace => hinfix ?_
    rw [mem_occurrences hplace]
    exact ⟨place.1, place.2, by simp⟩

theorem not_infix_append_cons {c : Char} {a b : List Char} (hc : c ∉ token) (ha : ¬token <:+: a)
    (hb : ¬token <:+: b) : ¬token <:+: a ++ c :: b := by
  rintro ⟨s, t, h⟩
  rcases List.append_eq_append_iff.1 h with ⟨more, rfl, -⟩ | ⟨more, hmore, hrest⟩
  · exact ha ⟨s, more, rfl⟩
  · rcases List.append_eq_append_iff.1 hmore with ⟨front, rfl, rfl⟩ | ⟨front, rfl, rfl⟩
    · cases more with
      | nil => exact ha ⟨s, [], by simp⟩
      | cons d more =>
          obtain ⟨rfl, -⟩ := List.cons.inj hrest
          exact hc (by simp)
    · cases front with
      | nil =>
          cases token with
          | nil => exact ha ⟨[], a, rfl⟩
          | cons d token =>
              obtain ⟨rfl, -⟩ := List.cons.inj hrest
              exact hc (by simp)
      | cons d front =>
          obtain ⟨-, rfl⟩ := List.cons.inj hrest
          exact hb ⟨front, t, rfl⟩

private theorem dropToken?_piece {front piece rest : List Char} {c d : Char} (hc : c ∉ front)
    (hpiece : ¬front ++ [c] <:+: d :: piece) :
    dropToken? (front ++ [c]) (d :: (piece ++ (front ++ [c] ++ rest))) = none := by
  rw [Option.eq_none_iff_forall_ne_some]
  intro after hafter
  have htext : (d :: piece) ++ (front ++ [c] ++ rest) = front ++ [c] ++ after :=
    dropToken?_eq_some_iff.1 hafter
  rcases List.append_eq_append_iff.1 htext with ⟨more, htoken, hrest⟩ | ⟨more, heq, -⟩
  · -- The token would end within itself.
    have hlength := congrArg List.length htoken
    simp only [List.length_append, List.length_cons, List.length_nil] at hlength
    rcases List.eq_nil_or_concat more with rfl | ⟨more, e, rfl⟩
    · exact hpiece ⟨[], [], by simpa using htoken⟩
    · rw [List.concat_eq_append, ← List.append_assoc] at htoken
      obtain ⟨-, hlast⟩ := List.append_inj' htoken rfl
      cases hlast
      have hmore : more ++ [c] <+: front ++ [c] ++ rest := ⟨after, by simpa using hrest.symm⟩
      have hfront : front <+: front ++ [c] ++ rest := ⟨[c] ++ rest, by simp⟩
      have hwithin : more ++ [c] <+: front := by
        refine List.prefix_of_prefix_length_le hmore hfront ?_
        simp at hlength ⊢
        omega
      exact hc (hwithin.subset (by simp))
  · exact hpiece ⟨[], more, by simp [heq]⟩

private theorem piecesFrom_skip (piece skipped text : List Char) :
    piecesFrom token piece skipped.length (skipped ++ text) = piecesFrom token piece 0 text := by
  induction skipped with
  | nil => rfl
  | cons c skipped ih => rw [List.cons_append, List.length_cons, piecesFrom, ih]

private theorem piecesFrom_none {c : Char} {piece text : List Char}
    (h : dropToken? token (c :: text) = none) :
    piecesFrom token piece 0 (c :: text) = piecesFrom token (c :: piece) 0 text := by
  rw [piecesFrom, h]

private theorem piecesFrom_last (before piece : List Char) (h : ¬token <:+: piece) :
    piecesFrom token before 0 piece = [before.reverse ++ piece] := by
  induction piece generalizing before with
  | nil => simp [piecesFrom]
  | cons d piece ih =>
      have hnone : dropToken? token (d :: piece) = none := by
        rw [Option.eq_none_iff_forall_ne_some]
        intro after hafter
        exact h ⟨[], after, (dropToken?_eq_some_iff.1 hafter).symm⟩
      rw [piecesFrom_none hnone, ih _ fun hmore => h (List.infix_cons hmore)]
      simp

private theorem piecesFrom_append {front : List Char} {c : Char} (hc : c ∉ front)
    (before piece rest : List Char) (h : ¬front ++ [c] <:+: piece) :
    piecesFrom (front ++ [c]) before 0 (piece ++ (front ++ [c] ++ rest)) =
      (before.reverse ++ piece) :: piecesFrom (front ++ [c]) [] 0 rest := by
  induction piece generalizing before with
  | nil =>
      obtain ⟨t, token, htoken⟩ := List.exists_cons_of_ne_nil (List.concat_ne_nil c front)
      have hsome : dropToken? (t :: token) (t :: (token ++ rest)) = some rest :=
        dropToken?_eq_some_iff.2 rfl
      rw [List.nil_append, htoken, List.cons_append, piecesFrom, hsome]
      dsimp only
      rw [List.length_cons, Nat.add_sub_cancel, piecesFrom_skip, List.append_nil]
  | cons d piece ih =>
      rw [List.cons_append, piecesFrom_none (dropToken?_piece hc h),
        ih _ fun hmore => h (List.infix_cons hmore)]
      simp

theorem join_cons {piece : List Char} {pieces : List (List Char)} (h : pieces ≠ []) :
    join token (piece :: pieces) = piece ++ token ++ join token pieces := by
  rw [join]
  exact h

/-- Pieces without the token are cut apart where they were joined. -/
theorem splitOn_join {front : List Char} {c : Char} (hc : c ∉ front) {pieces : List (List Char)}
    (hne : pieces ≠ []) (hpieces : ∀ piece ∈ pieces, ¬front ++ [c] <:+: piece) :
    splitOn (front ++ [c]) (join (front ++ [c]) pieces) = pieces := by
  rw [splitOn, if_neg (by simp)]
  induction pieces with
  | nil => exact absurd rfl hne
  | cons piece pieces ih =>
      obtain ⟨hpiece, hmore⟩ := List.forall_mem_cons.1 hpieces
      cases pieces with
      | nil => exact piecesFrom_last [] piece hpiece
      | cons next pieces =>
          rw [join_cons (List.cons_ne_nil _ _), List.append_assoc,
            piecesFrom_append hc [] piece _ hpiece, ih (List.cons_ne_nil _ _) hmore]
          rfl

end

private theorem piecesFrom_ne_nil (token piece text : List Char) (skip : Nat) :
    piecesFrom token piece skip text ≠ [] := by
  induction text generalizing piece skip with
  | nil => cases skip <;> exact List.cons_ne_nil _ _
  | cons c text ih =>
      cases skip with
      | succ skip => exact ih piece skip
      | zero =>
          rw [piecesFrom]
          split
          · exact List.cons_ne_nil _ _
          · exact ih _ 0

theorem splitOn_ne_nil (token text : List Char) : splitOn token text ≠ [] := by
  unfold splitOn
  split
  · exact List.cons_ne_nil _ _
  · exact piecesFrom_ne_nil _ _ _ _

private theorem piecesFrom_place (c : Char) (piece text : List Char) :
    piecesFrom [c] piece 0 (c :: text) = piece.reverse :: piecesFrom [c] [] 0 text := by
  rw [piecesFrom, dropToken?, if_pos rfl]
  rfl

private theorem piecesFrom_append_cons (c : Char) (piece before after : List Char) :
    piecesFrom [c] piece 0 (before ++ c :: after) =
      piecesFrom [c] piece 0 before ++ piecesFrom [c] [] 0 after := by
  induction before generalizing piece with
  | nil => exact piecesFrom_place c piece after
  | cons d before ih =>
      rw [List.cons_append]
      by_cases h : c = d
      · subst h
        rw [piecesFrom_place, piecesFrom_place, ih, List.cons_append]
      · have hnone (text : List Char) : dropToken? [c] (d :: text) = none := by
          rw [dropToken?, if_neg h]
        rw [piecesFrom_none (hnone _), piecesFrom_none (hnone _), ih]

theorem splitOn_append_cons (c : Char) (before after : List Char) :
    splitOn [c] (before ++ c :: after) = splitOn [c] before ++ splitOn [c] after := by
  simp only [splitOn, if_neg (List.cons_ne_nil c [])]
  exact piecesFrom_append_cons c [] before after

theorem splitOn_join_singleton {c : Char} {pieces : List (List Char)} (hne : pieces ≠ [])
    (hpieces : ∀ piece ∈ pieces, c ∉ piece) : splitOn [c] (join [c] pieces) = pieces :=
  splitOn_join (show c ∉ [] from List.not_mem_nil) hne fun piece hpiece h =>
    hpieces piece hpiece (h.subset (List.mem_singleton_self c))

theorem join_eq_intercalate (token : List Char) (pieces : List (List Char)) :
    join token pieces = token.intercalate pieces := by
  induction pieces with
  | nil => rfl
  | cons piece pieces ih =>
      cases pieces with
      | nil => simp [join]
      | cons next pieces => rw [join_cons (List.cons_ne_nil _ _), ih]; simp

def replace (token other text : List Char) : List Char := join other (splitOn token text)

private theorem join_piecesFrom (token other piece text : List Char) (skip : Nat) :
    join other (piecesFrom token piece skip text) =
      piece.reverse ++ join other (piecesFrom token [] skip text) := by
  induction text generalizing piece skip with
  | nil => cases skip <;> simp [piecesFrom, join]
  | cons c text ih =>
      cases skip with
      | succ skip => exact ih piece skip
      | zero =>
          cases hdrop : dropToken? token (c :: text) with
          | none =>
              rw [piecesFrom_none hdrop, piecesFrom_none hdrop, ih (c :: piece), ih [c]]
              simp
          | some after =>
              have hne := piecesFrom_ne_nil token [] text (token.length - 1)
              rw [piecesFrom, piecesFrom, hdrop]
              dsimp only
              rw [join_cons hne, join_cons hne]
              simp

section

variable {token other text : List Char} {c : Char}

theorem replace_place (h : token ≠ []) :
    replace token other (token ++ text) = other ++ replace token other text := by
  obtain ⟨t, token, rfl⟩ := List.exists_cons_of_ne_nil h
  have hsome : dropToken? (t :: token) (t :: (token ++ text)) = some text :=
    dropToken?_eq_some_iff.2 rfl
  rw [replace, replace, splitOn, splitOn, if_neg h, if_neg h, List.cons_append, piecesFrom, hsome]
  dsimp only
  rw [List.length_cons, Nat.add_sub_cancel, piecesFrom_skip, join_cons (piecesFrom_ne_nil _ _ _ _)]
  rfl

theorem replace_cons (h : dropToken? token (c :: text) = none) :
    replace token other (c :: text) = c :: replace token other text := by
  have hne : token ≠ [] := by
    rintro rfl
    cases h
  rw [replace, replace, splitOn, splitOn, if_neg hne, if_neg hne, piecesFrom_none h,
    join_piecesFrom]
  rfl

end

end RuleBook.Text
