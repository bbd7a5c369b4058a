import RuleBook.Instant.Basic
import Mathlib.Data.Int.Order.Basic
import Mathlib.Data.Nat.Basic

/-!
# Moved instants

An instant is moved along the count of nanoseconds since 1970.  A leap second stands out of that
count, and a move that begins in one goes on from its beginning, goes back from its end, or
stays within it.  In each of these ways a longer move leads no less far.
-/

namespace RuleBook.Instant

section

variable {t u : Instant}

theorem compare_eq_lt_iff : compare t u = .lt ↔
    t.seconds < u.seconds ∨ t.seconds = u.seconds ∧ t.nanos < u.nanos := by
  change (compare t.seconds u.seconds).then (compare t.nanos u.nanos) = .lt ↔ _
  rw [Ordering.then_eq_lt, compare_lt_iff_lt, compare_eq_iff_eq, compare_lt_iff_lt]

theorem compare_eq_gt_iff : compare t u = .gt ↔
    u.seconds < t.seconds ∨ t.seconds = u.seconds ∧ u.nanos < t.nanos := by
  change (compare t.seconds u.seconds).then (compare t.nanos u.nanos) = .gt ↔ _
  rw [Ordering.then_eq_gt, compare_gt_iff_gt, compare_eq_iff_eq, compare_gt_iff_gt]

end

/-- Nanoseconds since 1970; those of a leap second are counted again in the second after it. -/
def position (t : Instant) : Int := t.seconds * 1000000000 + t.nanos

/-- Where an instant comes to lie by a move of some milliseconds. -/
inductive Moved (t : Instant) (milliseconds : Int) (u : Instant) : Prop
  | plain (ht : t.nanos < 1000000000) (hu : u.nanos < 1000000000)
      (hposition : u.position = t.position + milliseconds * 1000000)
  | onward (ht : 1000000000 ≤ t.nanos) (hfar : 2000000000 ≤ t.nanos + milliseconds * 1000000)
      (hu : u.nanos < 1000000000)
      (hposition : u.position = t.position - 1000000000 + milliseconds * 1000000)
  | within (ht : 1000000000 ≤ t.nanos) (hfar : -1000 < milliseconds)
      (hnear : t.nanos + milliseconds * 1000000 < 2000000000)
      (hseconds : u.seconds = t.seconds) (hnanos : u.nanos = t.nanos + milliseconds * 1000000)
  | back (ht : 1000000000 ≤ t.nanos) (hfar : milliseconds ≤ -1000) (hu : u.nanos < 1000000000)
      (hposition : u.position = t.position + milliseconds * 1000000)

section

variable {t u v : Instant} {seconds nanos milliseconds more : Int}

theorem nanos_lt (t : Instant) : t.nanos < 2000000000 := by
  have := t.valid.2.2
  omega

theorem ofParts?_inv {nanos : Nat} (h : ofParts? seconds nanos = some u) :
    u.seconds = seconds ∧ u.nanos = nanos := by
  unfold ofParts? at h
  split at h
  · cases h
    exact ⟨rfl, rfl⟩
  · cases h

theorem carry?_inv (hlow : -1000000000 ≤ nanos) (hhigh : nanos < 2000000000)
    (h : carry? seconds nanos = some u) :
    u.nanos < 1000000000 ∧ u.position = seconds * 1000000000 + nanos := by
  unfold carry? at h
  unfold position
  split at h
  · obtain ⟨hseconds, hnanos⟩ := ofParts?_inv h
    omega
  · split at h
    · obtain ⟨hseconds, hnanos⟩ := ofParts?_inv h
      omega
    · obtain ⟨hseconds, hnanos⟩ := ofParts?_inv h
      omega

private theorem seconds_and_rest (milliseconds : Int) :
    milliseconds = milliseconds.tdiv 1000 * 1000 + milliseconds.tmod 1000 ∧
      -1000 < milliseconds.tmod 1000 ∧ milliseconds.tmod 1000 < 1000 ∧
      (0 < milliseconds.tmod 1000 → 0 ≤ milliseconds.tdiv 1000) ∧
      (milliseconds.tmod 1000 < 0 → milliseconds.tdiv 1000 ≤ 0) := by
  rcases Int.le_total 0 milliseconds with h | h
  · rw [Int.tdiv_eq_ediv_of_nonneg h, Int.tmod_eq_emod_of_nonneg h]
    omega
  · obtain ⟨n, rfl⟩ : ∃ n, milliseconds = -n := ⟨-milliseconds, by omega⟩
    have hn : 0 ≤ n := by omega
    rw [Int.neg_tdiv, Int.neg_tmod, Int.tdiv_eq_ediv_of_nonneg hn, Int.tmod_eq_emod_of_nonneg hn]
    omega

theorem moved_of_shift? (h : t.shift? milliseconds = some u) : Moved t milliseconds u := by
  obtain ⟨hms, hlow, hhigh, hpos, hneg⟩ := seconds_and_rest milliseconds
  have hnanos := nanos_lt t
  unfold shift? at h
  generalize milliseconds.tdiv 1000 = whole at *
  generalize milliseconds.tmod 1000 = rest at *
  dsimp only at h
  split at h
  · next ht =>
    obtain ⟨hu, hposition⟩ := carry?_inv (by omega) (by omega) h
    exact .plain ht hu (by unfold position at *; omega)
  · next ht =>
    split at h
    · next hfar =>
      obtain ⟨hu, hposition⟩ := carry?_inv (by omega) (by omega) h
      exact .onward (by omega) (by omega) hu (by unfold position at *; omega)
    · next hnear =>
      split at h
      · next hback =>
        obtain ⟨hu, hposition⟩ := carry?_inv (by omega) (by omega) h
        exact .back (by omega) (by omega) hu (by unfold position at *; omega)
      · next hstay =>
        obtain ⟨hseconds, hu⟩ := ofParts?_inv h
        exact .within (by omega) (by omega) (by omega) hseconds (by omega)

theorem Moved.le (h : Moved t milliseconds u) (hmore : Moved t more v)
    (hle : milliseconds ≤ more) :
    u.seconds < v.seconds ∨ u.seconds = v.seconds ∧ u.nanos ≤ v.nanos := by
  have ht : t.position = t.seconds * 1000000000 + t.nanos := rfl
  have hu : u.position = u.seconds * 1000000000 + u.nanos := rfl
  have hv : v.position = v.seconds * 1000000000 + v.nanos := rfl
  have hnanos := nanos_lt t
  -- Out of a leap second a move goes back, stays or goes on, in the order of its milliseconds.
  cases h <;> cases hmore <;> omega

theorem compare_of_shift? (h : t.shift? milliseconds = some u) (hmore : t.shift? more = some v)
    (hle : milliseconds ≤ more) (x : Instant) :
    (compare x v = .gt → compare x u = .gt) ∧ (compare x u = .lt → compare x v = .lt) := by
  have := (moved_of_shift? h).le (moved_of_shift? hmore) hle
  simp only [compare_eq_gt_iff, compare_eq_lt_iff]
  omega

end

end RuleBook.Instant
