import Mathlib.Data.List.Basic

/-! A record is a list of cells in which every field has its place and its size. -/

namespace FixedFields

open List

variable {α : Type} {blank : α}

def fit (blank : α) (n : ℕ) (xs : List α) : List α := xs.take n ++ replicate (n - xs.length) blank

def part (off n : ℕ) (xs : List α) : List α := (xs.drop off).take n

variable {n off : ℕ} {xs ys zs : List α}

@[simp] lemma length_fit : (fit blank n xs).length = n := by
  simp only [fit, length_append, length_take, length_replicate]
  omega

lemma fit_of_length (h : xs.length = n) : fit blank n xs = xs := by
  rw [fit, ← h, take_length, Nat.sub_self, replicate_zero, append_nil]

lemma fit_take_eq_iff {k : ℕ} :
    fit blank xs.length (xs.take k) = xs ↔ ∀ x ∈ xs.drop k, x = blank := by
  have hcut : (xs.take k).take xs.length = xs.take k :=
    take_of_length_le (by rw [length_take]; exact Nat.min_le_right k xs.length)
  have hrest : xs.length - (xs.take k).length = (xs.drop k).length := by
    rw [length_take, length_drop]
    omega
  have hsplit : fit blank xs.length (xs.take k) = xs ↔
      replicate (xs.drop k).length blank = xs.drop k := by
    rw [fit, hcut, hrest]
    refine ⟨fun h => ?_, fun h => by rw [h, take_append_drop]⟩
    exact append_cancel_left (h.trans (take_append_drop k xs).symm)
  rw [hsplit, eq_comm, eq_replicate_iff]
  exact ⟨fun h => h.2, fun h => ⟨rfl, h⟩⟩

lemma part_head (h : xs.length = n) : part 0 n (xs ++ ys) = xs := by
  rw [part, drop_zero, ← h, take_left]

lemma part_end (h : xs.length = n) : part 0 n xs = xs := by
  rw [part, drop_zero, ← h, take_length]

lemma part_skip (h : xs.length ≤ off) : part off n (xs ++ ys) = part (off - xs.length) n ys := by
  rw [part, part, drop_append, drop_eq_nil_of_le h, nil_append]

end FixedFields
