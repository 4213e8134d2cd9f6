import Mathlib.Data.Nat.Notation

/-! A stream of which each read takes a piece: not more than was asked for, not more than is left,
and otherwise as much as the stream wants to give, which is at least one. -/

namespace CutStream

open List

structure Source (α : Type) where
  left : List α
  cuts : ℕ → ℕ

section
variable {α : Type}

def Source.count (s : Source α) (n : ℕ) : ℕ := min (s.cuts 0 + 1) (min n s.left.length)

def Source.read (s : Source α) (n : ℕ) : List α × Source α :=
  (s.left.take (s.count n), ⟨s.left.drop (s.count n), fun k => s.cuts (k + 1)⟩)

variable {s : Source α} {n : ℕ}

lemma Source.read_append : (s.read n).1 ++ (s.read n).2.left = s.left := take_append_drop _ _

lemma Source.length_read_le : (s.read n).1.length ≤ n := by
  rw [Source.read, length_take, Source.count]
  omega

lemma Source.length_read_pos (hn : 0 < n) (hs : s.left ≠ []) : 0 < (s.read n).1.length := by
  have hpos : 0 < s.left.length := length_pos_iff.mpr hs
  rw [Source.read, length_take, Source.count]
  omega

lemma Source.read_front (xs ys : List α) (cuts : ℕ → ℕ) :
    (Source.read ⟨xs ++ ys, cuts⟩ xs.length).1 = xs.take (cuts 0 + 1) := by
  have hcount : Source.count ⟨xs ++ ys, cuts⟩ xs.length = min (cuts 0 + 1) xs.length := by
    simp only [Source.count, length_append]
    omega
  rw [Source.read, hcount, take_append_of_le_length (Nat.min_le_right _ _), ← take_take,
    take_length]

lemma Source.read_all (xs : List α) (cuts : ℕ → ℕ) :
    (Source.read ⟨xs, cuts⟩ xs.length).1 = xs.take (cuts 0 + 1) := by
  have hfront := Source.read_front xs [] cuts
  rwa [append_nil] at hfront

lemma Source.read_whole {xs : List α} {cuts : ℕ → ℕ} (h : xs.length ≤ cuts 0 + 1)
    (ys : List α) :
    Source.read ⟨xs ++ ys, cuts⟩ xs.length = (xs, ⟨ys, fun k => cuts (k + 1)⟩) := by
  have hcount : Source.count ⟨xs ++ ys, cuts⟩ xs.length = xs.length := by
    simp only [Source.count, length_append]
    omega
  rw [Source.read, hcount, take_left, drop_left]

end

end CutStream
