import Mathlib.Data.List.Basic

/-! The place of a walk is the entry it comes to next, or the end of the list. -/

namespace ListCursor

open List

variable {α : Type*} {l l' : List α} {c x : α} {cursor : Option α}

def Within (l : List α) (cursor : Option α) : Prop := ∀ c, cursor = some c → c ∈ l

lemma within_none : Within l none := by simp [Within]

lemma within_head : Within l l.head? := fun _ hc => mem_of_mem_head? hc

lemma Within.append (h : Within l cursor) : Within (l ++ l') cursor :=
  fun c hc => mem_append_left _ (h c hc)

lemma exists_split (hc : c ∈ l) (hl : l.Nodup) :
    ∃ xs ys, l = xs ++ c :: ys ∧ c ∉ xs ∧ ∀ y ∈ ys, y ∉ xs ++ [c] := by
  obtain ⟨xs, ys, rfl⟩ := append_of_mem hc
  obtain ⟨-, hcy, hdis⟩ := nodup_append.mp hl
  refine ⟨xs, ys, rfl, fun h => hdis c h c (.head _) rfl, fun y hys hyx => ?_⟩
  rcases mem_append.mp hyx with h | h
  · exact hdis y h y (mem_cons_of_mem c hys) rfl
  · exact (nodup_cons.mp hcy).1 (mem_singleton.mp h ▸ hys)

variable [DecidableEq α]

def next (l : List α) (x : α) : Option α := (l.dropWhile (· ≠ x)).tail.head?

def passed (l : List α) : Option α → List α
  | none => l
  | some c => l.takeWhile (· ≠ c)

variable {xs ys : List α}

lemma all_ne (hx : x ∉ xs) : ∀ y ∈ xs, decide (y ≠ x) = true :=
  fun _ hy => decide_eq_true fun e => hx (e ▸ hy)

lemma filter_ne_append (hx : x ∉ xs) (hy : x ∉ ys) : (xs ++ x :: ys).filter (· ≠ x) = xs ++ ys := by
  rw [filter_append, filter_cons_of_neg (by simp), filter_eq_self.mpr (all_ne hx),
    filter_eq_self.mpr (all_ne hy)]

lemma next_append (hx : x ∉ xs) : next (xs ++ x :: ys) x = ys.head? := by
  rw [next, dropWhile_append_of_pos (all_ne hx), dropWhile_cons_of_neg (by simp), tail_cons]

lemma passed_append_cons (hx : x ∉ xs) : passed (xs ++ x :: ys) (some x) = xs := by
  rw [passed, takeWhile_append_of_pos (all_ne hx), takeWhile_cons_of_neg (by simp), append_nil]

lemma within_next : Within l (next l x) := by
  intro c hc
  have htail : c ∈ (l.dropWhile (· ≠ x)).tail := mem_of_mem_head? hc
  exact (dropWhile_suffix _).subset (mem_of_mem_tail htail)

lemma passed_head : passed l l.head? = [] := by
  cases l with
  | nil => rfl
  | cons a l => simp [passed]

lemma passed_next (hl : l.Nodup) (hc : c ∈ l) : passed l (next l c) = passed l (some c) ++ [c] := by
  obtain ⟨xs, ys, rfl, hcx, hys⟩ := exists_split hc hl
  rw [next_append hcx, passed_append_cons hcx]
  cases ys with
  | nil => rfl
  | cons y ys =>
    have hsplit : xs ++ c :: y :: ys = (xs ++ [c]) ++ y :: ys := by simp
    rw [head?_cons, hsplit, passed_append_cons (hys y (.head _))]

lemma mem_passed_append (h : Within l cursor) (hx : x ∈ passed (l ++ l') cursor) :
    x ∈ passed l cursor ∨ cursor = none ∧ x ∈ l' := by
  cases cursor with
  | none =>
    rcases mem_append.mp hx with hx | hx
    · exact .inl hx
    · exact .inr ⟨rfl, hx⟩
  | some c =>
    left
    obtain ⟨xs, ys, rfl, hcx⟩ := eq_append_cons_of_mem (h c rfl)
    rw [append_assoc, cons_append, passed_append_cons hcx] at hx
    rwa [passed_append_cons hcx]

lemma mem_of_mem_passed (hx : x ∈ passed l cursor) : x ∈ l := by
  cases cursor with
  | none => exact hx
  | some c => exact takeWhile_subset _ hx

end ListCursor
