import Mathlib.Data.List.Basic
import Mathlib.Logic.Relation

/-! A search over the unfolding of a successor function that may expand only a fixed number of
vertices. -/

namespace BudgetSearch

open List

variable {α : Type*}

def preorder (succ : α → List α) : ℕ → α → List α
  | 0, _ => []
  | n + 1, x => x :: (succ x).flatMap (preorder succ n)

def visitAll (visit : α → ℕ → Bool × ℕ) : List α → ℕ → Bool × ℕ
  | [], b => (false, b)
  | y :: ys, b =>
    match visit y b with
    | (true, b) => (true, b)
    | (false, b) => visitAll visit ys b

/-- The search from one vertex with `b` expansions left.  The first argument bounds the depth. -/
def search (succ : α → List α) (goal : α → Bool) : ℕ → α → ℕ → Bool × ℕ
  | n, x, b =>
    if goal x then (true, b)
    else match n, b with
      | n + 1, b + 1 => visitAll (search succ goal n) (succ x) b
      | _, _ => (false, 0)

section
variable (succ : α → List α) (goal : α → Bool)

variable {n b : ℕ} {x : α}

lemma search_of_goal (h : goal x = true) : search succ goal n x b = (true, b) := by
  unfold search
  simp [h]

lemma search_zero (h : goal x = false) : search succ goal n x 0 = (false, 0) := by
  unfold search
  cases n <;> simp [h]

lemma search_succ (h : goal x = false) :
    search succ goal (n + 1) x (b + 1) = visitAll (search succ goal n) (succ x) b := by
  conv_lhs => unfold search
  simp [h]

end

/-- What a list of visits finds: a goal among the vertices themselves, or a goal just
below one of the first `b` vertices of their unfoldings. -/
def FoundBelow (succ : α → List α) (goal : α → Bool) (n b : ℕ) (ys : List α) : Prop :=
  (∃ y ∈ ys, goal y = true) ∨
    ∃ z ∈ (ys.flatMap (preorder succ n)).take b, ∃ y ∈ succ z, goal y = true

/-- The outcome of a search whose depth bound is no smaller than its budget: it succeeds
exactly when there is a goal at the start or just below one of the first `b` vertices
of the unfolding, and a failed search has paid for every vertex it could reach. -/
structure Exact (succ : α → List α) (goal : α → Bool) (n b : ℕ) (ys : List α)
    (r : Bool × ℕ) : Prop where
  found : r.1 = true ↔ FoundBelow succ goal n b ys
  left : r.1 = false → r.2 = b - (ys.flatMap (preorder succ n)).length

variable {succ : α → List α} {goal : α → Bool}

variable {n : ℕ}

lemma foundBelow_cons {b : ℕ} {y : α} {ys : List α} :
    FoundBelow succ goal n b (y :: ys) ↔
      FoundBelow succ goal n b [y] ∨
        FoundBelow succ goal n (b - (preorder succ n y).length) ys := by
  simp only [FoundBelow, flatMap_cons, flatMap_nil, append_nil, take_append,
    mem_append, mem_cons, not_mem_nil, or_false, exists_eq_left, or_and_right,
    exists_or]
  exact or_or_or_comm

lemma visitAll_exact (hv : ∀ y b, b ≤ n → Exact succ goal n b [y] (search succ goal n y b))
    (ys : List α) (b : ℕ) (hb : b ≤ n) :
    Exact succ goal n b ys (visitAll (search succ goal n) ys b) := by
  induction ys generalizing b with
  | nil => exact ⟨by simp [visitAll, FoundBelow], by simp [visitAll]⟩
  | cons y ys ih =>
    have hy := hv y b hb
    simp only [visitAll]
    rcases hs : search succ goal n y b with ⟨_ | _, b'⟩
    · -- the first subtree found nothing: the rest continues with what it left over
      have hb' : b' = b - (preorder succ n y).length := by simpa [hs] using hy.left (by rw [hs])
      have hrest := ih b' (by omega)
      have hnot : ¬ FoundBelow succ goal n b [y] := by
        rw [← hy.found, hs]
        simp
      refine ⟨?_, ?_⟩
      · rw [hrest.found, foundBelow_cons, hb']
        simp [hnot]
      · intro hf
        rw [hrest.left hf, flatMap_cons, length_append, hb']
        omega
    · refine ⟨?_, by simp⟩
      have hfound : FoundBelow succ goal n b [y] := hy.found.mp (by rw [hs])
      simpa using foundBelow_cons.mpr (Or.inl hfound)

lemma search_exact (n b : ℕ) (x : α) (hb : b ≤ n) :
    Exact succ goal n b [x] (search succ goal n x b) := by
  induction n generalizing b x with
  | zero =>
    obtain rfl : b = 0 := by omega
    cases hg : goal x with
    | true => rw [search_of_goal succ goal hg]; exact ⟨by simp [FoundBelow, hg], by simp⟩
    | false => rw [search_zero succ goal hg]; exact ⟨by simp [FoundBelow, hg], by simp⟩
  | succ n ih =>
    cases hg : goal x with
    | true => rw [search_of_goal succ goal hg]; exact ⟨by simp [FoundBelow, hg], by simp⟩
    | false =>
      cases b with
      | zero => rw [search_zero succ goal hg]; exact ⟨by simp [FoundBelow, hg], by simp⟩
      | succ b =>
        rw [search_succ succ goal hg]
        have h := visitAll_exact (fun y b hb => ih b y hb) (succ x) b (by omega)
        refine ⟨?_, ?_⟩
        · rw [h.found]
          simp [FoundBelow, preorder, hg]
        · intro hf
          rw [h.left hf]
          simp [preorder]

lemma preorder_reachable {x z : α} (h : z ∈ preorder succ n x) :
    Relation.ReflTransGen (fun a b => b ∈ succ a) x z := by
  induction n generalizing x with
  | zero => simp [preorder] at h
  | succ n ih =>
    simp only [preorder, mem_cons, mem_flatMap] at h
    rcases h with rfl | ⟨y, hy, hz⟩
    · exact .refl
    · exact .head hy (ih hz)

end BudgetSearch
