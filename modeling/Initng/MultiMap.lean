import Mathlib.Data.List.Induction
import Mathlib.Data.List.Nodup
import Mathlib.Logic.Function.Basic

/-! A map that has a list of values under each key, the oldest first. -/

namespace MultiMap

open List Function

variable {κ ν : Type*}

inductive Op (κ ν : Type*)
  | put (k : κ) (v : ν)
  | add (k : κ) (v : ν)
  | drop (k : κ)

def Op.key : Op κ ν → κ
  | .put k _ | .add k _ | .drop k => k

def Op.isPut : Op κ ν → Bool
  | .put .. => true
  | _ => false

def Op.isAdd : Op κ ν → Bool
  | .add .. => true
  | _ => false

def Op.isDrop : Op κ ν → Bool
  | .drop _ => true
  | _ => false

def Op.value : Op κ ν → Option ν
  | .put _ v | .add _ v => some v
  | .drop _ => none

section
variable [DecidableEq κ]

def Op.apply (op : Op κ ν) (m : κ → List ν) : κ → List ν :=
  match op with
  | .put k v => update m k [v]
  | .add k v => update m k (m k ++ [v])
  | .drop k => update m k []

variable {op : Op κ ν} {k : κ} {ops : List (Op κ ν)}

lemma Op.apply_of_ne (h : op.key ≠ k) (m : κ → List ν) : op.apply m k = m k := by
  cases op <;> exact update_of_ne (Ne.symm h) ..

def run (ops : List (Op κ ν)) : κ → List ν := ops.foldl (fun m op => op.apply m) fun _ => []

lemma run_concat (ops : List (Op κ ν)) (op : Op κ ν) : run (ops ++ [op]) = op.apply (run ops) := by
  simp [run]

def setSince (k : κ) (ops : List (Op κ ν)) : List ν :=
  ((ops.filter fun op => op.key = k).reverse.takeWhile fun op => !op.isDrop).reverse.filterMap
    Op.value

def lastSet (k : κ) (ops : List (Op κ ν)) : Option ν := (setSince k ops).getLast?

lemma setSince_concat_of_ne (h : op.key ≠ k) (ops : List (Op κ ν)) :
    setSince k (ops ++ [op]) = setSince k ops := by
  simp [setSince, h]

lemma setSince_concat (ops : List (Op κ ν)) (op : Op κ ν) :
    setSince op.key (ops ++ [op]) = op.value.elim [] fun v => setSince op.key ops ++ [v] := by
  cases op <;> simp [setSince, Op.key, Op.isDrop, Op.value]

lemma run_eq_setSince (h : ∀ op ∈ ops, op.key = k → op.isPut = false) :
    run ops k = setSince k ops := by
  induction ops using reverseRecOn with
  | nil => rfl
  | append_singleton ops op ih =>
    have hrun := ih fun o ho => h o (mem_append_left _ ho)
    by_cases hk : op.key = k
    · subst hk
      have hop := h op (by simp) rfl
      rw [run_concat, setSince_concat, ← hrun]
      cases op with
      | put k v => cases hop
      | add | drop => exact update_self ..
    · rw [run_concat, Op.apply_of_ne hk, setSince_concat_of_ne hk, hrun]

lemma run_eq_lastSet (h : ∀ op ∈ ops, op.key = k → op.isAdd = false) :
    run ops k = (lastSet k ops).toList := by
  induction ops using reverseRecOn with
  | nil => rfl
  | append_singleton ops op ih =>
    have hrun := ih fun o ho => h o (mem_append_left _ ho)
    by_cases hk : op.key = k
    · subst hk
      have hop := h op (by simp) rfl
      rw [run_concat, lastSet, setSince_concat]
      cases op with
      | put k v => simp [Op.apply, Op.key, Op.value]
      | add k v => cases hop
      | drop k => exact update_self ..
    · rw [run_concat, Op.apply_of_ne hk, lastSet, setSince_concat_of_ne hk, hrun, lastSet]

end

section
variable {ι : Type*} [DecidableEq κ] {cell : ι → κ × ν} {l : List ι} {i : ι} {k : κ} {v : ν}

def stored (cell : ι → κ × ν) (l : List ι) (k : κ) : List ν :=
  (l.filter fun i => (cell i).1 = k).map fun i => (cell i).2

lemma head?_stored (cell : ι → κ × ν) (l : List ι) (k : κ) :
    (stored cell l k).head? = (l.find? fun i => (cell i).1 = k).map fun i => (cell i).2 := by
  rw [stored, head?_map, head?_filter]

lemma stored_dropped (cell : ι → κ × ν) (l : List ι) (k : κ) :
    stored cell (l.filter fun i => (cell i).1 ≠ k) = (Op.drop k).apply (stored cell l) := by
  funext j
  by_cases hj : j = k
  · subst hj
    simp [stored, Op.apply, filter_filter]
  · rw [Op.apply_of_ne (Ne.symm hj), stored, stored, filter_filter]
    refine congrArg _ (filter_congr fun i _ => ?_)
    by_cases hi : (cell i).1 = j <;> simp [hi, hj]

section
variable [DecidableEq ι]

lemma stored_update_of_notMem (hi : i ∉ l) (c : κ × ν) :
    stored (update cell i c) l = stored cell l := by
  have heq : ∀ j ∈ l, update cell i c j = cell j := by
    intro j hj
    exact update_of_ne (ne_of_mem_of_not_mem hj hi) ..
  funext k
  have hfilter : (l.filter fun j => (update cell i c j).1 = k) =
      l.filter fun j => (cell j).1 = k :=
    filter_congr fun j hj => by rw [heq j hj]
  rw [stored, stored, hfilter]
  exact map_congr_left fun j hj => by rw [heq j (mem_of_mem_filter hj)]

lemma stored_append (hi : i ∉ l) (k : κ) (v : ν) :
    stored (update cell i (k, v)) (l ++ [i]) = (Op.add k v).apply (stored cell l) := by
  funext j
  have hl : stored (update cell i (k, v)) l j = stored cell l j := by
    rw [stored_update_of_notMem hi]
  have hsplit : stored (update cell i (k, v)) (l ++ [i]) j =
      stored cell l j ++ if k = j then [v] else [] := by
    rw [← hl, stored, filter_append, map_append]
    by_cases hj : k = j <;> simp [stored, hj]
  rw [hsplit]
  by_cases hj : j = k
  · subst hj
    simp [Op.apply]
  · rw [Op.apply_of_ne (Ne.symm hj), if_neg (Ne.symm hj), append_nil]

lemma stored_write (hl : l.Nodup) (hi : i ∈ l) (hk : (cell i).1 = k)
    (hsingle : (stored cell l k).length ≤ 1) (v : ν) :
    stored (update cell i (k, v)) l = (Op.put k v).apply (stored cell l) := by
  obtain ⟨xs, ys, rfl⟩ := append_of_mem hi
  obtain ⟨hx, hy⟩ : i ∉ xs ∧ i ∉ ys := by
    have := nodup_middle.mp hl
    simpa using (nodup_cons.mp this).1
  have hsplit : ∀ (c : ι → κ × ν) j, stored c (xs ++ i :: ys) j =
      stored c xs j ++ (if (c i).1 = j then [(c i).2] else []) ++ stored c ys j := by
    intro c j
    by_cases hc : (c i).1 = j <;> simp [stored, hc]
  funext j
  rw [hsplit, stored_update_of_notMem hx, stored_update_of_notMem hy, update_self]
  by_cases hj : j = k
  · subst hj
    -- no room is left for another cell of this key
    rw [hsplit, if_pos hk, length_append, length_append, length_singleton] at hsingle
    have hxs : stored cell xs j = [] := length_eq_zero_iff.mp (by omega)
    have hys : stored cell ys j = [] := length_eq_zero_iff.mp (by omega)
    simp [Op.apply, hxs, hys]
  · rw [Op.apply_of_ne (Ne.symm hj), hsplit, hk, if_neg (Ne.symm hj), if_neg (Ne.symm hj)]

end

end

end MultiMap
