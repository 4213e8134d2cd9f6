import Mathlib.Data.List.Nodup

/-! A scan that keeps no place of its own: each call goes through the list from its start, passes
over the entries up to the last result and returns the first one behind it that passes a test. -/

namespace CursorScan

open List

variable {α : Type*} [DecidableEq α] {test : α → Bool}

def seek (test : α → Bool) : List α → Option α → Option α × Option α
  | [], last => (none, last)
  | e :: l, last =>
    if last ≠ none ∧ last ≠ some e then seek test l last
    else if last = some e then seek test l none
    else if test e then (some e, last)
    else seek test l last

lemma seek_none (l : List α) : seek test l none = (l.find? test, none) := by
  induction l with
  | nil => rfl
  | cons e l ih => cases he : test e <;> simp [seek, he, ih]

lemma seek_after {pre : List α} {e : α} (he : e ∉ pre) (rest : List α) :
    seek test (pre ++ e :: rest) (some e) = (rest.find? test, none) := by
  induction pre with
  | nil => simp [seek, seek_none]
  | cons x pre ih =>
    rw [mem_cons, not_or] at he
    obtain ⟨hne, he⟩ := he
    simp [seek, hne, ih he]

lemma seek_append (l l' : List α) (last : Option α) :
    seek test (l ++ l') last =
      match seek test l last with
      | (some e, last) => (some e, last)
      | (none, last) => seek test l' last := by
  induction l generalizing last with
  | nil => rfl
  | cons e l ih =>
    rw [cons_append, seek, seek]
    split
    · exact ih last
    split
    · exact ih none
    split
    · rfl
    · exact ih last

def enumerate (next : Option α → Option (Option α)) : ℕ → Option α → Option (List α)
  | 0, _ => none
  | fuel + 1, last => do
    match ← next last with
    | none => return []
    | some e => return e :: (← enumerate next fuel (some e))

variable {next : Option α → Option (Option α)}

lemma enumerate_rest {l : List α} (pre rest : List α)
    {last : Option α} {fuel : ℕ} (hl : l.Nodup) (hsplit : l = pre ++ rest)
    (hlast : pre.getLast? = last) (hnext : ∀ last, next last = some (seek test l last).1)
    (hf : (rest.filter test).length < fuel) :
    enumerate next fuel last = some (rest.filter test) := by
  induction fuel generalizing pre rest last with
  | zero => cases hf
  | succ fuel ih =>
    have hfound : next last = some (rest.find? test) := by
      rw [hnext, hsplit, ← hlast]
      rcases eq_nil_or_concat pre with rfl | ⟨pre, e, rfl⟩
      · simp [seek_none]
      · have he : e ∉ pre := by
          have hnd := (nodup_append.mp (hsplit ▸ hl)).1
          rw [concat_eq_append] at hnd
          exact fun h => (nodup_append.mp hnd).2.2 e h e (.head _) rfl
        simp [seek_after he]
    rw [enumerate, hfound]
    cases hfind : rest.find? test with
    | none =>
      have hnil : rest.filter test = [] := filter_eq_nil_iff.mpr (find?_eq_none.mp hfind)
      simp [hnil]
    | some e =>
      obtain ⟨he, xs, ys, rfl, hxs⟩ := find?_eq_some_iff_append.mp hfind
      have hxs : xs.filter test = [] := filter_eq_nil_iff.mpr (by simpa using hxs)
      have hfilter : (xs ++ e :: ys).filter test = e :: ys.filter test := by
        rw [filter_append, hxs, filter_cons_of_pos he, nil_append]
      rw [hfilter] at hf ⊢
      have hrest := ih (pre ++ xs ++ [e]) ys (by simp [hsplit]) getLast?_concat
        (Nat.lt_of_succ_lt_succ hf)
      simp [hrest]

end CursorScan
