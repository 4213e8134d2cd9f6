import Mathlib.Data.List.Basic

/-! What stands behind the first occurrence of a word in a text. -/

namespace TextSearch

open List

variable {α : Type*} [DecidableEq α] {w p text rest : List α} {q : α}

def afterFirst (w : List α) : List α → Option (List α)
  | [] => if w.isPrefixOf [] then some [] else none
  | a :: text =>
    if w.isPrefixOf (a :: text) then some ((a :: text).drop w.length) else afterFirst w text

lemma afterFirst_self (w rest : List α) : afterFirst w (w ++ rest) = some rest := by
  cases htext : w ++ rest with
  | nil =>
    obtain ⟨rfl, rfl⟩ := append_eq_nil_iff.mp htext
    simp [afterFirst]
  | cons a text =>
    have hbegins : w.isPrefixOf (a :: text) = true := by
      rw [ isPrefixOf_iff_prefix, ← htext]
      exact prefix_append w rest
    rw [afterFirst, if_pos hbegins, ← htext, drop_left]

lemma afterFirst_cons {a : α} (h : ¬ w <+: a :: text) :
    afterFirst w (a :: text) = afterFirst w text := by
  rw [afterFirst, if_neg (by rwa [ isPrefixOf_iff_prefix])]

lemma afterFirst_append (p : List α) (h : ∀ k < p.length, ¬ w <+: (p ++ text).drop k) :
    afterFirst w (p ++ text) = afterFirst w text := by
  induction p with
  | nil => rfl
  | cons a p ih =>
    have hhere : ¬ w <+: a :: (p ++ text) := h 0 (Nat.succ_pos _)
    rw [cons_append, afterFirst_cons hhere]
    exact ih fun k hk => h (k + 1) (Nat.succ_lt_succ hk)

lemma afterFirst_some (h : afterFirst w text = some rest) :
    ∃ p, text = p ++ (w ++ rest) ∧ ∀ k < p.length, ¬ w <+: text.drop k := by
  induction text with
  | nil =>
    rw [afterFirst] at h
    split at h
    next hw =>
      cases h
      have hnil : w = [] := by simpa [ isPrefixOf_iff_prefix] using hw
      exact ⟨[], by simp [hnil], by simp⟩
    · cases h
  | cons a text ih =>
    by_cases hw : w <+: a :: text
    · obtain ⟨tail, htail⟩ := hw
      rw [← htail, afterFirst_self] at h
      cases h
      exact ⟨[], htail.symm, by simp⟩
    · rw [afterFirst_cons hw] at h
      obtain ⟨p, rfl, hp⟩ := ih h
      refine ⟨a :: p, rfl, fun k hk => ?_⟩
      cases k with
      | zero => exact hw
      | succ k => exact hp k (Nat.lt_of_succ_lt_succ hk)

lemma afterFirst_none (h : afterFirst w text = none) (k : ℕ) : ¬ w <+: text.drop k := by
  induction text generalizing k with
  | nil =>
    rw [afterFirst] at h
    split at h
    · cases h
    next hw => simpa [ isPrefixOf_iff_prefix] using hw
  | cons a text ih =>
    by_cases hw : w <+: a :: text
    · obtain ⟨tail, htail⟩ := hw
      rw [← htail, afterFirst_self] at h
      cases h
    · rw [afterFirst_cons hw] at h
      cases k with
      | zero => exact hw
      | succ k => exact ih h k

lemma bne_of_notMem (h : q ∉ p) : ∀ c ∈ p, (c != q) = true :=
  fun _ hc => bne_iff_ne.mpr fun heq => h (heq ▸ hc)

omit [DecidableEq α] in
lemma eq_of_begins (hw : q ∉ w) (hp : q ∉ p) (h : w ++ [q] <+: p ++ q :: rest) : w = p := by
  induction w generalizing p with
  | nil =>
    cases p with
    | nil => rfl
    | cons a p =>
      have ha : q = a := (cons_prefix_cons.mp h).1
      exact absurd (.head _) (ha ▸ hp)
  | cons a w ih =>
    cases p with
    | nil =>
      have ha : a = q := (cons_prefix_cons.mp h).1
      exact absurd (.head _) (ha ▸ hw)
    | cons b p =>
      obtain ⟨rfl, htail⟩ := cons_prefix_cons.mp h
      rw [ih (fun hm => hw (.tail _ hm)) (fun hm => hp (.tail _ hm)) htail]

lemma afterFirst_segment (hw : q ∉ w) (hp : q ∉ p) (h : ¬ w <:+ p) :
    afterFirst (w ++ [q]) (p ++ q :: rest) = afterFirst (w ++ [q]) rest := by
  induction p with
  | nil =>
    refine afterFirst_cons fun hbegins => h ?_
    have hnil : w = [] := eq_of_begins hw hp hbegins
    exact hnil ▸ suffix_rfl
  | cons a p ih =>
    have hhere : ¬ w ++ [q] <+: a :: (p ++ q :: rest) := by
      intro hbegins
      rw [eq_of_begins (p := a :: p) hw hp hbegins] at h
      exact h suffix_rfl
    rw [cons_append, afterFirst_cons hhere]
    exact ih (fun hm => hp (.tail _ hm)) fun hs => h (hs.trans (suffix_cons a p))

lemma afterFirst_segment_end (hw : q ∉ w) (hp : q ∉ p) (h : w <:+ p) :
    afterFirst (w ++ [q]) (p ++ q :: rest) = some rest := by
  obtain ⟨before, rfl⟩ := h
  have hskip : ∀ k < before.length, ¬ w ++ [q] <+: (before ++ (w ++ [q] ++ rest)).drop k := by
    intro k hk hbegins
    rw [drop_append_of_le_length (Nat.le_of_lt hk)] at hbegins
    have hsame : w ++ [q] <+: before.drop k ++ w ++ q :: rest := by simpa using hbegins
    have heq : w = before.drop k ++ w := by
      refine eq_of_begins hw (fun hm => hp ?_) hsame
      rcases mem_append.mp hm with hm | hm
      · exact mem_append_left _ (mem_of_mem_drop hm)
      · exact mem_append_right _ hm
    have hlen := congrArg length heq
    rw [length_append, length_drop] at hlen
    omega
  have htext : before ++ w ++ q :: rest = before ++ (w ++ [q] ++ rest) := by simp
  rw [htext, afterFirst_append before hskip, afterFirst_self]

/-- No proper end of the word is also its beginning, so two occurrences do not overlap. -/
def Unbordered (w : List α) : Prop := ∀ k < w.length, 0 < k → (w.drop k).isPrefixOf w = false

instance : Decidable (Unbordered w) :=
  inferInstanceAs (Decidable (∀ k < w.length, 0 < k → (w.drop k).isPrefixOf w = false))

lemma Unbordered.not_prefix_drop (hw : Unbordered w) (more : List α) {k : ℕ} (hk : 0 < k)
    (hlt : k < w.length) : ¬ w ++ more <+: (w ++ rest).drop k := by
  intro hbegins
  rw [drop_append_of_le_length (Nat.le_of_lt hlt)] at hbegins
  have hlong : w <+: w.drop k ++ rest := (prefix_append w more).trans hbegins
  have hshort : w.drop k <+: w := prefix_of_prefix_length_le (prefix_append _ rest) hlong (by simp)
  rw [← isPrefixOf_iff_prefix, hw k hlt hk] at hshort
  cases hshort

lemma Unbordered.afterFirst_skip (hw : Unbordered w) {more : List α}
    (h : afterFirst w text = some rest) (hmore : ¬ more <+: rest) :
    afterFirst (w ++ more) text = afterFirst (w ++ more) rest := by
  obtain ⟨p, rfl, hp⟩ := afterFirst_some h
  have hfirst : ∀ k < p.length, ¬ w ++ more <+: (p ++ (w ++ rest)).drop k :=
    fun k hk hbegins => hp k hk ((prefix_append w more).trans hbegins)
  have hinner : ∀ k < w.length, ¬ w ++ more <+: (w ++ rest).drop k := by
    intro k hk
    rcases Nat.eq_zero_or_pos k with rfl | hpos
    · rw [drop_zero, prefix_append_right_inj]
      exact hmore
    · exact hw.not_prefix_drop more hpos hk
  rw [afterFirst_append p hfirst, afterFirst_append w hinner]

lemma afterFirst_continued (more : List α) (h : afterFirst w text = some (more ++ rest)) :
    afterFirst (w ++ more) text = some rest := by
  obtain ⟨p, rfl, hp⟩ := afterFirst_some h
  have hfirst : ∀ k < p.length, ¬ w ++ more <+: (p ++ (w ++ (more ++ rest))).drop k :=
    fun k hk hbegins => hp k hk ((prefix_append w more).trans hbegins)
  rw [afterFirst_append p hfirst, ← append_assoc, afterFirst_self]

lemma afterFirst_none_append {more : List α} (h : afterFirst w text = none) :
    afterFirst (w ++ more) text = none := by
  cases hmore : afterFirst (w ++ more) text with
  | none => rfl
  | some rest =>
    obtain ⟨p, rfl, -⟩ := afterFirst_some hmore
    refine absurd ?_ (afterFirst_none h p.length)
    rw [drop_left, append_assoc]
    exact prefix_append w _

end TextSearch
