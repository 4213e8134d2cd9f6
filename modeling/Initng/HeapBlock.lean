import Mathlib.Data.List.Basic

/-! A block is the list of all cells that are allocated. -/

namespace HeapBlock

open List

variable {α : Type}

def store (b : List α) (pos : ℕ) (xs : List α) : Option (List α) :=
  if pos + xs.length ≤ b.length then some (b.take pos ++ xs ++ b.drop (pos + xs.length)) else none

def load (b : List α) (pos n : ℕ) : Option (List α) :=
  if pos + n ≤ b.length then some ((b.drop pos).take n) else none

def realloc (b : List α) (n : ℕ) (junk : ℕ → α) : List α :=
  b.take n ++ (range (n - b.length)).map junk

def textAt [DecidableEq α] (terminator : α) (b : List α) (pos : ℕ) : Option (List α) :=
  if (b.drop pos).contains terminator then some ((b.drop pos).takeWhile (· ≠ terminator)) else none

def appendText [DecidableEq α] (terminator : α) (b xs : List α) : Option (List α) :=
  (textAt terminator b 0).bind fun text => store b text.length (xs ++ [terminator])

def concatText [DecidableEq α] (terminator : α) (n : ℕ) (parts : List (List α)) :
    Option (List α) :=
  (parts.foldlM (appendText terminator) (replicate n terminator)).bind fun b =>
    textAt terminator b 0

variable {b : List α} {pos n : ℕ} {xs : List α} {junk : ℕ → α}

lemma length_realloc : (realloc b n junk).length = n := by
  simp only [realloc, length_append, length_take, length_map, length_range]
  omega

lemma take_realloc {k : ℕ} (hk : k ≤ n) (hb : k ≤ b.length) :
    (realloc b n junk).take k = b.take k := by
  rw [realloc, take_append_of_le_length (by rw [length_take]; omega), take_take, Nat.min_eq_left hk]

lemma store_spec (h : pos + xs.length ≤ b.length) :
    ∃ b', store b pos xs = some b' ∧ b'.length = b.length ∧
      b'.take (pos + xs.length) = b.take pos ++ xs := by
  have hlen : (b.take pos ++ xs).length = pos + xs.length := by
    rw [length_append, length_take]
    omega
  refine ⟨_, if_pos h, ?_, ?_⟩
  · rw [length_append, hlen, length_drop]
    omega
  · exact take_left' hlen

lemma load_spec (h : pos + n ≤ b.length) : load b pos n = some ((b.drop pos).take n) := if_pos h

lemma textAt_spec [DecidableEq α] {terminator : α} {front text : List α}
    (h : b.take (front.length + text.length + 1) = front ++ text ++ [terminator])
    (ht : terminator ∉ text) : textAt terminator b front.length = some text := by
  have hb : b = front ++ (text ++ terminator :: b.drop (front.length + text.length + 1)) := by
    conv_lhs => rw [← take_append_drop (front.length + text.length + 1) b, h]
    simp
  have hdrop : b.drop front.length =
      text ++ terminator :: b.drop (front.length + text.length + 1) := by
    conv_lhs => rw [hb]
    exact drop_left
  have htake : (text ++ terminator :: b.drop (front.length + text.length + 1)).takeWhile
      (· ≠ terminator) = text := by
    have hne : ∀ x ∈ text, decide (x ≠ terminator) = true :=
      fun x hx => decide_eq_true fun h : x = terminator => ht (h ▸ hx)
    rw [takeWhile_append_of_pos hne]
    simp
  rw [textAt, hdrop, if_pos (by simp), htake]

lemma textAt_append [DecidableEq α] {terminator : α} {front : List α} (pos : ℕ) :
    textAt terminator (front ++ b) (front.length + pos) = textAt terminator b pos := by
  rw [textAt, textAt, ← drop_drop, drop_left]

lemma textAt_text [DecidableEq α] {terminator : α} {text : List α} (ht : terminator ∉ text)
    (left : List α) : textAt terminator (text ++ terminator :: left) 0 = some text := by
  have htake : (text ++ terminator :: left).take (([] : List α).length + text.length + 1) =
      [] ++ text ++ [terminator] := by
    rw [length_nil, Nat.zero_add, take_append, take_of_length_le (Nat.le_succ _)]
    simp
  exact textAt_spec htake ht

structure Begins (terminator : α) (n : ℕ) (text b : List α) : Prop where
  length : b.length = n
  fits : text.length < n
  take : b.take (text.length + 1) = text ++ [terminator]
  inside : terminator ∉ text

section
variable [DecidableEq α] {terminator : α} {text : List α}

section
variable (h : Begins terminator n text b)
include h

lemma Begins.textAt : HeapBlock.textAt terminator b 0 = some text := by
  have hfront : b.take (([] : List α).length + text.length + 1) = [] ++ text ++ [terminator] := by
    simpa using h.take
  exact textAt_spec hfront h.inside

lemma Begins.append (hxs : terminator ∉ xs)
    (hfits : text.length + xs.length < n) :
    ∃ b', appendText terminator b xs = some b' ∧ Begins terminator n (text ++ xs) b' := by
  have hlen := h.length
  have hroom : text.length + (xs ++ [terminator]).length ≤ b.length := by
    rw [length_append, length_singleton]
    omega
  obtain ⟨b', hb', hlen', htake⟩ := store_spec hroom
  have hfront : b.take text.length = text := by
    rw [← Nat.min_eq_left (Nat.le_succ text.length), ← take_take, h.take]
    exact take_left
  refine ⟨b', by rw [appendText, h.textAt]; exact hb', hlen'.trans hlen, ?_, ?_, ?_⟩
  · rw [length_append]
    exact hfits
  · rw [length_append, length_singleton, hfront] at htake
    rw [length_append, append_assoc, Nat.add_assoc]
    exact htake
  · rw [mem_append, not_or]
    exact ⟨h.inside, hxs⟩

lemma Begins.concat {parts : List (List α)}
    (hparts : ∀ xs ∈ parts, terminator ∉ xs) :
    ((parts.foldlM (appendText terminator) b).bind fun b => HeapBlock.textAt terminator b 0) =
      if text.length + parts.flatten.length < n then some (text ++ parts.flatten) else none := by
  induction parts generalizing b text with
  | nil => simp [h.textAt, h.fits]
  | cons xs parts ih =>
    rw [foldlM_cons, flatten_cons, length_append, ← Nat.add_assoc, ← append_assoc]
    by_cases hfits : text.length + xs.length < n
    · obtain ⟨b', hb', hbegins⟩ := h.append (hparts xs (.head _)) hfits
      rw [hb', ← length_append]
      exact ih hbegins fun ys hys => hparts ys (.tail _ hys)
    · have hnone : appendText terminator b xs = none := by
        rw [appendText, h.textAt]
        refine if_neg ?_
        rw [length_append, length_singleton, h.length]
        omega
      rw [hnone, if_neg (by omega)]
      rfl

end

lemma concatText_eq (hn : 0 < n) {parts : List (List α)}
    (hparts : ∀ xs ∈ parts, terminator ∉ xs) :
    concatText terminator n parts =
      if parts.flatten.length < n then some parts.flatten else none := by
  have hcleared : Begins terminator n [] (replicate n terminator) := by
    obtain ⟨k, rfl⟩ := Nat.exists_eq_succ_of_ne_zero (Nat.ne_of_gt hn)
    exact ⟨length_replicate, hn, rfl, not_mem_nil⟩
  have h := hcleared.concat hparts
  rwa [length_nil, Nat.zero_add, nil_append] at h

end

end HeapBlock
