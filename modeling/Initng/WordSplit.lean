import Mathlib.Data.List.Basic

/-! The words of a list are its longest runs without a delimiter. -/

namespace WordSplit

open List

variable {α : Type} {p : α → Bool}

def finish : List α → List (List α)
  | [] => []
  | x :: word => [x :: word]

def wordsFrom (p : α → Bool) : List α → List α → List (List α)
  | word, [] => finish word
  | word, x :: xs =>
    if p x then finish word ++ wordsFrom p [] xs else wordsFrom p (word ++ [x]) xs

def words (p : α → Bool) (xs : List α) : List (List α) := wordsFrom p [] xs

lemma flatten_finish (word : List α) : (finish word).flatten = word := by
  cases word with
  | nil => rfl
  | cons x word => exact append_nil _

lemma flatten_wordsFrom (word xs : List α) :
    (wordsFrom p word xs).flatten = word ++ xs.filter fun x => !p x := by
  induction xs generalizing word with
  | nil => rw [wordsFrom, flatten_finish, filter_nil, append_nil]
  | cons x xs ih =>
    rw [wordsFrom]
    by_cases hx : p x
    · rw [if_pos hx, flatten_append, flatten_finish, ih, nil_append,
        filter_cons_of_neg (by simp [hx])]
    · rw [if_neg hx, ih, filter_cons_of_pos (by simp [hx]), append_assoc, singleton_append]

lemma flatten_words (xs : List α) : (words p xs).flatten = xs.filter fun x => !p x :=
  flatten_wordsFrom [] xs

lemma ne_nil_of_mem_wordsFrom {word xs w : List α} (h : w ∈ wordsFrom p word xs) : w ≠ [] := by
  have hfinish {word : List α} (h : w ∈ finish word) : w ≠ [] := by
    cases word with
    | nil => cases h
    | cons x word =>
      rw [mem_singleton.mp h]
      exact cons_ne_nil x word
  induction xs generalizing word with
  | nil => exact hfinish h
  | cons x xs ih =>
    rw [wordsFrom] at h
    split at h
    · rcases mem_append.mp h with hw | hw
      · exact hfinish hw
      · exact ih hw
    · exact ih h

lemma words_eq_nil_iff {xs : List α} : words p xs = [] ↔ ∀ x ∈ xs, p x = true := by
  have hflat := flatten_words (p := p) xs
  constructor
  · intro hnil x hx
    rw [hnil, flatten_nil, eq_comm, filter_eq_nil_iff] at hflat
    simpa using hflat x hx
  · intro hall
    rw [filter_eq_nil_iff.mpr (by simpa using hall), flatten_eq_nil_iff] at hflat
    refine eq_nil_iff_forall_not_mem.mpr fun w hw => ?_
    exact ne_nil_of_mem_wordsFrom hw (hflat w hw)

lemma words_append {front : List α} (h : ∀ x ∈ front, p x = true) (xs : List α) :
    words p (front ++ xs) = words p xs := by
  induction front with
  | nil => rfl
  | cons x front ih =>
    rw [cons_append, words, wordsFrom, if_pos (h x (.head _))]
    exact ih fun y hy => h y (.tail _ hy)

lemma wordsFrom_append {ys : List α} (h : ∀ y ∈ ys.head?, p y = true) (word xs : List α) :
    wordsFrom p word (xs ++ ys) = wordsFrom p word xs ++ words p ys := by
  induction xs generalizing word with
  | nil =>
    cases ys with
    | nil => simp [words, wordsFrom, finish]
    | cons y ys => simp [words, wordsFrom, finish, h y rfl]
  | cons x xs ih =>
    rw [cons_append, wordsFrom, wordsFrom, ih, ih]
    split
    · rw [append_assoc]
    · rfl

lemma words_append_of_head {ys : List α} (h : ∀ y ∈ ys.head?, p y = true) (xs : List α) :
    words p (xs ++ ys) = words p xs ++ words p ys :=
  wordsFrom_append h [] xs

lemma words_eq_singleton {word : List α} (hne : word ≠ []) (h : ∀ x ∈ word, p x = false) :
    words p word = [word] := by
  have hfrom (read : List α) : wordsFrom p read word = finish (read ++ word) := by
    clear hne
    induction word generalizing read with
    | nil => rw [wordsFrom, append_nil]
    | cons x word ih =>
      rw [wordsFrom, if_neg (by simp [h x (.head _)]), ih fun y hy => h y (.tail _ hy),
        append_assoc, singleton_append]
  obtain ⟨x, word, rfl⟩ := exists_cons_of_ne_nil hne
  exact hfrom []

lemma head?_of_words {xs first : List α} {rest : List (List α)}
    (h : words p xs = first :: rest) : first.head? = (xs.filter fun x => !p x).head? := by
  have hmem : first ∈ words p xs := by
    rw [h]
    exact .head _
  have hne : first ≠ [] := ne_nil_of_mem_wordsFrom hmem
  obtain ⟨x, first, rfl⟩ := exists_cons_of_ne_nil hne
  rw [← flatten_words, h]
  rfl

end WordSplit
