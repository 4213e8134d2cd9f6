import Initng.DepMet
import Mathlib.Data.List.Infix
import Mathlib.Data.List.TakeWhile

/-! `main/string/match.c`: a pattern is searched in the name of a service. -/

namespace Initng

open List

variable {q : Char} {copy front : List Char}

/-- What is left of a text when `strrchr` finds `q` in it and a `'\0'` is written there. -/
def cutLast (q : Char) : List Char → Option (List Char)
  | [] => none
  | c :: text =>
    match cutLast q text with
    | some front => some (c :: front)
    | none => if c = q then some [] else none

lemma cutLast_some (h : cutLast q copy = some front) : ∃ rest, copy = front ++ q :: rest := by
  induction copy generalizing front with
  | nil => cases h
  | cons c text ih =>
    rw [cutLast] at h
    split at h
    next tail htail =>
      cases h
      obtain ⟨rest, rfl⟩ := ih htail
      exact ⟨rest, rfl⟩
    next =>
      obtain ⟨rfl, hfront⟩ := Option.ite_none_right_eq_some.mp h
      cases hfront
      exact ⟨text, rfl⟩

lemma cutLast_none (h : cutLast q copy = none) : q ∉ copy := by
  induction copy with
  | nil => exact not_mem_nil
  | cons c text ih =>
    rw [cutLast] at h
    split at h
    next => cases h
    next htail =>
      have hc : q ≠ c := fun heq => by simp [heq] at h
      exact mem_cons.not.mpr (not_or.mpr ⟨hc, ih htail⟩)

def wildcard (c : Char) : Bool := c == '*' || c == '?'

/-- The condition of the loop: the last `*`, or else the last `?`. -/
def cutWildcard (copy : List Char) : Option (List Char) := (cutLast '*' copy).or (cutLast '?' copy)

lemma cutWildcard_some (h : cutWildcard copy = some front) :
    ∃ q rest, wildcard q = true ∧ copy = front ++ q :: rest := by
  rcases Option.or_eq_some_iff.mp h with hstar | ⟨-, hmark⟩
  · exact ⟨'*', (cutLast_some hstar).imp fun _ hcopy => ⟨rfl, hcopy⟩⟩
  · exact ⟨'?', (cutLast_some hmark).imp fun _ hcopy => ⟨rfl, hcopy⟩⟩

/-- The loop that cuts `copy` until it holds no wildcard. -/
def trunk (copy : List Char) : List Char :=
  match h : cutWildcard copy with
  | none => copy
  | some front =>
    have : front.length < copy.length := by
      obtain ⟨q, rest, -, rfl⟩ := cutWildcard_some h
      simp
    trunk front
termination_by copy.length

def initngStringMatchInService (string pattern : String) : Bool :=
  if pattern.toList.contains '/' then false
  else
    let pattern := pattern.toList.dropWhile wildcard
    if strstr string (String.ofList pattern) then true
    else if !pattern.contains '*' && !pattern.contains '?' then false
    else strstr string (String.ofList (trunk pattern))

/-- The pattern without its leading wildcards, up to the next one. -/
def literalCore (pattern : List Char) : List Char :=
  (pattern.dropWhile wildcard).takeWhile (!wildcard ·)

lemma takeWhile_of_plain (hstar : '*' ∉ copy) (hmark : '?' ∉ copy) :
    copy.takeWhile (!wildcard ·) = copy := by
  refine takeWhile_eq_self_iff.mpr fun c hc => ?_
  have hs : c ≠ '*' := ne_of_mem_of_not_mem hc hstar
  have hm : c ≠ '?' := ne_of_mem_of_not_mem hc hmark
  simp [wildcard, hs, hm]

lemma trunk_eq (copy : List Char) : trunk copy = copy.takeWhile (!wildcard ·) := by
  fun_induction trunk copy with
  | case1 copy hnone =>
    obtain ⟨hstar, hmark⟩ := Option.or_eq_none_iff.mp hnone
    exact (takeWhile_of_plain (cutLast_none hstar) (cutLast_none hmark)).symm
  | case2 copy front hfront _ ih =>
    -- a cut at a later wildcard leaves the text in front of the first one
    obtain ⟨q, rest, hq, rfl⟩ := cutWildcard_some hfront
    rw [ih, takeWhile_append, takeWhile_cons_of_neg (by simp [hq]), append_nil]
    split
    next hall => exact ( takeWhile_prefix _).eq_of_length hall
    next => rfl

lemma strstr_iff (string : String) (text : List Char) :
    strstr string (String.ofList text) = true ↔ text <:+: string.toList := by
  simp only [strstr, String.toList_ofList, any_eq_true, mem_tails, isPrefixOf_iff_prefix,
    infix_iff_prefix_suffix, and_comm]

/-- Fuzzy matching is a search for the literal core, in a pattern without a slash. -/
theorem initngStringMatchInService_iff (string pattern : String) :
    initngStringMatchInService string pattern = true ↔
      '/' ∉ pattern.toList ∧ literalCore pattern.toList <:+: string.toList := by
  by_cases hslash : '/' ∈ pattern.toList
  · simp [initngStringMatchInService, hslash]
  simp only [initngStringMatchInService, contains_iff_mem, hslash, if_false, not_false_eq_true,
    true_and, literalCore, ← trunk_eq, ← strstr_iff]
  generalize pattern.toList.dropWhile wildcard = rest
  split
  next hwhole =>
    have hfront : trunk rest <+: rest := trunk_eq rest ▸ takeWhile_prefix _
    have hrest : rest <:+: string.toList := (strstr_iff string rest).mp hwhole
    exact iff_of_true rfl ((strstr_iff string _).mpr (hfront.isInfix.trans hrest))
  next hwhole =>
    split
    next hplain =>
      -- nothing to cut: the second search would repeat the first
      obtain ⟨hstar, hmark⟩ : '*' ∉ rest ∧ '?' ∉ rest := by simpa using hplain
      rw [trunk_eq, takeWhile_of_plain hstar hmark]
      exact iff_of_false Bool.false_ne_true hwhole
    next => rfl

end Initng
