import Initng.SimpleRun

namespace Initng.Launcher

open WordSplit List Option

variable {delim : Char → Bool} {str args : List Char}

/-- What stands behind the terminator is neither read nor written, and the string is the one
without escapes afterwards. -/
def UnescapesInside (str : List Char) : Prop :=
  ∃ left, (unescape str).length + left.length = str.length ∧ ∀ tail,
    initngStringFixEscapes (str ++ nul :: tail) = some (unescape str ++ nul :: left ++ tail)

lemma length_unescape_le (str : List Char) : (unescape str).length ≤ str.length := by
  induction str using unescape.induct with
  | case1 | case2 => simp [unescape]
  | case3 e str ih =>
    rw [unescape_escape]
    exact Nat.le_succ_of_le (Nat.succ_le_succ ih)
  | case4 c str hc ih =>
    rw [unescape_char hc]
    exact Nat.succ_le_succ ih

lemma initngStringFixEscapes_complete (hnul : nul ∉ str) (h : Complete str = true)
    (tail : List Char) : initngStringFixEscapes (str ++ nul :: tail) =
      some (unescape str ++ nul :: (str ++ [nul]).drop ((unescape str).length + 1) ++ tail) := by
  have hlen : (unescape str).length + 1 ≤ (str ++ [nul]).length := by
    simpa using length_unescape_le str
  rw [initngStringFixEscapes_eq hnul, if_pos h, append_cons str,
    drop_append_of_le_length hlen, append_assoc, cons_append]

/-- The escapes of a string are replaced in place exactly if it does not end in a backslash that
escapes nothing. -/
theorem unescapesInside_iff (str : CText) :
    UnescapesInside str.chars ↔ Complete str.chars = true := by
  constructor
  · rintro ⟨left, -, h⟩
    exact complete_of_fixEscapes str.nulFree (h [])
  · intro h
    refine ⟨_, ?_, initngStringFixEscapes_complete str.nulFree h⟩
    have hlen := length_unescape_le str.chars
    simp only [length_drop, length_append, length_singleton]
    omega

/-- A single backslash: the loop reads on behind the terminator, and writes there. -/
theorem not_always_unescapesInside :
    initngStringFixEscapes ['\\', nul] = none ∧
      initngStringFixEscapes ['\\', nul, 'x', nul] = some [nul, 'x', nul, nul] ∧
      ¬ UnescapesInside ['\\'] := by
  have hnone : initngStringFixEscapes ['\\', nul] = none := rfl
  refine ⟨hnone, by decide, fun ⟨left, _, h⟩ => ?_⟩
  exact absurd (hnone.symm.trans (h [])) (by simp)

/-- What stands behind the terminator makes no difference, and a string without a word gives an
array without an entry. -/
def SplitsInside (delim : Char → Bool) (str : List Char) : Prop :=
  ∃ argv, (∀ tail, initngStringSplitDelim delim (str ++ nul :: tail) = some argv) ∧
    (words delim str = [] → argv = [])

/-- A string is split without leaving it exactly if it has a word. -/
theorem splitsInside_iff (delim : Char → Bool) (str : CText) :
    SplitsInside delim str.chars ↔ words delim str.chars ≠ [] := by
  constructor
  · rintro ⟨argv, hsplit, hempty⟩ hwords
    have hnone := hsplit []
    rw [hempty hwords] at hnone
    exact initngStringSplitDelim_ne_nil hnone
  · intro h
    exact ⟨_, initngStringSplitDelim_words str.nulFree h, fun hwords => absurd hwords h⟩

/-- Of the empty string nothing is left to read, and behind a blank the next string in memory is
taken. -/
theorem not_always_splitsInside :
    initngStringSplitDelim whitespace [nul] = none ∧
      initngStringSplitDelim whitespace [' ', nul, 'x', nul] = some [['x']] ∧
      ¬ SplitsInside whitespace [] := by
  have hnone : initngStringSplitDelim whitespace [nul] = none := rfl
  refine ⟨hnone, by decide, fun ⟨argv, h, _⟩ => ?_⟩
  exact absurd (hnone.symm.trans (h [])) (by simp)

/-- `simple_exec_try` up to the fork: the argument vector, which is `none` when `FALSE` is
returned, and the memory of `exec_args` afterwards. -/
def simpleExecTry (exec : List Char) (execArgs : Option (List Char)) :
    Option (Option (List (List Char)) × Option (List Char)) :=
  match execArgs with
  | none => some (some [exec], none)
  | some mem => do
    let mem ← initngStringFixEscapes mem
    -- `exec_args + 1`
    match ← initngStringSplitDelim whitespace (mem.drop 1) with
    | [] => pure (none, some mem)
    | _ :: rest => pure (some (exec :: rest), some mem)

/-- All words of the arguments without their escapes stand behind the path. -/
def PassedCompletely (exec args : List Char) : Prop :=
  ∃ mem, simpleExecTry exec (some (args ++ [nul])) =
    some (some (exec :: words whitespace (unescape args)), mem)

lemma initngStringSplitDelim_skip (h : words delim str = []) (tail : List Char) :
    initngStringSplitDelim delim (str ++ nul :: tail) = initngStringSplitDelim delim tail := by
  rw [words_eq_nil_iff] at h
  have hskip : skipDelim delim (str ++ nul :: tail) = skipDelim delim tail := by
    induction str with
    | nil => simp [skipDelim]
    | cons c str ih =>
      rw [cons_append, skipDelim, if_pos (by simp [h c (.head _)])]
      exact ih fun x hx => h x (.tail _ hx)
  rw [initngStringSplitDelim, hskip, initngStringSplitDelim]

lemma tail_words_ne (front : List Char) {text : List Char} (h : words delim text ≠ []) :
    (words delim text).tail ≠ words delim (front ++ text) := by
  intro heq
  obtain ⟨first, rest, hwords⟩ := exists_cons_of_ne_nil h
  have hmem : first ∈ words delim text := by simp [hwords]
  have hpos := length_pos_iff.mpr (ne_nil_of_mem_wordsFrom hmem)
  have htext := congrArg length (flatten_words (p := delim) text)
  have hall := congrArg length (flatten_words (p := delim) (front ++ text))
  rw [← heq, hwords, filter_append, length_append] at hall
  rw [hwords, flatten_cons, length_append] at htext
  simp only [tail_cons] at hall
  omega

lemma initngStringSplitDelim_left (hnul : nul ∉ str) (n : ℕ) :
    initngStringSplitDelim delim ((str ++ [nul]).drop (n + 1)) =
      if words delim (str.drop (n + 1)) = [] then none
      else some (words delim (str.drop (n + 1))) := by
  by_cases hn : n + 1 ≤ str.length
  · rw [drop_append_of_le_length hn]
    split_ifs with h
    · rw [initngStringSplitDelim_skip h]
      rfl
    · exact initngStringSplitDelim_words (fun hin => hnul (mem_of_mem_drop hin)) h []
  · rw [drop_eq_nil_of_le (by simp; omega), drop_eq_nil_of_le (by omega)]
    rfl

lemma passedCompletely_iff_split {exec mem : List Char}
    (hfix : initngStringFixEscapes (args ++ [nul]) = some mem) :
    PassedCompletely exec args ↔ ∃ first, initngStringSplitDelim whitespace (mem.drop 1) =
      some (first :: words whitespace (unescape args)) := by
  simp only [PassedCompletely, simpleExecTry, hfix, bind_eq_bind, bind_some]
  cases initngStringSplitDelim whitespace (mem.drop 1) with
  | none => simp
  | some argv => cases argv with
    | nil | cons first rest => simp

/-- The arguments are passed completely only if they have no word behind their first character,
and what they leave in memory behind their terminator is split, by chance, into one word and the
ones that are wanted. -/
theorem passedCompletely_iff (exec args : CText) :
    PassedCompletely exec.chars args.chars ↔ Complete args.chars = true ∧
      words whitespace ((unescape args.chars).drop 1) = [] ∧
      ∃ first, words whitespace (args.chars.drop ((unescape args.chars).length + 1)) =
        first :: words whitespace (unescape args.chars) := by
  have hnul := nul_notMem_unescape args.nulFree
  by_cases hcomplete : Complete args.chars = true
  swap
  · refine iff_of_false (fun ⟨mem, h⟩ => hcomplete ?_) fun h => hcomplete h.1
    obtain ⟨mem', hfix, -⟩ := bind_eq_some_iff.mp h
    exact complete_of_fixEscapes args.nulFree hfix
  have hfix := initngStringFixEscapes_complete args.nulFree hcomplete []
  rw [append_nil] at hfix
  rw [passedCompletely_iff_split hfix, and_iff_right hcomplete]
  generalize unescape args.chars = text at hnul
  by_cases hwords : words whitespace (text.drop 1) = []
  · have hskip : initngStringSplitDelim whitespace ((text ++ nul ::
        (args.chars ++ [nul]).drop (text.length + 1)).drop 1) =
        initngStringSplitDelim whitespace ((args.chars ++ [nul]).drop (text.length + 1)) := by
      cases text with
      | nil => rfl
      | cons c text => exact initngStringSplitDelim_skip hwords _
    rw [hskip, initngStringSplitDelim_left args.nulFree, and_iff_right hwords]
    split_ifs with hleft
    · simp [hleft]
    · simp
  · rw [iff_false_right fun h => hwords h.1]
    rintro ⟨first, h⟩
    cases text with
    | nil => exact hwords rfl
    | cons c text =>
      have hsplit := initngStringSplitDelim_words (fun hin => hnul (.tail _ hin)) hwords
        ((args.chars ++ [nul]).drop ((c :: text).length + 1))
      have htail := congrArg tail (some.inj (hsplit.symm.trans h))
      exact tail_words_ne [c] hwords htail

/-- The first of two options is lost. -/
theorem not_always_passedCompletely :
    simpleExecTry "/sbin/dhcpcd".toList (some ("-q eth0".toList ++ [nul])) =
        some (some ["/sbin/dhcpcd".toList, "eth0".toList], some ("-q eth0".toList ++ [nul])) ∧
      ¬ PassedCompletely "/sbin/dhcpcd".toList "-q eth0".toList := by
  have hrun : simpleExecTry "/sbin/dhcpcd".toList (some ("-q eth0".toList ++ [nul])) =
      some (some ["/sbin/dhcpcd".toList, "eth0".toList], some ("-q eth0".toList ++ [nul])) := by
    decide +kernel
  refine ⟨hrun, fun ⟨mem, h⟩ => ?_⟩
  exact absurd (Prod.mk.inj (some.inj (hrun.symm.trans h))).1 (by decide +kernel)

end Initng.Launcher
