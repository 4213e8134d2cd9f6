import Mathlib.Data.Nat.Notation

/-! `atoi` reads what `%i` prints. -/

namespace DecimalText

def isSpace (c : Char) : Bool := c.toNat == 32 || (9 ≤ c.toNat && c.toNat ≤ 13)

def digits (acc : ℕ) : List Char → ℕ
  | [] => acc
  | c :: rest => if c.isDigit then digits (10 * acc + (c.toNat - 48)) rest else acc

/-- `strtol` stops at the bounds of a `long`. -/
def clampLong (i : Int) : Int :=
  if i < -9223372036854775808 then -9223372036854775808
  else if 9223372036854775807 < i then 9223372036854775807
  else i

def leading (text : List Char) : Int :=
  match text.dropWhile isSpace with
  | [] => 0
  | c :: rest =>
    if c = '-' then -(digits 0 rest)
    else if c = '+' then digits 0 rest
    else digits 0 (c :: rest)

def atoi (text : List Char) : Int := (clampLong (leading text)).bmod 4294967296

def printed (i : Int) : List Char := (toString i).toList

lemma digits_eq {l : List Char} (h : ∀ c ∈ l, c.isDigit = true) (acc : ℕ) :
    digits acc l = Nat.ofDigitChars 10 l acc := by
  induction l generalizing acc with
  | nil => simp [digits]
  | cons c l ih =>
    have hc : c.isDigit = true := h c (.head _)
    rw [digits, if_pos hc, ih fun d hd => h d (.tail _ hd), Nat.ofDigitChars_cons]
    rfl

lemma digits_toDigits (n : ℕ) : digits 0 (Nat.toDigits 10 n) = n := by
  rw [digits_eq fun c hc => Nat.isDigit_of_mem_toDigits (by omega) (by omega) hc]
  exact Nat.ofDigitChars_ten_toDigits

lemma printed_eq (i : Int) : printed i =
    if 0 ≤ i then Nat.toDigits 10 i.toNat else '-' :: Nat.toDigits 10 (-i).toNat := by
  rw [printed, Int.toString_eq_repr, Int.repr_eq_if]
  split
  · rw [Nat.toList_repr]
  · rw [String.toList_append, Nat.toList_repr]
    rfl

variable {i : Int} {c : Char}

lemma mem_printed (h : c ∈ printed i) : c = '-' ∨ c.isDigit = true := by
  rw [printed_eq] at h
  split at h
  · exact .inr (Nat.isDigit_of_mem_toDigits (by omega) (by omega) h)
  · rcases List.mem_cons.mp h with h | h
    · exact .inl h
    · exact .inr (Nat.isDigit_of_mem_toDigits (by omega) (by omega) h)

lemma notMem_printed (hsign : c ≠ '-') (hdigit : c.isDigit = false) (i : Int) : c ∉ printed i := by
  intro h
  rcases mem_printed h with h | h
  · exact hsign h
  · rw [hdigit] at h
    cases h

lemma not_isSpace_of_isDigit (h : c.isDigit = true) : isSpace c = false := by
  simp only [Char.isDigit, Bool.and_eq_true, decide_eq_true_eq] at h
  have hlow : 48 ≤ c.toNat := h.1
  simp only [isSpace, Bool.or_eq_false_iff, beq_eq_false_iff_ne, Bool.and_eq_false_iff,
    decide_eq_false_iff_not]
  omega

lemma leading_toDigits (n : ℕ) : leading (Nat.toDigits 10 n) = n := by
  have hdigits := digits_toDigits n
  have hmem (c : Char) (hc : c ∈ Nat.toDigits 10 n) : c.isDigit = true :=
    Nat.isDigit_of_mem_toDigits (by omega) (by omega) hc
  cases htext : Nat.toDigits 10 n with
  | nil => exact absurd htext Nat.toDigits_ne_nil
  | cons c rest =>
    rw [htext] at hdigits hmem
    have hc := hmem c (.head _)
    have hminus : c ≠ '-' := by rintro rfl; simp at hc
    have hplus : c ≠ '+' := by rintro rfl; simp at hc
    rw [leading, List.dropWhile_cons_of_neg (by simp [not_isSpace_of_isDigit hc])]
    simp only [hminus, hplus, if_false]
    rw [hdigits]

lemma leading_printed (i : Int) : leading (printed i) = i := by
  rw [printed_eq]
  split
  next hpos =>
    rw [leading_toDigits]
    omega
  next hneg =>
    rw [leading, List.dropWhile_cons_of_neg (by decide)]
    simp only [if_true, digits_toDigits]
    omega

lemma atoi_printed (hlow : -2147483648 ≤ i) (hhigh : i < 2147483648) : atoi (printed i) = i := by
  have hclamp : clampLong i = i := by
    rw [clampLong, if_neg (by omega), if_neg (by omega)]
  rw [atoi, leading_printed, hclamp]
  exact Int.bmod_eq_of_le (by omega) (by omega)

end DecimalText
