import Mathlib.Algebra.Group.Nat.Defs

/-! The bytes of a number, lowest first, and the words that such bytes make up. -/

namespace LittleEndian

abbrev Byte := BitVec 8

def bytes : ℕ → ℕ → List Byte
  | 0, _ => []
  | n + 1, x => BitVec.ofNat 8 x :: bytes n (x / 256)

def number : List Byte → ℕ
  | [] => 0
  | b :: bs => b.toNat + 256 * number bs

def word (w : ℕ) (bs : List Byte) : BitVec w := BitVec.ofNat w (number bs)

@[simp] lemma length_bytes (n x : ℕ) : (bytes n x).length = n := by
  induction n generalizing x with
  | zero => rfl
  | succ n ih => simp [bytes, ih]

lemma number_bytes (n x : ℕ) : number (bytes n x) = x % 256 ^ n := by
  induction n generalizing x with
  | zero => simp [bytes, number, Nat.mod_one]
  | succ n ih =>
    have hbyte : (BitVec.ofNat 8 x).toNat = x % 256 := by simp
    rw [bytes, number, ih, hbyte, Nat.pow_succ', Nat.mod_mul]

lemma number_lt (bs : List Byte) : number bs < 256 ^ bs.length := by
  induction bs with
  | nil => decide
  | cons b bs ih =>
    have hb : b.toNat < 256 := b.isLt
    rw [number, List.length_cons, Nat.pow_succ']
    omega

lemma bytes_number (bs : List Byte) : bytes bs.length (number bs) = bs := by
  induction bs with
  | nil => rfl
  | cons b bs ih =>
    have hb : b.toNat < 256 := b.isLt
    have hrest : (b.toNat + 256 * number bs) / 256 = number bs := by omega
    have hfirst : BitVec.ofNat 8 (b.toNat + 256 * number bs) = b := by
      apply BitVec.eq_of_toNat_eq
      rw [BitVec.toNat_ofNat]
      omega
    rw [List.length_cons, number, bytes, hrest, ih, hfirst]

lemma number_append (xs ys : List Byte) :
    number (xs ++ ys) = number xs + 256 ^ xs.length * number ys := by
  induction xs with
  | nil => simp [number]
  | cons x xs ih =>
    have hpow : 256 ^ (xs.length + 1) * number ys = 256 * (256 ^ xs.length * number ys) := by
      rw [Nat.pow_succ', Nat.mul_assoc]
    simp only [List.cons_append, number, ih, List.length_cons, hpow]
    omega

lemma word_bytes {w n : ℕ} (h : w ≤ 8 * n) (x : BitVec w) : word w (bytes n x.toNat) = x := by
  have hlt : x.toNat < 256 ^ n := by
    have hle : 2 ^ w ≤ 2 ^ (8 * n) := Nat.pow_le_pow_right (by omega) h
    rw [Nat.pow_mul] at hle
    exact Nat.lt_of_lt_of_le x.isLt hle
  rw [word, number_bytes, Nat.mod_eq_of_lt hlt, BitVec.ofNat_toNat, BitVec.setWidth_eq]

lemma word_append {w : ℕ} {xs : List Byte} (h : w ≤ 8 * xs.length) (ys : List Byte) :
    word w (xs ++ ys) = word w xs := by
  have hdvd : 2 ^ w ∣ 256 ^ xs.length * number ys := by
    have hpow : 2 ^ w ∣ 2 ^ (8 * xs.length) := Nat.pow_dvd_pow 2 h
    rw [Nat.pow_mul] at hpow
    exact Nat.dvd_mul_right_of_dvd hpow _
  apply BitVec.eq_of_toNat_eq
  obtain ⟨k, hk⟩ := hdvd
  rw [word, word, number_append, hk, BitVec.toNat_ofNat, BitVec.toNat_ofNat,
    Nat.add_mul_mod_self_left]

end LittleEndian
