import Initng.NgcsPack
import Mathlib.Data.List.Forall2
import Mathlib.Tactic.SplitIfs

namespace Initng

open LittleEndian List

inductive NgcsValue
  | int (i : CInt)
  | long (l : BitVec 64)
  | data (bs : List Byte)
  deriving DecidableEq

section
variable (x : NgcsData)

def NgcsData.IsString : Prop := x.type = ngcsTypeError ∨ x.type = ngcsTypeString

instance : Decidable x.IsString := inferInstanceAs (Decidable (_ ∨ _))

def NgcsData.contents : List Byte :=
  if x.IsString ∧ x.len.toInt < 0 then x.mem.takeWhile (· ≠ 0) else x.mem.take x.len.toNat

def NgcsData.value : NgcsValue :=
  if x.type = ngcsTypeInt then .int x.i
  else if x.type = ngcsTypeLong then .long x.l
  else .data x.contents

def NgcsData.size : ℕ :=
  if x.type = ngcsTypeInt then 4
  else if x.type = ngcsTypeLong then 8
  else x.contents.length

/-- The memory of the item holds its data: as many bytes as its length, or, for a string of
length -1, bytes up to a NUL. -/
def NgcsData.Valid : Prop :=
  x.type = ngcsTypeInt ∨ x.type = ngcsTypeLong ∨
    (x.IsString ∧ x.len = -1 ∧ 0 ∈ x.mem) ∨ (0 ≤ x.len.toInt ∧ x.len.toNat ≤ x.mem.length)

end

structure NgcsItem extends NgcsData where
  valid : toNgcsData.Valid

structure SameItem (x y : NgcsData) : Prop where
  type : y.type = x.type
  len : y.len.toInt = x.size
  value : y.value = x.value

/-- Unpacking the packed bytes gives the items back.  `old` is what the buffer held, `res` what
the unions of the result array held. -/
def RoundTrips (items : List NgcsItem) (old : ℕ → Byte) (res : ℕ → BitVec 64) : Prop :=
  ∃ r ys, ngcsPack (some old) (items.map (·.toNgcsData)) 0 [] = some r ∧
    ngcsUnpack res r.2.1 r.1 = some (some ys) ∧
      List.Forall₂ (fun x y => SameItem x.toNgcsData y) items ys

def packedSize : List NgcsData → ℕ
  | [] => 0
  | x :: rest => 8 + x.size + packedSize rest

section
variable (old bits : BitVec 64) (v : CInt)

lemma setI_toNat : (setI bits v).toNat = (upperHalf bits).toNat * 2 ^ 32 + v.toNat := by
  rw [setI, BitVec.toNat_ofNat]
  apply Nat.mod_eq_of_lt
  omega

lemma setI_setWidth : (setI bits v).setWidth 32 = v := by
  apply BitVec.eq_of_toNat_eq
  rw [BitVec.toNat_setWidth, setI_toNat]
  omega

lemma upperHalf_setI : upperHalf (setI bits v) = upperHalf bits := by
  apply BitVec.eq_of_toNat_eq
  rw [upperHalf, setI_toNat, BitVec.toNat_ofNat]
  omega

lemma setI_eq_iff : setI old (bits.setWidth 32) = bits ↔ upperHalf bits = upperHalf old := by
  constructor
  · intro h
    rw [← upperHalf_setI old (bits.setWidth 32), h]
  · intro h
    apply BitVec.eq_of_toNat_eq
    rw [setI_toNat, ← h, upperHalf, BitVec.toNat_setWidth, BitVec.toNat_ofNat]
    omega

end

variable {n : ℕ} {x : NgcsData}

lemma toNat_ofNat (h : n < 2 ^ 31) : (BitVec.ofNat 32 n).toNat = n := by
  rw [BitVec.toNat_ofNat]
  omega

lemma toInt_ofNat (h : n < 2 ^ 31) : (BitVec.ofNat 32 n).toInt = n := by
  have hnat := toNat_ofNat h
  rw [BitVec.toInt_eq_toNat_of_lt (by omega), hnat]

structure Accepted (old : BitVec 64) (y : NgcsData) : Prop where
  len : 0 ≤ y.len.toInt
  long : y.type = ngcsTypeLong → upperHalf y.bits = upperHalf old
  size : y.size = y.len.toNat

section
variable {res : ℕ → BitVec 64} {old : BitVec 64} {size fuel cnt : ℕ} {len : CInt} {l : ℤ}
  {d data : List Byte} {y : NgcsData} {ys : List NgcsData}

lemma received_eq_some {bs : List Byte} (h : received data len = some bs) :
    bs = data.take len.toNat ∧ bs.length = len.toNat := by
  unfold received at h
  split_ifs at h with hlen
  cases h
  exact ⟨rfl, by rw [length_take]; omega⟩

lemma contents_eq_take (h : 0 ≤ y.len.toInt) : y.contents = y.mem.take y.len.toNat := by
  rw [NgcsData.contents, if_neg]
  omega

lemma accepted_of_mem (hlen : 0 ≤ y.len.toInt) (hint : y.type ≠ ngcsTypeInt)
    (hlong : y.type ≠ ngcsTypeLong) (hmem : y.len.toNat ≤ y.mem.length) : Accepted old y := by
  refine ⟨hlen, fun hl => absurd hl hlong, ?_⟩
  rw [NgcsData.size, if_neg hint, if_neg hlong, contents_eq_take hlen, length_take]
  omega

lemma ngcsUnpackOne_accepted {type : CInt} (hlen : 0 ≤ len.toInt)
    (h : ngcsUnpackOne type len data old = some (some y)) :
    y.type = type ∧ y.len = len ∧ Accepted old y := by
  rw [ngcsUnpackOne, if_neg (by omega)] at h
  split_ifs at h with hint h4 hlong h8 hstr
  · cases h
  · obtain ⟨bs, -, hy⟩ := Option.map_eq_some_iff.mp h
    cases hy
    refine ⟨rfl, rfl, hlen, fun hl => ?_, ?_⟩
    · exact absurd (hint.symm.trans hl) (by decide)
    · simp only [not_not] at h4
      simp [NgcsData.size, hint, h4]
  · cases h
  · obtain ⟨bs, -, hy⟩ := Option.map_eq_some_iff.mp h
    cases hy
    refine ⟨rfl, rfl, hlen, fun _ => upperHalf_setI _ _, ?_⟩
    simp only [not_not] at h8
    rw [NgcsData.size, if_neg hint, if_pos hlong, h8]
    rfl
  · obtain ⟨bs, hbs, hy⟩ := Option.map_eq_some_iff.mp h
    cases hy
    have hcount := (received_eq_some hbs).2
    refine ⟨rfl, rfl, accepted_of_mem hlen hint hlong ?_⟩
    dsimp only
    rw [length_append]
    omega
  · obtain ⟨bs, hbs, hy⟩ := Option.map_eq_some_iff.mp h
    cases hy
    have hcount := (received_eq_some hbs).2
    exact ⟨rfl, rfl, accepted_of_mem hlen hint hlong (Nat.le_of_eq hcount.symm)⟩

lemma unpackItems_accepted (h : unpackItems res size fuel d l cnt = some (some ys)) :
    (ys = [] ∨ packedSize ys ≤ l) ∧ ∀ k y, ys[k]? = some y → Accepted (res (cnt + k)) y := by
  induction fuel generalizing d l cnt ys with
  | zero => simp [unpackItems] at h
  | succ fuel ih =>
    rw [unpackItems] at h
    by_cases hl : 8 ≤ l
    · rw [if_pos hl] at h
      dsimp only at h
      split_ifs at h with hd hneg hroom hsize
      · cases h
      · cases h
      · split at h
        · cases h
        · cases h
        next x hx =>
          obtain ⟨r, hr, hys⟩ := Option.map_eq_some_iff.mp h
          obtain ⟨zs, rfl, rfl⟩ := Option.map_eq_some_iff.mp hys
          obtain ⟨-, hxlen, hacc⟩ := ngcsUnpackOne_accepted (by omega) hx
          obtain ⟨hfit, hrest⟩ := ih hr
          have hsum : packedSize (x :: zs) = 8 + x.size + packedSize zs := rfl
          rw [hacc.size, hxlen] at hsum
          refine ⟨.inr ?_, fun k y hk => ?_⟩
          · rcases hfit with rfl | hfit
            · have hnil : packedSize [] = 0 := rfl
              omega
            · omega
          · cases k with
            | zero =>
              obtain rfl : x = y := by simpa using hk
              exact hacc
            | succ k =>
              have hy := hrest k y (by simpa using hk)
              rwa [Nat.add_right_comm, Nat.add_assoc] at hy
    · rw [if_neg hl] at h
      cases h
      simp

lemma ngcsUnpack_accepted (h : ngcsUnpack res data len = some (some ys)) :
    packedSize ys < 2 ^ 31 ∧ ∀ k y, ys[k]? = some y → Accepted (res k) y := by
  unfold ngcsUnpack at h
  split at h
  · cases h
  · cases h
  next cnt _ =>
    obtain ⟨hfit, hacc⟩ := unpackItems_accepted h
    refine ⟨?_, by simpa using hacc⟩
    have hlen : len.toInt < 2 ^ 31 := by
      have := BitVec.toInt_lt (x := len)
      omega
    rcases hfit with rfl | hfit
    · decide
    · omega

lemma countItems_isSome (hpos : 0 < fuel) (hfuel : l < fuel) (hd : l ≤ d.length) :
    (countItems fuel d l cnt).isSome := by
  induction fuel generalizing d l cnt with
  | zero => omega
  | succ fuel ih =>
    rw [countItems]
    dsimp only
    split_ifs with hl hshort hneg
    · omega
    · rfl
    · apply ih
      · omega
      · omega
      · rw [length_drop]
        omega
    · rfl

lemma le_of_countItems {n : ℕ} (h : countItems fuel d l cnt = some (some n)) : cnt ≤ n := by
  induction fuel generalizing d l cnt with
  | zero => simp [countItems] at h
  | succ fuel ih =>
    rw [countItems] at h
    dsimp only at h
    split_ifs at h
    · cases h
    · have := ih h
      omega
    · cases h
      exact Nat.le_refl _

lemma ngcsUnpackOne_isSome (type : CInt) (old : BitVec 64) (h : len.toNat ≤ data.length) :
    (ngcsUnpackOne type len data old).isSome := by
  have hrec {n : CInt} (hn : n = len) : (received data n).isSome := by
    rw [received, if_neg (by rw [hn]; omega)]
    rfl
  unfold ngcsUnpackOne
  split_ifs with _ _ h4 _ h8
  · rfl
  · rfl
  · simpa using hrec (not_not.mp h4).symm
  · rfl
  · simpa using hrec (not_not.mp h8).symm
  all_goals simpa using hrec rfl

lemma unpackItems_isSome {n : ℕ} (hcount : countItems fuel d l cnt = some (some n))
    (hsize : n ≤ size) (hd : l ≤ d.length) : (unpackItems res size fuel d l cnt).isSome := by
  induction fuel generalizing d l cnt with
  | zero => simp [countItems] at hcount
  | succ fuel ih =>
    rw [countItems] at hcount
    rw [unpackItems]
    dsimp only at hcount ⊢
    split_ifs at hcount ⊢ with hl hshort hneg hroom hfull
    · cases hcount
    · rfl
    · have := le_of_countItems hcount
      omega
    · have hdata : (readInt (d.drop 4)).toNat ≤ (d.drop 8).length := by
        rw [length_drop]
        omega
      obtain ⟨r, hr⟩ := Option.isSome_iff_exists.mp
        (ngcsUnpackOne_isSome (readInt d) (res cnt) hdata)
      rw [hr]
      cases r with
      | none => rfl
      | some x =>
        have hl' : l - 8 - (readInt (d.drop 4)).toNat = l - (8 + (readInt (d.drop 4)).toNat) := by
          omega
        rw [hl', Option.isSome_map]
        apply ih hcount
        rw [length_drop]
        omega
    · rfl

/-- `ngcs_unpack` neither reads outside of the data nor writes outside of the array, and its
loops end, whatever bytes it is given. -/
lemma ngcsUnpack_isSome (res : ℕ → BitVec 64) (h : len.toInt ≤ data.length) :
    (ngcsUnpack res data len).isSome := by
  have hfuel : len.toInt < (len.toNat + 1 : ℕ) := by
    rw [BitVec.toInt_eq_toNat_cond]
    split <;> omega
  have hcount : (countItems (len.toNat + 1) data len.toInt 0).isSome :=
    countItems_isSome (Nat.succ_pos _) hfuel h
  obtain ⟨r, hr⟩ := Option.isSome_iff_exists.mp hcount
  rw [ngcsUnpack, hr]
  cases r with
  | none => rfl
  | some n => exact unpackItems_isSome hr (Nat.le_refl n) h

end

def payload (old : ℕ → Byte) (pos : ℕ) (x : NgcsData) : List Byte :=
  if x.type = ngcsTypeInt then intBytes x.i
  else if x.type = ngcsTypeLong then
    intBytes (x.l.setWidth 32) ++ (range 4).map fun k => old (pos + 12 + k)
  else x.contents

def frames (old : ℕ → Byte) : ℕ → List NgcsData → List Byte
  | _, [] => []
  | pos, x :: rest =>
    intBytes x.type ++ intBytes (BitVec.ofNat 32 x.size) ++ payload old pos x ++
      frames old (pos + 8 + x.size) rest

section
variable {old : ℕ → Byte} {pos : ℕ} {x : NgcsData}

@[simp] lemma length_intBytes (v : CInt) : (intBytes v).length = 4 := length_bytes _ _

lemma length_payload : (payload old pos x).length = x.size := by
  unfold payload NgcsData.size
  split_ifs <;> simp

lemma length_frames (items : List NgcsData) : (frames old pos items).length = packedSize items := by
  induction items generalizing pos with
  | nil => rfl
  | cons x rest ih =>
    simp only [frames, packedSize, length_append, length_intBytes, length_payload, ih]

lemma contents_prefix : x.contents <+: x.mem := by
  unfold NgcsData.contents
  split_ifs
  · exact takeWhile_prefix _
  · exact take_prefix _ _

lemma size_int (hint : x.type = ngcsTypeInt) : x.size = 4 := if_pos hint

lemma payload_int (hint : x.type = ngcsTypeInt) : payload old pos x = intBytes x.i := if_pos hint

lemma size_long (hint : x.type ≠ ngcsTypeInt) (hlong : x.type = ngcsTypeLong) : x.size = 8 := by
  rw [NgcsData.size, if_neg hint, if_pos hlong]

lemma payload_long (hint : x.type ≠ ngcsTypeInt) (hlong : x.type = ngcsTypeLong) :
    payload old pos x = intBytes (x.l.setWidth 32) ++
      (range 4).map fun k => old (pos + 12 + k) := by
  rw [payload, if_neg hint, if_pos hlong]

section
variable (hint : x.type ≠ ngcsTypeInt) (hlong : x.type ≠ ngcsTypeLong)
include hint hlong

lemma size_contents : x.size = x.contents.length := by
  rw [NgcsData.size, if_neg hint, if_neg hlong]

lemma payload_contents : payload old pos x = x.contents := by
  rw [payload, if_neg hint, if_neg hlong]

lemma len_eq_of_valid (hv : x.Valid) (hneg : ¬ x.len.toInt < 0) :
    x.len = BitVec.ofNat 32 x.contents.length := by
  have hroom : x.len.toNat ≤ x.mem.length := by
    rcases hv with h | h | ⟨-, h, -⟩ | h
    · exact absurd h hint
    · exact absurd h hlong
    · rw [h] at hneg
      exact absurd (by decide) hneg
    · exact h.2
  rw [contents_eq_take (by omega), length_take, Nat.min_eq_left hroom, BitVec.ofNat_toNat,
    BitVec.setWidth_eq]

lemma stringLen_eq (hv : x.Valid) (hs : x.IsString) :
    x.stringLen = some (BitVec.ofNat 32 x.contents.length) := by
  unfold NgcsData.stringLen
  split_ifs with hneg
  · have hnul : 0 ∈ x.mem := by
      rcases hv with h | h | ⟨-, -, h⟩ | h
      · exact absurd h hint
      · exact absurd h hlong
      · exact h
      · omega
    rw [strlen, if_pos hnul, NgcsData.contents, if_pos ⟨hs, hneg⟩]
    rfl
  · rw [← len_eq_of_valid hint hlong hv hneg]

end

lemma putCounted_eq (buf : List Byte) (hsize : x.contents.length < 2 ^ 31) :
    putCounted (some old) buf x.mem (BitVec.ofNat 32 x.contents.length) =
      some (buf ++ intBytes (BitVec.ofNat 32 x.contents.length) ++ x.contents) := by
  have hnat := toNat_ofNat hsize
  have hpos : 0 ≤ (BitVec.ofNat 32 x.contents.length).toInt := by
    rw [toInt_ofNat hsize]
    omega
  have hcopy : memcpyFrom x.mem (BitVec.ofNat 32 x.contents.length) = some x.contents := by
    rw [memcpyFrom, if_pos ⟨hpos, by rw [hnat]; exact contents_prefix.length_le⟩, hnat,
      ← prefix_iff_eq_take.mp contents_prefix]
  unfold putCounted
  dsimp only
  split_ifs with hzero
  · have hnil : x.contents = [] := by
      rw [hzero] at hnat
      exact length_eq_zero_iff.mp hnat.symm
    simp [hnil]
  · rw [hcopy]
    rfl

end

/-- An item with its length written into it has this length the next time. -/
lemma NgcsData.counted (hint : x.type ≠ ngcsTypeInt) (hlong : x.type ≠ ngcsTypeLong)
    (hsize : x.contents.length < 2 ^ 31) {y : NgcsData}
    (hy : y = { x with len := BitVec.ofNat 32 x.contents.length }) :
    y.Valid ∧ y.size = x.size := by
  have hpos : 0 ≤ y.len.toInt := by
    rw [hy, toInt_ofNat hsize]
    omega
  have hnat : y.len.toNat = x.contents.length := hy ▸ toNat_ofNat hsize
  have hmem : y.mem = x.mem := hy ▸ rfl
  have htype : y.type = x.type := hy ▸ rfl
  constructor
  · exact .inr (.inr (.inr ⟨hpos, by rw [hnat, hmem]; exact contents_prefix.length_le⟩))
  · rw [size_contents hint hlong, size_contents (htype ▸ hint) (htype ▸ hlong),
      contents_eq_take hpos, hnat, hmem, ← prefix_iff_eq_take.mp contents_prefix]

/-- One item, whether its bytes are written or only counted. -/
lemma ngcsPack_cons (hv : x.Valid) (hsize : x.size < 2 ^ 31) :
    ∃ y : NgcsData, (y.Valid ∧ y.size = x.size) ∧ ∀ old rest outcnt buf,
      ngcsPack old (x :: rest) outcnt buf =
        (ngcsPack old rest (outcnt + BitVec.ofNat 32 (8 + x.size)) (put old buf (intBytes x.type ++
          (intBytes (BitVec.ofNat 32 x.size) ++ payload (old.getD fun _ => 0) buf.length x)))).map
          fun r => (r.1, r.2.1, y :: r.2.2) := by
  by_cases hint : x.type = ngcsTypeInt
  · refine ⟨x, ⟨hv, rfl⟩, fun old rest outcnt buf => ?_⟩
    rw [ngcsPack, if_pos hint, size_int hint, payload_int hint]
    cases old <;> simp [put]
  by_cases hlong : x.type = ngcsTypeLong
  · refine ⟨x, ⟨hv, rfl⟩, fun old rest outcnt buf => ?_⟩
    rw [ngcsPack, if_neg hint, if_pos hlong, size_long hint hlong, payload_long hint hlong]
    cases old <;> simp [put, skip, Nat.add_assoc]
  have hsz := size_contents hint hlong
  rw [hsz] at hsize
  refine ⟨_, NgcsData.counted hint hlong hsize rfl, fun old rest outcnt buf => ?_⟩
  have hput : putCounted old (put old buf (intBytes x.type)) x.mem
      (BitVec.ofNat 32 x.contents.length) = some (put old buf (intBytes x.type ++
        (intBytes (BitVec.ofNat 32 x.contents.length) ++ x.contents))) := by
    cases old with
    | none => rfl
    | some old => simp [put, putCounted_eq _ hsize]
  rw [ngcsPack, if_neg hint, if_neg hlong, payload_contents hint hlong, hsz,
    Option.map_eq_bind, BitVec.ofNat_add]
  split_ifs with hstr hneg
  · rw [stringLen_eq hint hlong hv hstr, Option.bind_eq_bind, Option.bind_some, hput]
    rfl
  · -- a valid item of another type has no negative length
    rcases hv with h | h | ⟨h, -⟩ | h
    · exact absurd h hint
    · exact absurd h hlong
    · exact absurd h hstr
    · omega
  · rw [← len_eq_of_valid hint hlong hv hneg] at hput ⊢
    rw [hput]
    rfl

variable {items : List NgcsData}

/-- The items that are left are as before, but for the lengths that the call has found. -/
lemma ngcsPack_frames (hv : ∀ x ∈ items, x.Valid) (hsize : ∀ x ∈ items, x.size < 2 ^ 31) :
    ∃ items' : List NgcsData, ((∀ x ∈ items', x.Valid) ∧ (∀ x ∈ items', x.size < 2 ^ 31) ∧
      packedSize items' = packedSize items) ∧ ∀ old outcnt buf,
      ngcsPack old items outcnt buf = some (outcnt + BitVec.ofNat 32 (packedSize items),
        put old buf (frames (old.getD fun _ => 0) buf.length items), items') := by
  induction items with
  | nil =>
    refine ⟨[], by simp, fun old _ _ => ?_⟩
    cases old <;> simp [ngcsPack, packedSize, frames, put]
  | cons x rest ih =>
    obtain ⟨⟨hvx, hv⟩, hsx, hsize⟩ := And.intro (forall_mem_cons.mp hv) (forall_mem_cons.mp hsize)
    obtain ⟨y, ⟨hvy, hsy⟩, hx⟩ := ngcsPack_cons hvx hsx
    obtain ⟨items', ⟨hv', hsize', hsame⟩, hrest⟩ := ih hv hsize
    refine ⟨y :: items', ⟨forall_mem_cons.mpr ⟨hvy, hv'⟩, forall_mem_cons.mpr ⟨hsy ▸ hsx, hsize'⟩,
      by rw [packedSize, packedSize, hsy, hsame]⟩, fun old outcnt buf => ?_⟩
    rw [hx, hrest]
    cases old with
    | none => simp [put, packedSize, BitVec.ofNat_add, BitVec.add_assoc]
    | some old =>
      simp [put, packedSize, frames, BitVec.ofNat_add, BitVec.add_assoc, length_payload,
        ← Nat.add_assoc]

variable (old : ℕ → Byte)

def unpacked (old : BitVec 64) (x : NgcsData) : NgcsData where
  type := x.type
  len := BitVec.ofNat 32 x.size
  bits := if x.type = ngcsTypeInt ∨ x.type = ngcsTypeLong then setI old x.i else old
  mem :=
    if x.type = ngcsTypeInt ∨ x.type = ngcsTypeLong then []
    else if x.IsString then x.contents ++ [0] else x.contents

def unpackedFrom (res : ℕ → BitVec 64) : ℕ → List NgcsData → List NgcsData
  | _, [] => []
  | cnt, x :: rest => unpacked (res cnt) x :: unpackedFrom res (cnt + 1) rest

lemma readInt_intBytes (v : CInt) (d : List Byte) : readInt (intBytes v ++ d) = v := by
  rw [readInt, take_left' (length_intBytes v)]
  exact word_bytes (by omega) v

section
variable {x : NgcsData}

lemma ngcsUnpackOne_payload (pos : ℕ) (hsize : x.size < 2 ^ 31) (d : List Byte)
    (u : BitVec 64) :
    ngcsUnpackOne x.type (BitVec.ofNat 32 x.size) (payload old pos x ++ d) u =
      some (some (unpacked u x)) := by
  have hrec : received (payload old pos x ++ d) (BitVec.ofNat 32 x.size) =
      some (payload old pos x) := by
    have hlen : (payload old pos x).length = x.size := length_payload
    rw [received, toNat_ofNat hsize, if_neg (by rw [length_append]; omega), take_left' hlen]
  have hpos := toInt_ofNat hsize
  rw [ngcsUnpackOne, if_neg (by omega)]
  split_ifs with hint h4 hlong h8 hstr
  · exact absurd (by rw [size_int hint]; rfl) h4
  · rw [not_not.mp h4, payload_int hint] at hrec
    rw [payload_int hint, hrec]
    simp only [Option.map_some, unpacked, hint, true_or, if_true, Option.some.injEq]
    rw [intBytes, word_bytes (by omega)]
  · exact absurd (by rw [size_long hint hlong]; rfl) h8
  · rw [not_not.mp h8, payload_long hint hlong] at hrec
    rw [payload_long hint hlong, hrec]
    simp only [Option.map_some, unpacked, hlong, or_true, if_true, Option.some.injEq]
    -- of the eight bytes read only the four that were written are kept
    rw [word, BitVec.setWidth_ofNat_of_le (by omega), ← word, word_append (by simp), intBytes,
      word_bytes (by omega)]
    rfl
  all_goals
    rw [hrec, payload_contents hint hlong]
    simp [unpacked, hint, hlong, NgcsData.IsString, hstr]

lemma sameItem_unpacked (hsize : x.size < 2 ^ 31) {u : BitVec 64}
    (hhalf : x.type = ngcsTypeLong → upperHalf x.bits = upperHalf u) :
    SameItem x (unpacked u x) := by
  refine ⟨rfl, toInt_ofNat hsize, ?_⟩
  have htype : (unpacked u x).type = x.type := rfl
  unfold NgcsData.value
  rw [htype]
  split_ifs with hint hlong
  · have hbits : (unpacked u x).bits = setI u x.i := if_pos (.inl hint)
    rw [NgcsData.i, hbits, setI_setWidth]
  · have hbits : (unpacked u x).bits = setI u x.i := if_pos (.inr hlong)
    rw [NgcsData.l, hbits]
    exact congrArg NgcsValue.long ((setI_eq_iff u x.bits).mpr (hhalf hlong))
  · have hlen : 0 ≤ (unpacked u x).len.toInt := by
      have := toInt_ofNat hsize
      simp only [unpacked]
      omega
    have hnat : (unpacked u x).len.toNat = x.contents.length :=
      (toNat_ofNat hsize).trans (size_contents hint hlong)
    rw [contents_eq_take hlen, hnat]
    simp only [unpacked, hint, hlong, or_self, if_false]
    split_ifs
    · rw [take_left]
    · rw [take_length]

end

section
variable {old : ℕ → Byte} {items : List NgcsData}

inductive Reads (res : ℕ → BitVec 64) : ℕ → List Byte → List NgcsData → Prop
  | nil {cnt : ℕ} {d : List Byte} (short : d.length < 8) : Reads res cnt d []
  | cons {cnt : ℕ} {t n : CInt} {p d : List Byte} {y : NgcsData} {ys : List NgcsData}
      (len : n.toNat = p.length) (fits : p.length < 2 ^ 31)
      (one : ngcsUnpackOne t n (p ++ d) (res cnt) = some (some y))
      (rest : Reads res (cnt + 1) d ys) :
      Reads res cnt (intBytes t ++ intBytes n ++ p ++ d) (y :: ys)

variable {res : ℕ → BitVec 64} {cnt fuel : ℕ} {d : List Byte} {ys : List NgcsData}

lemma read_frame {t n : CInt} {p : List Byte} (hn : n.toNat = p.length) :
    readInt (intBytes t ++ intBytes n ++ p ++ d) = t ∧
      readInt ((intBytes t ++ intBytes n ++ p ++ d).drop 4) = n ∧
      (intBytes t ++ intBytes n ++ p ++ d).drop 8 = p ++ d ∧
      (intBytes t ++ intBytes n ++ p ++ d).drop (8 + n.toNat) = d := by
  have h4 : (intBytes t ++ intBytes n ++ p ++ d).drop 4 = intBytes n ++ (p ++ d) := by
    simp only [append_assoc]
    exact drop_left' (length_intBytes t)
  have h8 : (intBytes t ++ intBytes n ++ p ++ d).drop 8 = p ++ d := by
    rw [append_assoc _ p d]
    exact drop_left' (by simp)
  refine ⟨?_, ?_, h8, ?_⟩
  · simp only [append_assoc, readInt_intBytes]
  · rw [h4, readInt_intBytes]
  · rw [← drop_drop, h8, drop_left' hn.symm]

lemma length_frame (t : CInt) {n : CInt} {p : List Byte} (hn : n.toNat = p.length) :
    (intBytes t ++ intBytes n ++ p ++ d).length = 8 + n.toNat + d.length := by
  simp only [length_append, length_intBytes, hn]

lemma Reads.countItems (h : Reads res cnt d ys) (hfuel : d.length < fuel) :
    countItems fuel d d.length cnt = some (some (cnt + ys.length)) := by
  induction h generalizing fuel with
  | nil short =>
    obtain _ | fuel := fuel
    · omega
    rw [Initng.countItems, if_neg (by omega)]
    rfl
  | @cons cnt t n p d y ys len fits one rest ih =>
    obtain _ | fuel := fuel
    · omega
    obtain ⟨-, hlen, -, hnext⟩ := read_frame (t := t) (d := d) len
    have hlength := length_frame (d := d) t len
    have hpos := BitVec.toInt_eq_toNat_of_lt (x := n) (by omega)
    have hl : ((intBytes t ++ intBytes n ++ p ++ d).length : ℤ) - (8 + n.toNat) = d.length := by
      omega
    rw [Initng.countItems, if_pos (by omega), if_neg (by omega)]
    dsimp only
    rw [hlen, if_neg (by omega), hnext, hl, ih (by omega), length_cons, Nat.add_right_comm]
    rfl

lemma Reads.unpackItems (h : Reads res cnt d ys) {size : ℕ} (hfuel : d.length < fuel)
    (hsize : cnt + ys.length ≤ size) :
    unpackItems res size fuel d d.length cnt = some (some ys) := by
  induction h generalizing fuel with
  | nil short =>
    obtain _ | fuel := fuel
    · omega
    rw [Initng.unpackItems, if_neg (by omega)]
  | @cons cnt t n p d y ys len fits one rest ih =>
    obtain _ | fuel := fuel
    · omega
    obtain ⟨htype, hlen, hdata, hnext⟩ := read_frame (t := t) (d := d) len
    have hlength := length_frame (d := d) t len
    have hpos := BitVec.toInt_eq_toNat_of_lt (x := n) (by omega)
    have hl : ((intBytes t ++ intBytes n ++ p ++ d).length : ℤ) - 8 - n.toNat = d.length := by
      omega
    rw [length_cons] at hsize
    rw [Initng.unpackItems, if_pos (by omega), if_neg (by omega)]
    dsimp only
    rw [hlen, if_neg (by omega), if_neg (by omega), if_neg (by omega), htype, hdata, one, hnext]
    dsimp only
    rw [hl, ih (by omega) (by omega)]
    rfl

lemma Reads.ngcsUnpack (h : Reads res 0 d ys) (hd : d.length < 2 ^ 31) :
    ngcsUnpack res d (BitVec.ofNat 32 d.length) = some (some ys) := by
  rw [Initng.ngcsUnpack, toNat_ofNat hd, toInt_ofNat hd, h.countItems (Nat.lt_succ_self _)]
  exact h.unpackItems (Nat.lt_succ_self _) (Nat.le_refl _)

lemma reads_frames (hsize : ∀ x ∈ items, x.size < 2 ^ 31) (pos : ℕ) :
    Reads res cnt (frames old pos items) (unpackedFrom res cnt items) := by
  induction items generalizing pos cnt with
  | nil => exact .nil (by simp [frames])
  | cons x rest ih =>
    have hx := hsize x (.head _)
    refine .cons ?_ ?_ (ngcsUnpackOne_payload old pos hx _ _)
      (ih (fun y hy => hsize y (.tail _ hy)) _)
    · rw [toNat_ofNat hx, length_payload]
    · rwa [length_payload]

end

lemma forall₂_getElem? {α β : Type*} {r : α → β → Prop} {xs : List α} {ys : List β}
    (h : Forall₂ r xs ys) {k : ℕ} {x : α} (hk : xs[k]? = some x) :
    ∃ y, ys[k]? = some y ∧ r x y := by
  induction h generalizing k with
  | nil => simp at hk
  | cons hxy _ ih =>
    cases k with
    | zero =>
      obtain rfl : _ = x := by simpa using hk
      exact ⟨_, rfl, hxy⟩
    | succ k => exact ih (by simpa using hk)

lemma packedSize_of_same {items ys : List NgcsData} (h : Forall₂ SameItem items ys)
    (hacc : ∀ y ∈ ys, ∃ u, Accepted u y) : packedSize items = packedSize ys := by
  induction h with
  | nil => rfl
  | @cons x y xs ys hxy _ ih =>
    obtain ⟨u, hy⟩ := hacc y (.head _)
    have hsize : x.size = y.size := by
      have hlen := hxy.len
      have hpos := hy.len
      rw [hy.size]
      rw [BitVec.toInt_eq_toNat_cond] at hlen hpos
      split at hlen <;> omega
    rw [packedSize, packedSize, hsize, ih fun z hz => hacc z (.tail _ hz)]

lemma size_le_packedSize (h : x ∈ items) : x.size ≤ packedSize items := by
  induction h with
  | head => exact Nat.le_trans (Nat.le_add_left _ _) (Nat.le_add_right _ _)
  | tail _ _ ih => exact Nat.le_trans ih (Nat.le_add_left _ _)

lemma ngcsUnpack_ngcsPack (res : ℕ → BitVec 64)
    (hv : ∀ x ∈ items, x.Valid) (hsize : packedSize items < 2 ^ 31) :
    ∃ r, ngcsPack (some old) items 0 [] = some r ∧
      ngcsUnpack res r.2.1 r.1 = some (some (unpackedFrom res 0 items)) := by
  have heach (x : NgcsData) (hx : x ∈ items) : x.size < 2 ^ 31 :=
    Nat.lt_of_le_of_lt (size_le_packedSize hx) hsize
  obtain ⟨items', -, hpack⟩ := ngcsPack_frames hv heach
  refine ⟨_, hpack (some old) 0 [], ?_⟩
  have hlength : (frames old 0 items).length = packedSize items := length_frames items
  have hreads : Reads res 0 (frames old 0 items) (unpackedFrom res 0 items) := reads_frames heach 0
  have hunpack := hreads.ngcsUnpack (hlength ▸ hsize)
  rw [hlength] at hunpack
  simpa [put] using hunpack

/-- As `ngcs_pack` is used: a first call counts, as many bytes are allocated, and a second one
writes them. -/
def packTwice (items : List NgcsData) : Option (CInt × CInt × List Byte) := do
  let (room, _, items) ← ngcsPack none items 0 []
  let (len, buf, _) ← ngcsPack (some old) items 0 []
  return (room, len, buf)

/-- The second call writes exactly the bytes that were allocated. -/
theorem packTwice_fits (items : List NgcsItem)
    (hsize : packedSize (items.map (·.toNgcsData)) < 2 ^ 31) :
    ∃ len buf, packTwice old (items.map (·.toNgcsData)) = some (len, len, buf) ∧
      buf.length = len.toInt := by
  have heach (x : NgcsData) (hx : x ∈ items.map (·.toNgcsData)) : x.size < 2 ^ 31 :=
    Nat.lt_of_le_of_lt (size_le_packedSize hx) hsize
  obtain ⟨items', ⟨hv', hsize', hsame⟩, hcount⟩ := ngcsPack_frames (by simp [NgcsItem.valid]) heach
  obtain ⟨_, -, hwrite⟩ := ngcsPack_frames hv' hsize'
  refine ⟨BitVec.ofNat 32 (packedSize items'), frames old 0 items', ?_, ?_⟩
  · simp [packTwice, hcount, hwrite, hsame, put]
  · rw [length_frames, hsame, toInt_ofNat hsize]

theorem packTwice_fits_string :
    ∃ len buf, packTwice (fun _ => 0) [⟨2, -1, 0, [97, 98, 0]⟩] = some (len, len, buf) ∧
      buf.length = len.toInt :=
  packTwice_fits _ [⟨⟨2, -1, 0, [97, 98, 0]⟩, .inr (.inr (.inl (by decide)))⟩] (by decide)

-- A blob of negative length ends both calls: one byte is allocated, four are written.
example : packTwice (fun _ => 0) [⟨3, -1, 0, []⟩] = some (1, 1, [3, 0, 0, 0]) := by decide

lemma forall₂_unpackedFrom {res : ℕ → BitVec 64}
    (hsize : ∀ x ∈ items, x.size < 2 ^ 31) (cnt : ℕ)
    (hhalf : ∀ k x, items[k]? = some x → x.type = ngcsTypeLong →
      upperHalf x.bits = upperHalf (res (cnt + k))) :
    Forall₂ SameItem items (unpackedFrom res cnt items) := by
  induction items generalizing cnt with
  | nil => exact .nil
  | cons x rest ih =>
    refine .cons (sameItem_unpacked (hsize x (.head _)) (hhalf 0 x rfl)) ?_
    refine ih (fun y hy => hsize y (.tail _ hy)) (cnt + 1) fun k y hk hlong => ?_
    rw [Nat.add_assoc, Nat.add_comm 1]
    exact hhalf (k + 1) y hk hlong

/-- The items come back exactly if their packed size fits an `int` and the upper half of every
`long` happens to be what the receiver's memory held. -/
theorem roundTrips_iff (items : List NgcsItem) (old : ℕ → Byte) (res : ℕ → BitVec 64) :
    RoundTrips items old res ↔
      packedSize (items.map (·.toNgcsData)) < 2 ^ 31 ∧
        ∀ k x, items[k]? = some x → x.type = ngcsTypeLong →
          upperHalf x.bits = upperHalf (res k) := by
  constructor
  · rintro ⟨r, ys, -, hunpack, hsame⟩
    obtain ⟨hsize, hacc⟩ := ngcsUnpack_accepted hunpack
    constructor
    · rw [packedSize_of_same (forall₂_map_left_iff.mpr hsame)]
      · exact hsize
      · intro y hy
        obtain ⟨k, hk⟩ := mem_iff_getElem?.mp hy
        exact ⟨res k, hacc k y hk⟩
    · intro k x hk hlong
      obtain ⟨y, hy, hxy⟩ := forall₂_getElem? hsame hk
      have htype : y.type = ngcsTypeLong := hxy.type.trans hlong
      have hne : ¬ ngcsTypeLong = ngcsTypeInt := by decide
      have hvalue : NgcsValue.long y.l = .long x.l := by
        have := hxy.value
        rwa [NgcsData.value, htype, if_neg hne, if_pos rfl, NgcsData.value, hlong, if_neg hne,
          if_pos rfl] at this
      have hbits : y.bits = x.bits := NgcsValue.long.inj hvalue
      rw [← hbits]
      exact (hacc k y hy).long htype
  · rintro ⟨hsize, hhalf⟩
    have hv : ∀ x ∈ items.map (·.toNgcsData), x.Valid := by
      intro x hx
      obtain ⟨item, -, rfl⟩ := mem_map.mp hx
      exact item.valid
    obtain ⟨r, hpack, hunpack⟩ := ngcsUnpack_ngcsPack old res hv hsize
    refine ⟨r, _, hpack, hunpack, forall₂_map_left_iff.mp (forall₂_unpackedFrom ?_ 0 ?_)⟩
    · exact fun x hx => Nat.lt_of_le_of_lt (size_le_packedSize hx) hsize
    · intro k x hk hlong
      rw [getElem?_map] at hk
      obtain ⟨item, hitem, rfl⟩ := Option.map_eq_some_iff.mp hk
      rw [Nat.zero_add]
      exact hhalf k item hitem hlong

def longItem : NgcsItem := ⟨⟨ngcsTypeLong, 8, 4294967296, []⟩, .inr (.inl rfl)⟩

/-- Sent to a receiver whose memory is all zeroes, it arrives as 0. -/
theorem longItem_lost :
    ¬ ∀ (items : List NgcsItem) (old : ℕ → Byte) (res : ℕ → BitVec 64),
      RoundTrips items old res := by
  intro h
  obtain ⟨r, ys, hpack, hunpack, hsame⟩ := h [longItem] (fun _ => 0) fun _ => 0
  have hr : r = (16, frames (fun _ => 0) 0 [longItem.toNgcsData], [longItem.toNgcsData]) :=
    Option.some.inj (hpack.symm.trans (by decide))
  have hys : ys = [⟨ngcsTypeLong, 8, 0, []⟩] := by
    rw [hr] at hunpack
    exact Option.some.inj (Option.some.inj (hunpack.symm.trans (by decide)))
  rw [hys] at hsame
  obtain ⟨y, hy, hxy⟩ := forall₂_getElem? hsame (k := 0) (x := longItem) rfl
  obtain rfl : _ = y := by simpa using hy
  exact absurd hxy.value (by decide)

end Initng
