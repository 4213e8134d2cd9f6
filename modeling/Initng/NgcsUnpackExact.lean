import Initng.NgcsRoundTrip

namespace Initng

open LittleEndian List Option

structure WireItem where
  type : CInt
  payload : List Byte
  short : payload.length < 2 ^ 31
  int : type = ngcsTypeInt → payload.length = 4
  long : type = ngcsTypeLong → payload.length = 8

def WireItem.len (x : WireItem) : CInt := BitVec.ofNat 32 x.payload.length

def WireItem.encode (x : WireItem) : List Byte := intBytes x.type ++ intBytes x.len ++ x.payload

def MadeOf (data : List Byte) (items : List WireItem) : Prop :=
  ∃ rest, data = items.flatMap WireItem.encode ++ rest ∧ rest.length < 8

structure Unpacks (x : WireItem) (y : NgcsData) : Prop where
  type : y.type = x.type
  len : y.len.toInt = x.payload.length
  int : x.type = ngcsTypeInt → intBytes y.i = x.payload
  string : y.IsString → y.mem = x.payload ++ [0]
  raw : x.type ≠ ngcsTypeInt → x.type ≠ ngcsTypeLong → ¬ y.IsString → y.mem = x.payload

variable {d data : List Byte} {x : WireItem} {items : List WireItem}

lemma intBytes_readInt (h : 4 ≤ d.length) : intBytes (readInt d) = d.take 4 := by
  have hlen : (d.take 4).length = 4 := by
    rw [length_take]
    omega
  have hlt := number_lt (d.take 4)
  rw [hlen] at hlt
  rw [intBytes, readInt, word, BitVec.toNat_ofNat, Nat.mod_eq_of_lt (by omega)]
  have hbytes := bytes_number (d.take 4)
  rwa [hlen] at hbytes

section
variable {x : WireItem}

lemma WireItem.toNat_len (x : WireItem) : x.len.toNat = x.payload.length := toNat_ofNat x.short

lemma ngcsUnpackOne_item (x : WireItem) (d : List Byte) (u : BitVec 64) :
    ∃ y, ngcsUnpackOne x.type x.len (x.payload ++ d) u = some (some y) ∧ Unpacks x y := by
  have hpos : x.len.toInt = x.payload.length := toInt_ofNat x.short
  have hrec : received (x.payload ++ d) x.len = some x.payload := by
    rw [received, x.toNat_len, if_neg (by rw [length_append]; omega), take_left]
  rw [ngcsUnpackOne, if_neg (by omega)]
  by_cases hint : x.type = ngcsTypeInt
  · have h4 : x.len = 4 := by rw [WireItem.len, x.int hint]; rfl
    rw [if_pos hint, if_neg (not_not.mpr h4), ← h4, hrec]
    refine ⟨_, rfl, rfl, hpos, fun _ => ?_, fun hs => ?_, fun h => absurd hint h⟩
    · have hfour := x.int hint
      have hread := intBytes_readInt (d := x.payload) (by omega)
      rw [NgcsData.i, setI_setWidth]
      rwa [readInt, take_of_length_le (by omega)] at hread
    · rcases hs with hs | hs
      all_goals exact absurd (hint.symm.trans hs) (by decide)
  rw [if_neg hint]
  by_cases hlong : x.type = ngcsTypeLong
  · have h8 : x.len = 8 := by rw [WireItem.len, x.long hlong]; rfl
    rw [if_pos hlong, if_neg (not_not.mpr h8), ← h8, hrec]
    refine ⟨_, rfl, rfl, hpos, fun h => absurd h hint, fun hs => ?_, fun _ h => absurd hlong h⟩
    rcases hs with hs | hs <;> exact absurd (hlong.symm.trans hs) (by decide)
  rw [if_neg hlong, hrec]
  by_cases hstr : x.type = ngcsTypeError ∨ x.type = ngcsTypeString
  · rw [if_pos hstr]
    exact ⟨_, rfl, rfl, hpos, fun h => absurd h hint, fun _ => rfl, fun _ _ h => absurd hstr h⟩
  · rw [if_neg hstr]
    exact ⟨_, rfl, rfl, hpos, fun h => absurd h hint, fun h => absurd h hstr, fun _ _ _ => rfl⟩

lemma exists_item_of_ngcsUnpackOne {type len : CInt} {data : List Byte} {u : BitVec 64}
    {y : NgcsData} (hlen : 0 ≤ len.toInt) (hdata : len.toNat ≤ data.length)
    (h : ngcsUnpackOne type len data u = some (some y)) :
    ∃ x : WireItem, x.type = type ∧ x.len = len ∧ x.payload = data.take len.toNat := by
  have hlength : (data.take len.toNat).length = len.toNat := by
    rw [length_take]
    omega
  have hlt : len.toNat < 2 ^ 31 := by
    rw [BitVec.toInt_eq_toNat_cond] at hlen
    split at hlen <;> omega
  rw [ngcsUnpackOne, if_neg (by omega)] at h
  refine ⟨⟨type, data.take len.toNat, by rw [hlength]; exact hlt, fun hint => ?_, fun hlong => ?_⟩,
    rfl, ?_, rfl⟩
  · rw [if_pos hint] at h
    split at h
    · cases h
    next h4 => rw [hlength, not_not.mp h4]; rfl
  · rw [if_neg (by rw [hlong]; decide), if_pos hlong] at h
    split at h
    · cases h
    next h8 => rw [hlength, not_not.mp h8]; rfl
  · rw [WireItem.len, hlength, BitVec.ofNat_toNat, BitVec.setWidth_eq]

end

lemma madeOf_nil_iff : MadeOf data [] ↔ data.length < 8 := by
  simp [MadeOf]

lemma MadeOf.exists_append (h : MadeOf data (x :: items)) :
    ∃ d, data = x.encode ++ d ∧ MadeOf d items := by
  obtain ⟨rest, rfl, hrest⟩ := h
  refine ⟨items.flatMap WireItem.encode ++ rest, ?_, rest, rfl, hrest⟩
  rw [flatMap_cons, append_assoc]

lemma MadeOf.reads (res : ℕ → BitVec 64) (hd : MadeOf d items) (cnt : ℕ) :
    ∃ ys, Reads res cnt d ys ∧ Forall₂ Unpacks items ys := by
  induction items generalizing d cnt with
  | nil => exact ⟨[], .nil (madeOf_nil_iff.mp hd), .nil⟩
  | cons x items ih =>
    obtain ⟨d, rfl, hmade⟩ := hd.exists_append
    obtain ⟨y, hy, hxy⟩ := ngcsUnpackOne_item x d (res cnt)
    obtain ⟨ys, hys, hall⟩ := ih hmade (cnt + 1)
    exact ⟨y :: ys, .cons x.toNat_len x.short hy hys, .cons hxy hall⟩

lemma exists_encode_append {u : BitVec 64} {y : NgcsData} (hd : 8 ≤ d.length)
    (hlen : 0 ≤ (readInt (d.drop 4)).toInt) (hroom : 8 + (readInt (d.drop 4)).toNat ≤ d.length)
    (h : ngcsUnpackOne (readInt d) (readInt (d.drop 4)) (d.drop 8) u = some (some y)) :
    ∃ x : WireItem, d = x.encode ++ d.drop (8 + (readInt (d.drop 4)).toNat) := by
  have hdata : (readInt (d.drop 4)).toNat ≤ (d.drop 8).length := by
    rw [length_drop]
    omega
  obtain ⟨x, htype, hxlen, hpay⟩ := exists_item_of_ngcsUnpackOne hlen hdata h
  have hhead : intBytes (readInt d) ++ intBytes (readInt (d.drop 4)) = d.take 8 := by
    rw [intBytes_readInt (by omega), intBytes_readInt (by rw [length_drop]; omega), ← take_add]
  refine ⟨x, ?_⟩
  rw [WireItem.encode, htype, hxlen, hpay, hhead, ← take_add, take_append_drop]

variable {res : ℕ → BitVec 64} {ys : List NgcsData}

lemma madeOf_of_unpackItems {size fuel : ℕ} {l : ℤ} {cnt : ℕ} (hl : l = d.length)
    (h : unpackItems res size fuel d l cnt = some (some ys)) :
    ∃ items, MadeOf d items ∧ items.length = ys.length := by
  induction fuel generalizing d l cnt ys with
  | zero => simp [unpackItems] at h
  | succ fuel ih =>
    rw [unpackItems] at h
    by_cases h8 : 8 ≤ l
    · rw [if_pos h8] at h
      dsimp only at h
      split_ifs at h with hd hneg hroom hsize
      · cases h
      · cases h
      · split at h
        · cases h
        · cases h
        next y hy =>
          obtain ⟨r, hr, hys⟩ := map_eq_some_iff.mp h
          obtain ⟨zs, rfl, rfl⟩ := map_eq_some_iff.mp hys
          obtain ⟨x, hx⟩ := exists_encode_append (by omega) (by omega) (by omega) hy
          have hrest : l - 8 - (readInt (d.drop 4)).toNat =
              (d.drop (8 + (readInt (d.drop 4)).toNat)).length := by
            rw [length_drop]
            omega
          obtain ⟨items, hmade, hcount⟩ := ih hrest hr
          refine ⟨x :: items, ?_, by rw [length_cons, length_cons, hcount]⟩
          rw [hx]
          simpa only [MadeOf, flatMap_cons, append_assoc, append_cancel_left_eq] using hmade
    · rw [if_neg h8] at h
      cases h
      exact ⟨[], madeOf_nil_iff.mpr (by omega), rfl⟩

section
variable {data : List Byte} (h : data.length < 2 ^ 31)
include h

lemma ngcsUnpack_of_madeOf (res : ℕ → BitVec 64) {items : List WireItem}
    (hmade : MadeOf data items) :
    ∃ ys, ngcsUnpack res data (BitVec.ofNat 32 data.length) = some (some ys) ∧
      Forall₂ Unpacks items ys := by
  obtain ⟨ys, hys, hall⟩ := hmade.reads res 0
  exact ⟨ys, hys.ngcsUnpack h, hall⟩

lemma exists_madeOf_of_ngcsUnpack
    (hys : ngcsUnpack res data (BitVec.ofNat 32 data.length) = some (some ys)) :
    ∃ items, MadeOf data items ∧ items.length = ys.length := by
  rw [ngcsUnpack] at hys
  split at hys
  · cases hys
  · cases hys
  · exact madeOf_of_unpackItems (toInt_ofNat h) hys

lemma exists_unpacks_of_ngcsUnpack
    (hys : ngcsUnpack res data (BitVec.ofNat 32 data.length) = some (some ys)) :
    ∃ items, Forall₂ Unpacks items ys := by
  obtain ⟨items, hmade, -⟩ := exists_madeOf_of_ngcsUnpack h hys
  obtain ⟨zs, hzs, hall⟩ := ngcsUnpack_of_madeOf h res hmade
  obtain rfl : zs = ys := some.inj (some.inj (hzs.symm.trans hys))
  exact ⟨items, hall⟩

end

/-- Unpacking is safe on all bytes, and exact: `ngcs_unpack` returns a number of items exactly
if the bytes are made of as many, and then it has unpacked these. -/
theorem ngcsUnpack_exact (res : ℕ → BitVec 64) {data : List Byte} (h : data.length < 2 ^ 31) :
    ∃ r, ngcsUnpack res data (BitVec.ofNat 32 data.length) = some r ∧
      (∀ k, (∃ ys, r = some ys ∧ ys.length = k) ↔ ∃ items, MadeOf data items ∧ items.length = k) ∧
      ∀ items, MadeOf data items → ∃ ys, r = some ys ∧ List.Forall₂ Unpacks items ys := by
  have hint := toInt_ofNat h
  have hsome : (ngcsUnpack res data (BitVec.ofNat 32 data.length)).isSome :=
    ngcsUnpack_isSome res (by omega)
  obtain ⟨r, hr⟩ := isSome_iff_exists.mp hsome
  have hitems : ∀ items, MadeOf data items → ∃ ys, r = some ys ∧ List.Forall₂ Unpacks items ys := by
    intro items hmade
    obtain ⟨ys, hys, hall⟩ := ngcsUnpack_of_madeOf h res hmade
    exact ⟨ys, some.inj (hr.symm.trans hys), hall⟩
  refine ⟨r, hr, fun k => ⟨?_, ?_⟩, hitems⟩
  · rintro ⟨ys, rfl, rfl⟩
    exact exists_madeOf_of_ngcsUnpack h hr
  · rintro ⟨items, hmade, rfl⟩
    obtain ⟨ys, hys, hall⟩ := hitems items hmade
    exact ⟨ys, hys, hall.length_eq.symm⟩

theorem ngcsUnpack_exact_string :
    ∃ ys, ngcsUnpack (fun _ => 0) [2, 0, 0, 0, 1, 0, 0, 0, 97, 0] 10 = some (some ys) ∧
      ys.map NgcsData.mem = [[97, 0]] := by
  have hdata : ([2, 0, 0, 0, 1, 0, 0, 0, 97, 0] : List Byte).length < 2 ^ 31 := by decide
  obtain ⟨r, hr, -, hitems⟩ := ngcsUnpack_exact (fun _ => 0) hdata
  let x : WireItem := ⟨ngcsTypeString, [97], by decide, by decide, by decide⟩
  obtain ⟨ys, rfl, hall⟩ := hitems [x] ⟨[0], by decide, by decide⟩
  obtain ⟨y, zs, hxy, hnil, rfl⟩ := forall₂_cons_left_iff.mp hall
  obtain rfl := forall₂_nil_left_iff.mp hnil
  refine ⟨[y], hr, ?_⟩
  rw [map_singleton, hxy.string (.inr hxy.type)]
  rfl

end Initng
