import Initng.LittleEndian
import Mathlib.Data.Int.Notation

/-! `modules/ngcs/ngcs_common.c`. -/

namespace Initng

open LittleEndian

abbrev CInt := BitVec 32

def ngcsTypeInt : CInt := 1
def ngcsTypeString : CInt := 2
def ngcsTypeLong : CInt := 4
def ngcsTypeError : CInt := 8

/-- `ngcs_data`.  The union is given by its eight bytes, which hold `i` and `l`, and by the
memory that `s` or `p` points to; the address itself is left out. -/
structure NgcsData where
  type : CInt
  len : CInt
  bits : BitVec 64
  mem : List Byte
  deriving DecidableEq

def NgcsData.i (x : NgcsData) : CInt := x.bits.setWidth 32

def NgcsData.l (x : NgcsData) : BitVec 64 := x.bits

def upperHalf (bits : BitVec 64) : CInt := BitVec.ofNat 32 (bits.toNat / 2 ^ 32)

def setI (bits : BitVec 64) (v : CInt) : BitVec 64 :=
  BitVec.ofNat 64 ((upperHalf bits).toNat * 2 ^ 32 + v.toNat)

def intBytes (x : CInt) : List Byte := bytes 4 x.toNat

def readInt (d : List Byte) : CInt := word 32 (d.take 4)

def strlen (mem : List Byte) : Option ℕ :=
  if 0 ∈ mem then some (mem.takeWhile (· ≠ 0)).length else none

/-- `memcpy` from this memory.  A negative length is a huge one. -/
def memcpyFrom (mem : List Byte) (len : CInt) : Option (List Byte) :=
  if 0 ≤ len.toInt ∧ len.toNat ≤ mem.length then some (mem.take len.toNat) else none

/-- What is written is appended to what was written before; nothing is written to a NULL
buffer.  `old` is what the buffer held, and the caller has made it large enough. -/
def put (old : Option (ℕ → Byte)) (buf bs : List Byte) : List Byte :=
  match old with
  | none => buf
  | some _ => buf ++ bs

def skip (old : Option (ℕ → Byte)) (buf : List Byte) (n : ℕ) : List Byte :=
  match old with
  | none => buf
  | some byte => buf ++ (List.range n).map fun k => byte (buf.length + k)

/-- The length and the contents of a string or of raw data, once its length is known. -/
def putCounted (old : Option (ℕ → Byte)) (buf : List Byte) (mem : List Byte) (len : CInt) :
    Option (List Byte) :=
  match old with
  | none => some buf
  | some _ =>
    if len = 0 then some (buf ++ intBytes len)
    else (memcpyFrom mem len).map fun bs => buf ++ intBytes len ++ bs

/-- `data[n].len`, after `strlen` has replaced a negative one. -/
def NgcsData.stringLen (x : NgcsData) : Option CInt :=
  if x.len.toInt < 0 then (strlen x.mem).map (BitVec.ofNat 32) else some x.len

/-- `ngcs_pack`, from the item reached, with the bytes counted and written so far.  It also
returns the items, in which `strlen` has replaced negative lengths. -/
def ngcsPack (old : Option (ℕ → Byte)) :
    List NgcsData → CInt → List Byte → Option (CInt × List Byte × List NgcsData)
  | [], outcnt, buf => some (outcnt, buf, [])
  | x :: rest, outcnt, buf =>
    let buf := put old buf (intBytes x.type)
    if x.type = ngcsTypeInt then
      let buf := put old buf (intBytes 4 ++ intBytes x.i)
      (ngcsPack old rest (outcnt + 12) buf).map fun r => (r.1, r.2.1, x :: r.2.2)
    else if x.type = ngcsTypeLong then
      -- `*(int *)buf = data[n].d.l; buf += sizeof(long)`
      let buf := skip old (put old buf (intBytes 8 ++ intBytes (x.l.setWidth 32))) 4
      (ngcsPack old rest (outcnt + 16) buf).map fun r => (r.1, r.2.1, x :: r.2.2)
    else if x.type = ngcsTypeError ∨ x.type = ngcsTypeString then do
      let len ← x.stringLen
      let buf ← putCounted old buf x.mem len
      let r ← ngcsPack old rest (outcnt + (8 + len)) buf
      return (r.1, r.2.1, { x with len := len } :: r.2.2)
    else if x.len.toInt < 0 then some (1, buf, x :: rest)
    else do
      let buf ← putCounted old buf x.mem x.len
      let r ← ngcsPack old rest (outcnt + (8 + x.len)) buf
      return (r.1, r.2.1, x :: r.2.2)

def received (data : List Byte) (len : CInt) : Option (List Byte) :=
  if data.length < len.toNat then none else some (data.take len.toNat)

/-- `ngcs_unpack_one` into an entry whose union holds `old`; the inner `none` is a failure.
The allocations succeed. -/
def ngcsUnpackOne (type len : CInt) (data : List Byte) (old : BitVec 64) :
    Option (Option NgcsData) :=
  if len.toInt < 0 then some (some ⟨type, len, 0, []⟩)
  else if type = ngcsTypeInt then
    if len ≠ 4 then some none
    else (received data 4).map fun bs => some ⟨type, len, setI old (word 32 bs), []⟩
  else if type = ngcsTypeLong then
    -- `res->d.i = *(const long *)data`
    if len ≠ 8 then some none
    else (received data 8).map fun bs =>
      some ⟨type, len, setI old ((word 64 bs).setWidth 32), []⟩
  else if type = ngcsTypeError ∨ type = ngcsTypeString then
    (received data len).map fun bs => some ⟨type, len, old, bs ++ [0]⟩
  else (received data len).map fun bs => some ⟨type, len, old, bs⟩

/-- The first loop of `ngcs_unpack` counts the items.  No `int` overflows here: `l` is at
least 8 and `head[1]` is not negative where `l` is reduced. -/
def countItems : ℕ → List Byte → ℤ → ℕ → Option (Option ℕ)
  | 0, _, _, _ => none
  | fuel + 1, d, l, cnt =>
    if 8 ≤ l then
      if d.length < 8 then none
      else
        let len := readInt (d.drop 4)
        if len.toInt < 0 then some none
        else countItems fuel (d.drop (8 + len.toNat)) (l - (8 + len.toNat)) (cnt + 1)
    else some (some cnt)

/-- The second loop of `ngcs_unpack` fills the array of `size` entries, whose unions held
`res`. -/
def unpackItems (res : ℕ → BitVec 64) (size : ℕ) :
    ℕ → List Byte → ℤ → ℕ → Option (Option (List NgcsData))
  | 0, _, _, _ => none
  | fuel + 1, d, l, cnt =>
    if 8 ≤ l then
      if d.length < 8 then none
      else
        let type := readInt d
        let len := readInt (d.drop 4)
        if len.toInt < 0 then some none
        else if l - 8 < len.toNat then some none
        else if size ≤ cnt then none
        else
          match ngcsUnpackOne type len (d.drop 8) (res cnt) with
          | none => none
          | some none => some none
          | some (some x) =>
            (unpackItems res size fuel (d.drop (8 + len.toNat)) (l - 8 - len.toNat)
              (cnt + 1)).map fun r => r.map (x :: ·)
    else some (some [])

/-- `ngcs_unpack`: the inner `none` is the return value -1, and otherwise the number of
items is returned.  Each turn of a loop takes at least eight bytes off `len`. -/
def ngcsUnpack (res : ℕ → BitVec 64) (data : List Byte) (len : CInt) :
    Option (Option (List NgcsData)) :=
  match countItems (len.toNat + 1) data len.toInt 0 with
  | none => none
  | some none => some none
  | some (some cnt) => unpackItems res cnt (len.toNat + 1) data len.toInt 0

end Initng
