import Initng.Ngc4

/-! The loops of `ngc_hlp` and `ngc_active_db` in `modules/ngc4/libngcclient.c` over the rows of a
payload. -/

namespace Initng.Ngc4

open LittleEndian List

/-- `help_row`, which `ngc_hlp` prints, and `active_row`, which `ngc_active_db` prints. -/
inductive RowKind
  | helpRow
  | activeRow

/-- Its `data_type`. -/
def RowKind.dt : RowKind → ℕ
  | helpRow => 1
  | activeRow => 2

def RowKind.size : RowKind → ℕ
  | helpRow => 320
  | activeRow => 336

structure PayloadRow (kind : RowKind) where
  bytes : List Byte
  length_eq : bytes.length = kind.size
  dt_eq : number (bytes.take 4) = kind.dt

/-- The rows that are printed, and the number of bytes that are read from the first row on; what is
printed of a row is in it. -/
def renderRows (kind : RowKind) : ℕ → List Byte → Option (List (List Byte) × ℕ)
  | 0, _ => none
  | fuel + 1, row =>
    if number (row.take 4) = kind.dt then
      (renderRows kind fuel (row.drop kind.size)).map fun r =>
        (row.take kind.size :: r.1, kind.size + r.2)
    else some ([], 4)

section
variable {kind : RowKind}

def payloadOf (rows : List (PayloadRow kind)) : List Byte := rows.flatMap PayloadRow.bytes

/-- The reply and what lies behind it: `ngcclient_send_command` allocates a zero more. -/
def replyMemory (rows : List (PayloadRow kind)) (after : List Byte) : List Byte :=
  payloadOf rows ++ 0 :: after

/-- Every row is printed once, and nothing is read outside of the payload. -/
def RendersExactly (rows : List (PayloadRow kind)) (after : List Byte) : Prop :=
  ∃ n ≤ (payloadOf rows).length, ∀ fuel, rows.length < fuel →
    renderRows kind fuel (replyMemory rows after) = some (rows.map PayloadRow.bytes, n)

lemma renderRows_eq (rows : List (PayloadRow kind)) (after : List Byte) {fuel : ℕ}
    (h : rows.length < fuel) : renderRows kind fuel (replyMemory rows after) =
      some (rows.map PayloadRow.bytes, (payloadOf rows).length + 4) := by
  induction rows generalizing fuel with
  | nil =>
    obtain ⟨fuel, rfl⟩ := Nat.exists_eq_add_of_lt h
    -- the lowest byte of the tag is the zero
    have hdt : number ((0 :: after).take 4) ≠ kind.dt := by
      rw [take_succ_cons, number, show (0 : Byte).toNat = 0 from rfl]
      cases kind <;> simp only [RowKind.dt] <;> omega
    exact if_neg hdt
  | cons row rows ih =>
    obtain ⟨fuel, rfl⟩ := Nat.exists_eq_add_of_lt h
    have hmem : replyMemory (row :: rows) after = row.bytes ++ replyMemory rows after := by
      simp [replyMemory, payloadOf]
    have hsize : 4 ≤ row.bytes.length := by
      rw [row.length_eq]
      cases kind <;> decide
    rw [hmem, renderRows, take_append_of_le_length hsize, if_pos row.dt_eq, ← row.length_eq,
      drop_left, take_left, ih (by simp at h ⊢; omega)]
    simp [payloadOf, add_assoc]

lemma not_rendersExactly (rows : List (PayloadRow kind)) (after : List Byte) :
    ¬ RendersExactly rows after := by
  rintro ⟨n, hn, hrows⟩
  have hread := (hrows _ (Nat.lt_succ_self _)).symm.trans
    (renderRows_eq rows after (Nat.lt_succ_self _))
  obtain rfl := (Prod.mk.inj (Option.some.inj hread)).2
  omega

/-- Every row is printed once, and the four bytes behind the payload are read too, whatever the
memory there holds. -/
theorem renders_behind (rows : List (PayloadRow kind)) (after : List Byte) (more : ℕ) :
    renderRows kind (rows.length + 1 + more) (replyMemory rows after) =
        some (rows.map PayloadRow.bytes, (payloadOf rows).length + 4) ∧
      ¬ RendersExactly rows after :=
  ⟨renderRows_eq rows after (by omega), not_rendersExactly rows after⟩

theorem not_always_rendersExactly :
    ∃ row : PayloadRow .activeRow, ∀ after, ¬ RendersExactly [row] after :=
  ⟨⟨2 :: replicate 335 0, by rw [length_cons, length_replicate]; rfl, by decide⟩,
    not_rendersExactly _⟩

end

end Initng.Ngc4
