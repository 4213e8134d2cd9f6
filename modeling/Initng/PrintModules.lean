import Initng.HeapBlock
import Initng.ModuleDb

/-! `cmd_print_modules` of `modules/stcmd/initng_stcmd.c`. -/

namespace Initng

open List

/-- What `sprintf` prints for `"  * %-30s %s\n"`. -/
def moduleLine (mod : ModuleFile) : List Char :=
  "  * ".toList ++ mod.name.toList ++ replicate (30 - mod.name.length) ' ' ++
    ' ' :: (mod.path.toList ++ ['\n'])

/-- A turn of the loop, and the new `string` and `string_len`. Nothing can be written at `append_at`
any more when `realloc` has moved the block. -/
def appendModule (junk : ℕ → Char) (c : List Char × ℕ) (turn : ModuleFile × Bool) :
    Option (List Char × ℕ) :=
  let appendAt := c.2
  let stringLen := c.2 +
    if 6 + turn.1.path.length + turn.1.name.length < 30 then 30 else turn.1.name.length
  let string := HeapBlock.realloc c.1 stringLen junk
  if turn.2 then none
  else (HeapBlock.store string appendAt (moduleLine turn.1 ++ ['\x00'])).map (·, stringLen)

/-- The modules come in walking order, each with whether the block is moved in its turn. -/
def cmdPrintModules (junk : ℕ → Char) (turns : List (ModuleFile × Bool)) : Option (List Char) := do
  let string ← HeapBlock.store (replicate 20 '\x00') 0 ("modules: \n".toList ++ ['\x00'])
  let c ← turns.foldlM (appendModule junk) (string, "modules: \n".length)
  HeapBlock.textAt '\x00' c.1 0

/-- The listing is made within its block and has the line of every module. -/
def ListsModules (junk : ℕ → Char) (turns : List (ModuleFile × Bool)) : Prop :=
  cmdPrintModules junk turns =
    some ("modules: \n".toList ++ turns.flatMap fun turn => moduleLine turn.1)

lemma length_moduleLine (mod : ModuleFile) : max 30 mod.name.length < (moduleLine mod).length := by
  simp only [moduleLine, length_append, length_cons, length_nil, length_replicate,
    String.length_toList, show "  * ".length = 4 from rfl]
  omega

/-- The block is never made long enough for a line. -/
lemma appendModule_eq_none (junk : ℕ → Char) (c : List Char × ℕ) (turn : ModuleFile × Bool) :
    appendModule junk c turn = none := by
  have hline := length_moduleLine turn.1
  have hfull (n : ℕ) (hn : n ≤ c.2 + max 30 turn.1.name.length) :
      HeapBlock.store (HeapBlock.realloc c.1 n junk) c.2 (moduleLine turn.1 ++ ['\x00']) = none := by
    rw [HeapBlock.store, if_neg]
    rw [HeapBlock.length_realloc, length_append, length_singleton]
    omega
  rw [appendModule, hfull _ (by split <;> omega), Option.map_none, ite_self]

/-- The listing is right only if no module is loaded. -/
theorem listsModules_iff (junk : ℕ → Char) (turns : List (ModuleFile × Bool)) :
    ListsModules junk turns ↔ turns = [] := by
  cases turns with
  | nil => exact iff_of_true (by rfl) rfl
  | cons turn turns => simp [ListsModules, cmdPrintModules, foldlM_cons, appendModule_eq_none]

theorem not_always_listsModules : ¬ ListsModules (fun _ => ' ')
    [(⟨"fd", "/lib/initng/libfd.so", ⟨19, some 1, true, []⟩⟩, false)] := by
  simp [ListsModules, cmdPrintModules, foldlM_cons, appendModule_eq_none]

end Initng
