import Initng.HeapBlock
import Initng.LittleEndian

/-! `io/read_input.c`. -/

namespace Initng

open HeapBlock LittleEndian List Option

inductive ReadResult
  | data (bytes : List Byte) (eintr : Bool)
  | eof
  | failed (eintr : Bool)
  deriving DecidableEq

structure PipeBuffer where
  isOpen : Bool
  buffer : Option (List Byte)
  bufferLen : ℕ
  bufferAllocated : ℕ
  deriving DecidableEq

inductive IoFault
  | outside
  | overflow
  deriving DecidableEq

def checkInt (n : ℕ) : Except IoFault ℕ := if n ≤ 2147483647 then .ok n else .error .overflow

def inside {β : Type} : Option β → Except IoFault β
  | some x => .ok x
  | none => .error .outside

/-- Makes room for 100 more bytes.  The allocation succeeds; `junk` is what a block of some size
holds where nothing was stored. -/
def PipeBuffer.grow (junk : ℕ → ℕ → Byte) (pi : PipeBuffer) : Except IoFault PipeBuffer := do
  let needed ← checkInt (pi.bufferLen + 100)
  if pi.bufferAllocated ≤ needed then
    let size ← checkInt (pi.bufferAllocated + 100 + 1)
    let tmp := HeapBlock.realloc (pi.buffer.getD []) size (junk size)
    let buffer ← inside (HeapBlock.store tmp pi.bufferLen [0])
    return { pi with buffer := some buffer, bufferAllocated := pi.bufferAllocated + 100 }
  return pi

/-- `read` stores its bytes behind the contents, and a NUL is put behind them. -/
def PipeBuffer.append (bytes : List Byte) (pi : PipeBuffer) : Except IoFault PipeBuffer := do
  let buffer ← inside (HeapBlock.store (pi.buffer.getD []) pi.bufferLen bytes)
  let bufferLen ← checkInt (pi.bufferLen + bytes.length)
  let buffer ← inside (HeapBlock.store buffer bufferLen [0])
  return { pi with buffer := some buffer, bufferLen }

def ReadResult.continues : ReadResult → Bool
  | .data bytes eintr => 100 ≤ bytes.length ∨ eintr
  | _ => false

/-- The loop, with what `read` returns one time after another: the pipe and the last result.
With `none` the call waits for `read`. -/
def readLoop (junk : ℕ → ℕ → Byte) :
    List ReadResult → PipeBuffer → Except IoFault (Option (PipeBuffer × ReadResult))
  | [], _ => .ok none
  | r :: rest, pi => do
    let pi ← pi.grow junk
    match r with
    | .data bytes _ =>
      let pi ← pi.append bytes
      if r.continues then readLoop junk rest pi else return some (pi, r)
    | _ => return some (pi, r)

def PipeBuffer.news (oldContentOffset : ℕ) (pi : PipeBuffer) :
    Except IoFault (Option (List Byte)) := do
  if oldContentOffset < pi.bufferLen then
    return some (← inside (textAt 0 (pi.buffer.getD []) oldContentOffset))
  return none

def PipeBuffer.release (pi : PipeBuffer) : PipeBuffer :=
  if pi.bufferLen = 0 ∧ pi.buffer.isSome then
    { pi with buffer := none, bufferAllocated := 0, bufferLen := 0 }
  else pi

def PipeBuffer.close (junk : ℕ → ℕ → Byte) (pi : PipeBuffer) : PipeBuffer :=
  match pi.buffer with
  | some buffer =>
    if pi.bufferLen + 1 < pi.bufferAllocated then
      { pi with
        isOpen := false
        buffer := some (HeapBlock.realloc buffer (pi.bufferLen + 1) (junk (pi.bufferLen + 1)))
        bufferAllocated := pi.bufferLen }
    else { pi with isOpen := false }
  | none => { pi with isOpen := false }

/-- Keeps the last 9000 bytes of a long buffer. -/
def PipeBuffer.purge (junk : ℕ → ℕ → Byte) (pi : PipeBuffer) : Except IoFault PipeBuffer := do
  if pi.bufferLen ≤ 10000 then return pi
  let buffer := pi.buffer.getD []
  let buffer ← inside (HeapBlock.store buffer 0 (← inside (load buffer (pi.bufferLen - 9000) 9000)))
  let buffer := HeapBlock.realloc buffer 9501 (junk 9501)
  let buffer ← inside (HeapBlock.store buffer 9000 [0])
  return { pi with buffer := some buffer, bufferAllocated := 9500, bufferLen := 9000 }

/-- The pipe after a call and the string that the modules were told; `none` as long as `read` has
not ended the loop. -/
def initngIoProcessReadInput (junk : ℕ → ℕ → Byte) (reads : List ReadResult) (pi : PipeBuffer) :
    Except IoFault (Option (PipeBuffer × Option (List Byte))) := do
  if pi.isOpen then
    match ← readLoop junk reads pi with
    | none => return none
    | some (pi', last) =>
      let told ← pi'.news pi.bufferLen
      let pi' := pi'.release
      if last = .eof then return some (pi'.close junk, told)
      return some (← pi'.purge junk, told)
  else return some (pi, none)

structure ReadCall where
  junk : ℕ → ℕ → Byte
  reads : List ReadResult

def taken : List ReadResult → List Byte
  | [] => []
  | r :: rest =>
    match r with
    | .data bytes _ => if r.continues then bytes ++ taken rest else bytes
    | _ => []

def ReadCall.got (call : ReadCall) (pi : PipeBuffer) : List Byte :=
  if pi.isOpen then taken call.reads else []

structure PipeRun where
  pi : PipeBuffer
  read : List Byte
  told : List (List Byte)

def readCalls : List ReadCall → PipeRun → Except IoFault (Option PipeRun)
  | [], x => .ok (some x)
  | call :: calls, x => do
    match ← initngIoProcessReadInput call.junk call.reads x.pi with
    | none => return none
    | some (pi, told) =>
      readCalls calls
        { pi
          read := x.read ++ call.got x.pi
          told := x.told ++ told.toList }

structure PipeBuffer.Filled (pi : PipeBuffer) (block content : List Byte) : Prop where
  buffer : pi.buffer = some block
  text : block.take (pi.bufferLen + 1) = content ++ [0]
  length : content.length = pi.bufferLen
  len_le : pi.bufferLen ≤ pi.bufferAllocated
  room : pi.bufferAllocated + 1 ≤ block.length

/-- There is no buffer and nothing in it, or it is filled. -/
def PipeBuffer.Holds (pi : PipeBuffer) (content : List Byte) : Prop :=
  (pi.buffer = none ∧ pi.bufferLen = 0 ∧ pi.bufferAllocated = 0 ∧ content = []) ∨
    ∃ block, pi.Filled block content

section
variable {pi : PipeBuffer} {block content : List Byte}

section
variable (h : pi.Filled block content)
include h

lemma PipeBuffer.Filled.holds : pi.Holds content := .inr ⟨block, h⟩

lemma PipeBuffer.Filled.take : block.take pi.bufferLen = content := by
  have htake := congrArg (List.take pi.bufferLen) h.text
  rwa [take_take, Nat.min_eq_left (Nat.le_succ _), take_left' h.length] at htake

lemma PipeBuffer.Filled.nul : block[pi.bufferLen]? = some 0 := by
  have hget := congrArg (fun l : List Byte => l[pi.bufferLen]?) h.text
  simpa [getElem?_take, getElem?_append_right, h.length] using hget

end

section
variable (h : pi.Holds content)
include h

lemma PipeBuffer.Holds.take : (pi.buffer.getD []).take pi.bufferLen = content := by
  rcases h with ⟨hb, -, -, rfl⟩ | ⟨block, h⟩
  · rw [hb, getD_none, take_nil]
  · rw [h.buffer, getD_some, h.take]

lemma PipeBuffer.Holds.length : content.length = pi.bufferLen := by
  rcases h with ⟨-, hlen, -, rfl⟩ | ⟨block, h⟩
  · exact hlen.symm
  · exact h.length

lemma PipeBuffer.Holds.len_le : pi.bufferLen ≤ pi.bufferAllocated := by
  rcases h with ⟨-, hlen, -, -⟩ | ⟨block, h⟩
  · exact hlen ▸ Nat.zero_le _
  · exact h.len_le

lemma PipeBuffer.Holds.len_le_length : pi.bufferLen ≤ (pi.buffer.getD []).length := by
  rw [← h.length, ← h.take, length_take]
  exact Nat.min_le_right _ _

end

lemma store_nul {n : ℕ} (hn : n + 1 ≤ block.length) (hb : block.take n = content) :
    ∃ block', HeapBlock.store block n [0] = some block' ∧ block'.length = block.length ∧
      block'.take (n + 1) = content ++ [0] := by
  have hroom : n + [(0 : Byte)].length ≤ block.length := hn
  obtain ⟨block', eq, hlen, htake⟩ := store_spec hroom
  exact ⟨block', eq, hlen, hb ▸ htake⟩

lemma checkInt_eq {n : ℕ} (h : n ≤ 2147483647) : checkInt n = pure n := if_pos h

lemma inside_some {β : Type} (x : β) : inside (some x) = pure x := rfl

lemma PipeBuffer.Holds.grow (h : pi.Holds content) (junk : ℕ → ℕ → Byte)
    (hlen : pi.bufferLen + 100 ≤ 2147483647)
    (halloc : pi.bufferAllocated ≤ pi.bufferLen + 100 →
      pi.bufferAllocated + 100 + 1 ≤ 2147483647) :
    ∃ pi' block, pi.grow junk = pure pi' ∧ pi'.Filled block content ∧
      pi'.isOpen = pi.isOpen ∧ pi'.bufferLen = pi.bufferLen ∧
      pi.bufferLen + 100 ≤ pi'.bufferAllocated ∧
      (pi.bufferAllocated ≤ pi.bufferLen + 100 →
        pi'.bufferAllocated = pi.bufferAllocated + 100) := by
  have hle := h.len_le
  by_cases hgrow : pi.bufferAllocated ≤ pi.bufferLen + 100
  · let tmp := HeapBlock.realloc (pi.buffer.getD []) (pi.bufferAllocated + 100 + 1)
      (junk (pi.bufferAllocated + 100 + 1))
    have htmp : tmp.length = pi.bufferAllocated + 100 + 1 := length_realloc
    have htake : tmp.take pi.bufferLen = content :=
      (take_realloc (by omega) h.len_le_length).trans h.take
    obtain ⟨block, eq, hblock, htext⟩ := store_nul (by omega) htake
    refine ⟨{ pi with buffer := some block, bufferAllocated := pi.bufferAllocated + 100 }, block,
      ?_, ⟨rfl, htext, h.length, by dsimp only; omega, by dsimp only; omega⟩, rfl, rfl,
      by dsimp only; omega, fun _ => rfl⟩
    simp only [PipeBuffer.grow, checkInt_eq hlen, checkInt_eq (halloc hgrow), pure_bind,
      if_pos hgrow]
    rw [eq, inside_some, pure_bind]
  · rcases h with ⟨-, -, hzero, -⟩ | ⟨block, h⟩
    · omega
    · refine ⟨pi, block, ?_, h, rfl, rfl, by omega, fun hg => absurd hg hgrow⟩
      simp only [PipeBuffer.grow, checkInt_eq hlen, pure_bind, if_neg hgrow]

lemma PipeBuffer.Filled.append (h : pi.Filled block content) (bytes : List Byte)
    (hroom : pi.bufferLen + bytes.length ≤ pi.bufferAllocated)
    (hlen : pi.bufferLen + bytes.length ≤ 2147483647) :
    ∃ pi' block', pi.append bytes = pure pi' ∧ pi'.Filled block' (content ++ bytes) ∧
      pi'.isOpen = pi.isOpen ∧ pi'.bufferLen = pi.bufferLen + bytes.length ∧
      pi'.bufferAllocated = pi.bufferAllocated := by
  have hblock := h.room
  have hfits : pi.bufferLen + bytes.length ≤ block.length := by omega
  obtain ⟨block₁, eq₁, hlen₁, htake₁⟩ := store_spec hfits
  rw [h.take] at htake₁
  obtain ⟨block₂, eq₂, hlen₂, htext⟩ := store_nul (by omega) htake₁
  refine ⟨{ pi with buffer := some block₂, bufferLen := pi.bufferLen + bytes.length }, block₂,
    ?_, ⟨rfl, htext, ?_, hroom, by dsimp only; omega⟩, rfl, rfl, rfl⟩
  · simp only [PipeBuffer.append, h.buffer, getD_some, eq₁, inside_some, pure_bind,
      checkInt_eq hlen, eq₂]
  · rw [length_append, h.length]

lemma PipeBuffer.Holds.turn (h : pi.Holds content) (junk : ℕ → ℕ → Byte) {bytes : List Byte}
    (hlen : pi.bufferLen + 100 ≤ 2147483647)
    (halloc : pi.bufferAllocated ≤ pi.bufferLen + 100 → pi.bufferAllocated + 100 + 1 ≤ 2147483647)
    (hbytes : bytes.length ≤ 100) (eintr : Bool) (rest : List ReadResult) :
    ∃ pi' block, pi'.Filled block (content ++ bytes) ∧ pi'.isOpen = pi.isOpen ∧
      pi'.bufferLen = pi.bufferLen + bytes.length ∧
      (pi.bufferAllocated ≤ pi.bufferLen + 100 →
        pi'.bufferAllocated = pi.bufferAllocated + 100) ∧
      readLoop junk (.data bytes eintr :: rest) pi =
        if (ReadResult.data bytes eintr).continues then readLoop junk rest pi'
        else pure (some (pi', .data bytes eintr)) := by
  obtain ⟨pi₁, block₁, eq₁, h₁, hopen₁, hlen₁, hroom, halloc₁⟩ := h.grow junk hlen halloc
  obtain ⟨pi₂, block₂, eq₂, h₂, hopen₂, hlen₂, halloc₂⟩ := h₁.append bytes (by omega) (by omega)
  refine ⟨pi₂, block₂, h₂, hopen₂.trans hopen₁, hlen₂.trans (by rw [hlen₁]),
    fun hg => halloc₂.trans (halloc₁ hg), ?_⟩
  rw [readLoop, eq₁, pure_bind]
  dsimp only
  rw [eq₂, pure_bind]

def ReadResult.Valid : ReadResult → Prop
  | .data bytes _ => 0 < bytes.length ∧ bytes.length ≤ 100 ∧ 0 ∉ bytes
  | _ => True

lemma PipeBuffer.Holds.readLoop (h : pi.Holds content) (junk : ℕ → ℕ → Byte)
    {reads : List ReadResult}
    (hvalid : ∀ r ∈ reads, r.Valid)
    (hlen : pi.bufferLen + (taken reads).length + 201 ≤ 2147483647) :
    ∃ r, Initng.readLoop junk reads pi = pure r ∧
      (∀ pi' last, r = some (pi', last) → pi'.isOpen = pi.isOpen ∧
        ∃ block, pi'.Filled block (content ++ taken reads)) ∧
      ((∃ r ∈ reads, r.continues = false) → r.isSome) := by
  induction reads generalizing pi content with
  | nil => exact ⟨none, rfl, by simp, by simp⟩
  | cons r reads ih =>
    have hsmall : pi.bufferLen + 100 ≤ 2147483647 := by omega
    have halloc : pi.bufferAllocated ≤ pi.bufferLen + 100 →
        pi.bufferAllocated + 100 + 1 ≤ 2147483647 := by omega
    have hread := hvalid r (.head _)
    cases hr : r with
    | data bytes eintr =>
      rw [hr] at hread
      obtain ⟨pi', block, hfilled, hopen, hlen', -, hturn⟩ :=
        h.turn junk hsmall halloc hread.2.1 eintr reads
      rw [hr, taken] at hlen
      rw [hturn, taken]
      cases hgo : (ReadResult.data bytes eintr).continues with
      | true =>
        rw [hgo, if_pos rfl] at hlen
        rw [length_append] at hlen
        obtain ⟨r', eq, hsome, hends⟩ := ih hfilled.holds
          (fun r hr => hvalid r (.tail _ hr)) (by omega)
        refine ⟨r', eq, fun pi'' last hr' => ?_, fun hend => hends ?_⟩
        · obtain ⟨hopen', block', hfilled'⟩ := hsome pi'' last hr'
          exact ⟨hopen'.trans hopen, block', by simpa using hfilled'⟩
        · obtain ⟨r, hmem, hstop⟩ := hend
          rcases mem_cons.mp hmem with rfl | hmem
          · rw [hgo] at hstop
            cases hstop
          · exact ⟨r, hmem, hstop⟩
      | false =>
        refine ⟨_, rfl, fun pi'' last hr' => ?_, fun _ => rfl⟩
        obtain ⟨rfl, rfl⟩ := Prod.mk.inj (some.inj hr')
        exact ⟨hopen, block, hfilled⟩
    | eof =>
      obtain ⟨pi', block, eq, hfilled, hopen, -⟩ := h.grow junk hsmall halloc
      refine ⟨some (pi', .eof), by rw [Initng.readLoop, eq, pure_bind], ?_, fun _ => rfl⟩
      rintro _ _ ⟨rfl, rfl⟩
      exact ⟨hopen, block, by simpa [taken] using hfilled⟩
    | failed eintr =>
      obtain ⟨pi', block, eq, hfilled, hopen, -⟩ := h.grow junk hsmall halloc
      refine ⟨some (pi', .failed eintr), by rw [Initng.readLoop, eq, pure_bind], ?_, fun _ => rfl⟩
      rintro _ _ ⟨rfl, rfl⟩
      exact ⟨hopen, block, by simpa [taken] using hfilled⟩

lemma PipeBuffer.Filled.news {got : List Byte} (h : pi.Filled block (content ++ got))
    (hnul : 0 ∉ got) :
    ∃ told, pi.news content.length = pure told ∧ told.toList.flatten = got := by
  have hlen := h.length
  rw [length_append] at hlen
  by_cases hgot : content.length < pi.bufferLen
  · have htext : block.take (content.length + got.length + 1) = content ++ got ++ [0] := by
      rw [hlen, h.text]
    refine ⟨some got, ?_, by simp⟩
    rw [PipeBuffer.news, if_pos hgot, h.buffer, getD_some, textAt_spec htext hnul]
    rfl
  · have hnil : got = [] := length_eq_zero_iff.mp (by omega)
    refine ⟨none, ?_, by simp [hnil]⟩
    rw [PipeBuffer.news, if_neg hgot]

lemma PipeBuffer.Holds.release (h : pi.Holds content) :
    pi.release.Holds content ∧ pi.release.isOpen = pi.isOpen := by
  unfold PipeBuffer.release
  split
  · rename_i hempty
    have hnil : content = [] := length_eq_zero_iff.mp (h.length.trans hempty.1)
    exact ⟨.inl ⟨rfl, rfl, rfl, hnil⟩, rfl⟩
  · exact ⟨h, rfl⟩

lemma PipeBuffer.Holds.close (h : pi.Holds content) (junk : ℕ → ℕ → Byte) :
    (pi.close junk).Holds content ∧ (pi.close junk).isOpen = false := by
  unfold PipeBuffer.close
  rcases h with ⟨hb, hlen, halloc, hnil⟩ | ⟨block, h⟩
  · rw [hb]
    exact ⟨.inl ⟨rfl, hlen, halloc, hnil⟩, rfl⟩
  · rw [h.buffer]
    dsimp only
    have hroom := h.room
    split
    · rename_i hcut
      refine ⟨.inr ⟨_, rfl, ?_, h.length, Nat.le_refl _, Nat.le_of_eq length_realloc.symm⟩, rfl⟩
      have hkeep : pi.bufferLen + 1 ≤ block.length := by omega
      exact (take_realloc (Nat.le_refl _) hkeep).trans h.text
    · exact ⟨.inr ⟨block, rfl, h.text, h.length, h.len_le, h.room⟩, rfl⟩

lemma PipeBuffer.Holds.purge (h : pi.Holds content) (junk : ℕ → ℕ → Byte) :
    ∃ pi' kept, pi.purge junk = pure pi' ∧ pi'.Holds kept ∧ kept <:+ content ∧
      pi'.isOpen = pi.isOpen ∧ pi'.bufferLen ≤ 10000 := by
  unfold PipeBuffer.purge
  by_cases hshort : pi.bufferLen ≤ 10000
  · exact ⟨pi, content, if_pos hshort, h, suffix_rfl, rfl, hshort⟩
  rw [if_neg hshort]
  rcases h with ⟨-, hlen, -, -⟩ | ⟨block, h⟩
  · omega
  have hroom := h.room
  have hle := h.len_le
  have hend : (block.drop (pi.bufferLen - 9000)).take 9000 =
      content.drop (pi.bufferLen - 9000) := by
    have hn : pi.bufferLen - (pi.bufferLen - 9000) = 9000 := by omega
    rw [← h.take, drop_take, hn]
  have hlen : (content.drop (pi.bufferLen - 9000)).length = 9000 := by
    rw [length_drop, h.length]
    omega
  have hload := load_spec (b := block) (n := 9000)
    (by omega : pi.bufferLen - 9000 + 9000 ≤ block.length)
  have hfits : 0 + (content.drop (pi.bufferLen - 9000)).length ≤ block.length := by omega
  obtain ⟨block₁, eq₁, hlen₁, htake₁⟩ := store_spec hfits
  rw [hlen, Nat.zero_add, take_zero, nil_append] at htake₁
  have htake₂ : (HeapBlock.realloc block₁ 9501 (junk 9501)).take 9000 =
      content.drop (pi.bufferLen - 9000) :=
    (take_realloc (by decide) (by omega)).trans htake₁
  obtain ⟨block₃, eq₃, hlen₃, htext⟩ := store_nul (by rw [length_realloc]; decide) htake₂
  rw [length_realloc] at hlen₃
  have hfilled : PipeBuffer.Filled
      { pi with buffer := some block₃, bufferAllocated := 9500, bufferLen := 9000 } block₃
      (content.drop (pi.bufferLen - 9000)) :=
    ⟨rfl, htext, hlen, (by decide : 9000 ≤ 9500), Nat.le_of_eq hlen₃.symm⟩
  refine ⟨_, _, ?_, hfilled.holds, drop_suffix _ _, rfl, (by decide : 9000 ≤ 10000)⟩
  simp only [h.buffer, getD_some, hload, hend, inside_some, pure_bind, eq₁, eq₃]

lemma nul_notMem_taken {reads : List ReadResult} (hvalid : ∀ r ∈ reads, r.Valid) :
    0 ∉ taken reads := by
  induction reads with
  | nil => simp [taken]
  | cons r reads ih =>
    have hr := hvalid r (.head _)
    have hrest := ih fun r hr => hvalid r (.tail _ hr)
    cases r with
    | data bytes eintr =>
      rw [taken]
      split
      · rw [mem_append, not_or]
        exact ⟨hr.2.2, hrest⟩
      · exact hr.2.2
    | eof | failed => simp [taken]

def ReadCall.Ends (call : ReadCall) : Prop := ∃ r ∈ call.reads, r.continues = false

lemma PipeBuffer.Holds.call (h : pi.Holds content) (hsmall : pi.isOpen → pi.bufferLen ≤ 10000)
    {call : ReadCall} (hvalid : ∀ r ∈ call.reads, r.Valid)
    (hbound : (taken call.reads).length ≤ 2147473446) :
    ∃ r, initngIoProcessReadInput call.junk call.reads pi = pure r ∧
      (∀ pi' told, r = some (pi', told) → ∃ kept, pi'.Holds kept ∧
        kept <:+ content ++ call.got pi ∧ told.toList.flatten = call.got pi ∧
        (pi'.isOpen → pi'.bufferLen ≤ 10000)) ∧
      (call.Ends → r.isSome) := by
  unfold initngIoProcessReadInput ReadCall.got
  cases hopen : pi.isOpen with
  | false =>
    refine ⟨some (pi, none), rfl, ?_, fun _ => rfl⟩
    rintro _ _ ⟨rfl, rfl⟩
    refine ⟨content, h, by simp, rfl, ?_⟩
    simp [hopen]
  | true =>
    have hlen := hsmall hopen
    obtain ⟨r, eq, hsome, hends⟩ := h.readLoop call.junk hvalid (by omega)
    simp only [if_pos, eq, pure_bind]
    cases r with
    | none => exact ⟨none, rfl, by simp, hends⟩
    | some result =>
      obtain ⟨pi', last⟩ := result
      obtain ⟨hopen', block, hfilled⟩ := hsome pi' last rfl
      obtain ⟨told, htold, hflat⟩ := hfilled.news (nul_notMem_taken hvalid)
      obtain ⟨hreleased, hopen''⟩ := hfilled.holds.release
      rw [h.length] at htold
      simp only [htold, pure_bind]
      split
      · -- the end of the file
        obtain ⟨hclosed, hshut⟩ := hreleased.close call.junk
        refine ⟨_, rfl, ?_, fun _ => rfl⟩
        rintro _ _ ⟨rfl, rfl⟩
        exact ⟨_, hclosed, suffix_rfl, hflat, by simp [hshut]⟩
      · obtain ⟨pi'', kept, heq, hkept, hsuffix, -, hle⟩ := hreleased.purge call.junk
        refine ⟨some (pi'', told), by rw [heq, pure_bind], ?_, fun _ => rfl⟩
        rintro _ _ ⟨rfl, rfl⟩
        exact ⟨kept, hkept, hsuffix, hflat, fun _ => hle⟩

end

/-- The buffer holds the last bytes that were read, with a NUL behind them and room as it is
noted, and the modules were told all. -/
structure Captured (x : PipeRun) : Prop where
  len_le : x.pi.bufferLen ≤ x.pi.bufferAllocated
  none : x.pi.buffer = none → x.pi.bufferLen = 0 ∧ x.pi.bufferAllocated = 0
  room : ∀ block, x.pi.buffer = some block → x.pi.bufferAllocated + 1 ≤ block.length
  nul : ∀ block, x.pi.buffer = some block → block[x.pi.bufferLen]? = some 0
  last : ∀ block, x.pi.buffer = some block → block.take x.pi.bufferLen <:+ x.read
  told : x.told.flatten = x.read
  small : x.pi.isOpen → x.pi.bufferLen ≤ 10000

def PipeRun.new : PipeRun := ⟨⟨true, none, 0, 0⟩, [], []⟩

def PipeRun.Inv (x : PipeRun) : Prop :=
  ∃ content, x.pi.Holds content ∧ content <:+ x.read ∧ x.told.flatten = x.read ∧
    (x.pi.isOpen → x.pi.bufferLen ≤ 10000)

lemma PipeRun.Inv.captured {x : PipeRun} (h : x.Inv) : Captured x := by
  obtain ⟨content, hholds, hsuffix, htold, hsmall⟩ := h
  have hle := hholds.len_le
  rcases hholds with ⟨hb, hlen, halloc, -⟩ | ⟨block, hfilled⟩
  · exact ⟨hle, fun _ => ⟨hlen, halloc⟩, by simp [hb], by simp [hb], by simp [hb], htold, hsmall⟩
  · have hblock : ∀ b, x.pi.buffer = some b → b = block := fun b hb =>
      some.inj (hb.symm.trans hfilled.buffer)
    refine ⟨hle, by simp [hfilled.buffer], ?_, ?_, ?_, htold, hsmall⟩
    · rintro _ hb
      obtain rfl := hblock _ hb
      exact hfilled.room
    · rintro _ hb
      obtain rfl := hblock _ hb
      exact hfilled.nul
    · rintro _ hb
      obtain rfl := hblock _ hb
      rw [hfilled.take]
      exact hsuffix

lemma PipeRun.Inv.readCalls {x : PipeRun} (h : x.Inv) {calls : List ReadCall}
    (hvalid : ∀ call ∈ calls, ∀ r ∈ call.reads, r.Valid)
    (hbound : ∀ call ∈ calls, (taken call.reads).length ≤ 2147473446) :
    ∃ r, Initng.readCalls calls x = pure r ∧ (∀ x', r = some x' → x'.Inv) ∧
      ((∀ call ∈ calls, call.Ends) → r.isSome) := by
  induction calls generalizing x with
  | nil => exact ⟨some x, rfl, fun x' hx => some.inj hx ▸ h, fun _ => rfl⟩
  | cons call calls ih =>
    obtain ⟨content, hholds, hsuffix, htold, hsmall⟩ := h
    obtain ⟨r, eq, hsome, hends⟩ := hholds.call hsmall
      (hvalid call (.head _)) (hbound call (.head _))
    simp only [Initng.readCalls, eq, pure_bind]
    cases r with
    | none =>
      refine ⟨none, rfl, by simp, fun hall => ?_⟩
      exact absurd (hends (hall call (.head _))) (by simp)
    | some result =>
      obtain ⟨pi, told⟩ := result
      obtain ⟨kept, hkept, hsuffix', hflat, hsmall'⟩ := hsome pi told rfl
      have hinv : PipeRun.Inv ⟨pi, x.read ++ call.got x.pi, x.told ++ told.toList⟩ := by
        refine ⟨kept, hkept, hsuffix'.trans ?_, ?_, hsmall'⟩
        · obtain ⟨before, hbefore⟩ := hsuffix
          exact ⟨before, by rw [← append_assoc, hbefore]⟩
        · rw [flatten_append, htold, hflat]
      obtain ⟨r, eq', hinv', hends'⟩ := ih hinv
        (fun call hm => hvalid call (.tail _ hm))
        (fun call hm => hbound call (.tail _ hm))
      exact ⟨r, eq', hinv', fun hall => hends' fun call hm => hall call (.tail _ hm)⟩

/-- No call leaves the memory or the range of `int`, and each that returns leaves the output
captured. -/
theorem output_captured (calls : List ReadCall)
    (hvalid : ∀ call ∈ calls, ∀ r ∈ call.reads, r.Valid)
    (hbound : ∀ call ∈ calls, (taken call.reads).length ≤ 2147473446) :
    ∃ r, readCalls calls PipeRun.new = pure r ∧ (∀ x, r = some x → Captured x) ∧
      ((∀ call ∈ calls, call.Ends) → r.isSome) := by
  have hnew : PipeRun.new.Inv :=
    ⟨[], .inl ⟨rfl, rfl, rfl, rfl⟩, suffix_rfl, rfl, fun _ => Nat.zero_le _⟩
  obtain ⟨r, eq, hinv, hends⟩ := hnew.readCalls hvalid hbound
  exact ⟨r, eq, fun x hx => (hinv x hx).captured, hends⟩

def someCalls : List ReadCall :=
  [⟨fun _ _ => 7, [.failed false]⟩,
    ⟨fun _ _ => 7, [.data (replicate 100 65) false, .data [10] false]⟩,
    ⟨fun _ _ => 7, [.eof]⟩]

theorem output_captured_some :
    (∀ call ∈ someCalls, ∀ r ∈ call.reads, r.Valid) ∧
    (∀ call ∈ someCalls, (taken call.reads).length ≤ 2147473446) ∧
    ∃ x, readCalls someCalls PipeRun.new = pure (some x) ∧ Captured x := by
  have hvalid : ∀ call ∈ someCalls, ∀ r ∈ call.reads, r.Valid := by
    simp [someCalls, ReadResult.Valid]
  have hbound : ∀ call ∈ someCalls, (taken call.reads).length ≤ 2147473446 := by decide
  have hends : ∀ call ∈ someCalls, call.Ends := by
    simp [someCalls, ReadCall.Ends, ReadResult.continues]
  obtain ⟨r, eq, hcaptured, hsome⟩ := output_captured someCalls hvalid hbound
  obtain ⟨x, rfl⟩ := isSome_iff_exists.mp (hsome hends)
  exact ⟨hvalid, hbound, x, eq, hcaptured x rfl⟩

lemma readLoop_full (junk : ℕ → ℕ → Byte) {bytes : List Byte} (hbytes : bytes.length = 100)
    (n : ℕ) {pi : PipeBuffer} {content : List Byte} (h : pi.Holds content)
    (halloc : pi.bufferAllocated = pi.bufferLen) (hlen : pi.bufferLen + 100 * n < 2147483647)
    (rest : List ReadResult) :
    ∃ pi', readLoop junk (replicate n (.data bytes false) ++ rest) pi =
      readLoop junk rest pi' ∧ pi'.bufferLen = pi.bufferLen + 100 * n := by
  induction n generalizing pi content with
  | zero => exact ⟨pi, rfl, rfl⟩
  | succ n ih =>
    obtain ⟨pi₁, block, h₁, -, hlen₁, halloc₁, eq₁⟩ := h.turn junk (by omega) (by omega)
      (Nat.le_of_eq hbytes) false (replicate n (.data bytes false) ++ rest)
    obtain ⟨pi₂, eq₂, hlen₂⟩ := ih h₁.holds (by rw [halloc₁ (by omega)]; omega) (by omega)
    refine ⟨pi₂, ?_, by omega⟩
    rw [replicate_succ, cons_append, eq₁, if_pos (by simp [ReadResult.continues, hbytes]), eq₂]

def fullReads (n : ℕ) : ReadCall :=
  ⟨fun _ _ => 0, replicate n (.data (replicate 100 65) false) ++ [.failed false]⟩

lemma fullReads_overflow {n : ℕ} (hn : 100 * n = 2147483600) :
    readCalls [fullReads n] PipeRun.new = .error .overflow := by
  have hfull : (replicate 100 (65 : Byte)).length = 100 := length_replicate
  have hnew : PipeRun.new.pi.Holds [] := .inl ⟨rfl, rfl, rfl, rfl⟩
  have hbound : PipeRun.new.pi.bufferLen + 100 * n < 2147483647 := by
    rw [hn]
    decide
  obtain ⟨pi, eq, hlen⟩ := readLoop_full (fun _ _ => 0) hfull n hnew rfl hbound [.failed false]
  have hloop : readLoop (fun _ _ => 0) (fullReads n).reads PipeRun.new.pi = .error .overflow := by
    rw [fullReads, eq, readLoop, PipeBuffer.grow, checkInt, hlen, hn, if_neg (by decide)]
    rfl
  have hcall : initngIoProcessReadInput (fun _ _ => 0) (fullReads n).reads PipeRun.new.pi =
      .error .overflow := by
    rw [initngIoProcessReadInput, hloop]
    rfl
  rw [readCalls, show (fullReads n).junk = fun _ _ => 0 from rfl, hcall]
  rfl

lemma fullReads_ends_valid (n : ℕ) : (fullReads n).Ends ∧ ∀ r ∈ (fullReads n).reads, r.Valid := by
  refine ⟨⟨.failed false, by simp [fullReads], rfl⟩, fun r hr => ?_⟩
  rcases mem_append.mp hr with hr | hr
  · obtain rfl := eq_of_mem_replicate hr
    simp [ReadResult.Valid]
  · obtain rfl := mem_singleton.mp hr
    trivial

/-- A buffer with nothing in it is released, so that not even the one byte is allocated; and
after full reads of 2147483600 bytes in one call the lengths overflow. -/
theorem output_not_always_captured :
    (∃ calls, (∀ call ∈ calls, call.Ends ∧ ∀ r ∈ call.reads, r.Valid) ∧
      ∃ x, readCalls calls PipeRun.new = pure (some x) ∧
        (x.pi.buffer.getD []).length < x.pi.bufferAllocated + 1) ∧
    ∃ calls, (∀ call ∈ calls, call.Ends ∧ ∀ r ∈ call.reads, r.Valid) ∧
      readCalls calls PipeRun.new = .error .overflow := by
  constructor
  · refine ⟨[fullReads 0], ?_, ⟨⟨true, none, 0, 0⟩, [], []⟩, rfl, by decide⟩
    intro call hcall
    obtain rfl := mem_singleton.mp hcall
    exact fullReads_ends_valid 0
  · refine ⟨[fullReads 21474836], ?_, fullReads_overflow (by decide)⟩
    intro call hcall
    obtain rfl := mem_singleton.mp hcall
    exact fullReads_ends_valid 21474836

end Initng
