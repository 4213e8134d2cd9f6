import Initng.FixedFields
import Initng.NgcsServer

/-! `modules/ngc4/initng_ngc4.c` and `modules/ngc4/libngcclient.c`. -/

namespace Initng.Ngc4

open LittleEndian CutStream FixedFields List Option

def protocol4Version : CInt := 10

/-- Bytes that are somewhere in memory, with room for one more. -/
structure MemBlock where
  bytes : List Byte
  short : bytes.length + 1 < 18446744073709551616

def MemBlock.empty : MemBlock := ⟨[], by decide⟩

structure CString extends MemBlock where
  nulFree : 0 ∉ bytes

def MemBlock.size (b : MemBlock) : BitVec 64 := BitVec.ofNat 64 b.bytes.length

@[simp] lemma MemBlock.toNat_size (b : MemBlock) : b.size.toNat = b.bytes.length := by
  have hshort := b.short
  rw [MemBlock.size, BitVec.toNat_ofNat]
  omega

lemma MemBlock.size_eq_zero (b : MemBlock) : b.size = 0 ↔ b.bytes = [] := by
  rw [← BitVec.toNat_inj, b.toNat_size]
  exact length_eq_zero_iff

inductive ESuceed
  | sFalse
  | sTrue
  | sRequiresOpt
  | sNotRequiresOpt
  | sInvalidType
  | sCommandNotFound
  deriving DecidableEq

def ESuceed.code : ESuceed → CInt
  | sFalse => 0
  | sTrue => 1
  | sRequiresOpt => 2
  | sNotRequiresOpt => 3
  | sInvalidType => 4
  | sCommandNotFound => 5

inductive EComType
  | commandFail
  | payloadCommand
  | intCommand
  | stringCommand
  deriving DecidableEq

def EComType.code : EComType → CInt
  | commandFail => 0
  | payloadCommand => 1
  | intCommand => 3
  | stringCommand => 5

abbrev Chars101 := { bs : List Byte // bs.length = 101 }

/-- `strncpy` of at most 100 characters into zeros. -/
def chars101 (text : List Byte) : Chars101 := ⟨fit 0 101 (text.take 100), length_fit⟩

def Chars101.close (a : Chars101) : Chars101 := ⟨fit 0 101 (a.1.take 100), length_fit⟩

lemma close_chars101 (text : List Byte) : (chars101 text).close = chars101 text := by
  apply Subtype.ext
  have hlen : (text.take 100).length ≤ 100 := by
    rw [length_take]
    exact Nat.min_le_left _ _
  have hcut : (text.take 100).take 101 = text.take 100 := take_of_length_le (by omega)
  -- the last of the 101 bytes is one of the zeros after the text
  have hfit : (fit 0 101 (text.take 100)).take 100 = fit 0 100 (text.take 100) := by
    rw [fit, fit, hcut, take_append, take_replicate, take_take]
    congr 2
    omega
  have hrest : (fit (0 : Byte) 100 (text.take 100)).length = 100 := length_fit
  change fit 0 101 ((fit 0 101 (text.take 100)).take 100) = fit 0 101 (text.take 100)
  rw [hfit, fit, take_of_length_le (by omega), hrest, fit, fit, hcut, take_take,
    append_assoc, ← replicate_add]
  congr 2
  omega

structure ReadHeader where
  c : Byte
  l : Chars101
  pVer : CInt
  bodyLen : BitVec 64
  deriving DecidableEq

def ReadHeader.encode (h : ReadHeader) : List Byte :=
  bytes 1 h.c.toNat ++ (h.l.1 ++ (replicate 2 0 ++ (bytes 4 h.pVer.toNat ++
    (replicate 4 0 ++ bytes 8 h.bodyLen.toNat))))

def ReadHeader.decode (bs : List Byte) : ReadHeader :=
  ⟨word 8 (part 0 1 bs), ⟨fit 0 101 (part 1 101 bs), length_fit⟩, word 32 (part 104 4 bs),
    word 64 (part 112 8 bs)⟩

structure ResultDesc where
  s : CInt
  c : Byte
  t : CInt
  version : Chars101
  pVer : CInt
  payload : BitVec 64
  deriving DecidableEq

def ResultDesc.encode (r : ResultDesc) : List Byte :=
  bytes 4 r.s.toNat ++ (bytes 1 r.c.toNat ++ (replicate 3 0 ++ (bytes 4 r.t.toNat ++
    (r.version.1 ++ (replicate 3 0 ++ (bytes 4 r.pVer.toNat ++ bytes 8 r.payload.toNat))))))

def ResultDesc.decode (bs : List Byte) : ResultDesc :=
  ⟨word 32 (part 0 4 bs), word 8 (part 4 1 bs), word 32 (part 8 4 bs),
    ⟨fit 0 101 (part 12 101 bs), length_fit⟩, word 32 (part 116 4 bs), word 64 (part 120 8 bs)⟩

lemma ReadHeader.length_encode (h : ReadHeader) : h.encode.length = 120 := by
  simp [ReadHeader.encode, h.l.2]

lemma ResultDesc.length_encode (r : ResultDesc) : r.encode.length = 128 := by
  simp [ResultDesc.encode, r.version.2]

lemma ReadHeader.decode_encode (h : ReadHeader) : decode h.encode = h := by
  obtain ⟨c, ⟨l, hl⟩, pVer, bodyLen⟩ := h
  simp (disch := simp [hl]) only [decode, encode, part_head, part_skip, part_end, length_bytes,
    length_replicate, hl, Nat.reduceSub, word_bytes, fit_of_length]

lemma ResultDesc.decode_encode (r : ResultDesc) : decode r.encode = r := by
  obtain ⟨s, c, t, ⟨v, hv⟩, pVer, payload⟩ := r
  simp (disch := simp [hv]) only [decode, encode, part_head, part_skip, part_end, length_bytes,
    length_replicate, hv, Nat.reduceSub, word_bytes, fit_of_length]

/-- The function of a command, by its `com_type`.  It is given `header_data`, which is `none`
for a request without a body. -/
inductive Call (σ : Type)
  | commandFail
  | payloadCommand (call : Option (List Byte) → σ → MemBlock × σ)
  | intCommand (call : Option (List Byte) → σ → CInt × σ)
  | stringCommand (call : Option (List Byte) → σ → Option CString × σ)

structure SCommand (σ : Type) where
  id : Byte
  longId : Option (List Byte)
  optType : OptType
  call : Call σ

structure Server (σ : Type) where
  localCommandsDb : List (SCommand σ)
  commandDb : List (SCommand σ)
  version : List Byte

/-- What is sent back: the fields of a `result_desc` that are not always the same, and the
payload. -/
structure Answer where
  s : ESuceed
  c : Byte
  t : EComType
  data : MemBlock

def Answer.desc (a : Answer) (version : List Byte) : ResultDesc :=
  ⟨a.s.code, a.c, a.t.code, chars101 version, protocol4Version, a.data.size⟩

/-- What one call of `handle_client` does, with the header and body it looked for a command with. -/
structure Served (σ : Type) where
  seen : Option (ReadHeader × Option (List Byte))
  sent : Option Answer
  state : σ

section
variable {σ : Type}

def Call.comType : Call σ → EComType
  | commandFail => .commandFail
  | payloadCommand _ => .payloadCommand
  | intCommand _ => .intCommand
  | stringCommand _ => .stringCommand

def Server.find (srv : Server σ) (h : ReadHeader) : Option (SCommand σ) :=
  let wanted : SCommand σ → Bool := fun cmd =>
    if h.c ≠ 0 then cmd.id = h.c else cmd.longId = some (h.l.1.takeWhile (· ≠ 0))
  (srv.localCommandsDb.find? wanted).or (srv.commandDb.find? wanted)

def failure (s : ESuceed) (h : ReadHeader) : Option Answer := some ⟨s, h.c, .commandFail, .empty⟩

def intBlock (x : CInt) : MemBlock := ⟨intBytes x, by rw [length_intBytes]; decide⟩

def SCommand.run (cmd : SCommand σ) (arg : Option (List Byte)) (s : σ) : Option Answer × σ :=
  match cmd.call with
  | .intCommand call =>
    (some ⟨.sTrue, cmd.id, .intCommand, intBlock (call arg s).1⟩, (call arg s).2)
  | .stringCommand call =>
    ((call arg s).1.map fun text => ⟨.sTrue, cmd.id, .stringCommand, text.toMemBlock⟩,
      (call arg s).2)
  | .payloadCommand call =>
    (some ⟨.sTrue, cmd.id, .payloadCommand, (call arg s).1⟩, (call arg s).2)
  | .commandFail => (some ⟨.sInvalidType, cmd.id, .commandFail, .empty⟩, s)

def Server.answer (srv : Server σ) (h : ReadHeader) (arg : Option (List Byte)) (s : σ) :
    Option Answer × σ :=
  -- 'X' is a ping, 'Y' the answer to it
  if h.c = 88 then (some ⟨.sTrue, 89, .intCommand, .empty⟩, s)
  else
    match srv.find h with
    | none => (failure .sCommandNotFound h, s)
    | some cmd =>
      if cmd.call.comType = .commandFail then (failure .sCommandNotFound h, s)
      else if cmd.optType = .requiresOpt ∧ h.bodyLen.toNat < 1 then (failure .sRequiresOpt h, s)
      else if cmd.optType = .noOpt ∧ 0 < h.bodyLen.toNat then (failure .sNotRequiresOpt h, s)
      else cmd.run arg s

/-- `initng_reload`, which calls the command `c` (99) without an option. -/
def Server.initngReload (srv : Server σ) (s : σ) : σ :=
  match (srv.commandDb.find? fun cmd => cmd.id = 99).map SCommand.call with
  | some (.intCommand call) => (call none s).2
  | some (.stringCommand call) => (call none s).2
  | _ => s

def Server.serve (srv : Server σ) (h : ReadHeader) (arg : Option (List Byte)) (s : σ) : Served σ :=
  ⟨some (h, arg), (srv.answer h arg s).1, (srv.answer h arg s).2⟩

/-- `handle_client` from the point where the body is read; `got < (signed) body_len` compares
with an `int`. -/
def Server.readBody (srv : Server σ) (h : ReadHeader) (src : Source Byte) (s : σ) : Served σ :=
  let got := (src.read h.bodyLen.toNat).1
  if h.bodyLen = 0 then srv.serve h none s
  else if (got.length : ℤ) < (h.bodyLen.setWidth 32).toInt then ⟨none, none, s⟩
  else srv.serve h (some (fit 0 h.bodyLen.toNat got)) s

def Server.handleClient (srv : Server σ) (src : Source Byte) (s : σ) : Served σ :=
  let got := (src.read 120).1
  let h := ReadHeader.decode got
  if got.length < 120 then ⟨none, none, s⟩
  else if h.pVer ≠ protocol4Version then ⟨none, none, srv.initngReload s⟩
  else srv.readBody { h with l := h.l.close } (src.read 120).2 s

end

inductive NgcError
  | fetchFailed
  | versionMissmatch
  | negative
  | optionRequired
  | optionForbidden
  | unknownType
  | commandNotFound
  | unknown
  deriving DecidableEq

def NgcError.text : NgcError → String
  | fetchFailed => "failed to fetch the result."
  | versionMissmatch => "PROTOCOL_4_VERSION missmatch!"
  | negative => "Request returns negative."
  | optionRequired => "The command requires an option!"
  | optionForbidden => "The command cant have an option!"
  | unknownType => "The data returning of this command is an unknown type."
  | commandNotFound => "Command not found."
  | unknown => "Unknown error."

lemma NgcError.text_inj {e f : NgcError} (h : e.text = f.text) : e = f := by
  revert h
  cases e <;> cases f <;> decide

/-- `reply`; the payload is the allocated block without the zero at its end. -/
structure NgcReply where
  result : ResultDesc
  payload : Option (List Byte)
  deriving DecidableEq

structure Request where
  c : Byte
  l : Option CString
  o : Option CString

def Request.body (q : Request) : MemBlock := q.o.elim .empty CString.toMemBlock

def Request.header (q : Request) : ReadHeader :=
  ⟨q.c, chars101 (q.l.elim [] fun l => l.bytes), protocol4Version, q.body.size⟩

def fakeReply : NgcReply :=
  let text := ascii ("On ngc -c, initng reloads itself. By that it closes the connection to ngc " ++
    "and so can not return if this command succeds or not.")
  ⟨⟨1, 99, EComType.stringCommand.code, chars101 (ascii "Fake reply, not from initng\n"),
    protocol4Version, BitVec.ofNat 64 text.length⟩, some text⟩

def resultError (s : CInt) : Option NgcError :=
  if s = ESuceed.sFalse.code then some .negative
  else if s = ESuceed.sRequiresOpt.code then some .optionRequired
  else if s = ESuceed.sNotRequiresOpt.code then some .optionForbidden
  else if s = ESuceed.sInvalidType.code then some .unknownType
  else if s = ESuceed.sCommandNotFound.code then some .commandNotFound
  else if s = ESuceed.sTrue.code then none
  else some .unknown

/-- The payload is fetched with one `recv`, of which the result is not looked at. -/
def fetchPayload (r : ResultDesc) (src : Source Byte) : Option (List Byte) :=
  if r.payload = 0 then none
  else some (fit 0 r.payload.toNat (src.read r.payload.toNat).1)

def fetchResult (src : Source Byte) : Except NgcError NgcReply :=
  let got := (src.read 128).1
  let r := ResultDesc.decode got
  if got.length < 128 then .error .fetchFailed
  else if r.pVer ≠ protocol4Version then .error .versionMissmatch
  else
    match resultError r.s with
    | some e => .error e
    | none => .ok ⟨r, fetchPayload r (src.read 128).2⟩

structure Cuts where
  toServer : ℕ → ℕ
  toClient : ℕ → ℕ

section
variable {σ : Type}

def Request.served (q : Request) (srv : Server σ) (cuts : Cuts) (s : σ) : Served σ :=
  srv.handleClient ⟨q.header.encode ++ q.body.bytes, cuts.toServer⟩ s

def Answer.stream (version : List Byte) (a : Answer) : List Byte :=
  (a.desc version).encode ++ a.data.bytes

def Request.ngcclientSendCommand (q : Request) (srv : Server σ) (cuts : Cuts) (s : σ) :
    Except NgcError NgcReply :=
  if q.c = 99 then .ok fakeReply
  else fetchResult ⟨(q.served srv cuts s).sent.elim [] (Answer.stream srv.version), cuts.toClient⟩

def MemBlock.pointer (b : MemBlock) : Option (List Byte) :=
  if b.bytes = [] then none else some b.bytes

/-- What the client is to return: the reply and its payload as they were sent, or the error for
the status in the reply. -/
def Answer.returned (version : List Byte) (a : Answer) : Except NgcError NgcReply :=
  match resultError a.s.code with
  | some e => .error e
  | none => .ok ⟨a.desc version, a.data.pointer⟩

/-- What `ngcclient_send_command` is to return for what the server sent: `ngc -c` does not wait
for it, and without an answer there is nothing to fetch. -/
def Request.expected (q : Request) (version : List Byte) (sent : Option Answer) :
    Except NgcError NgcReply :=
  if q.c = 99 then .ok fakeReply else sent.elim (.error .fetchFailed) (Answer.returned version)

structure Intact (srv : Server σ) (q : Request) (cuts : Cuts) (s : σ) : Prop where
  request : (q.served srv cuts s).seen = some (q.header, q.body.pointer)
  reply : q.ngcclientSendCommand srv cuts s = q.expected srv.version (q.served srv cuts s).sent

structure InOnePiece (srv : Server σ) (q : Request) (cuts : Cuts) (s : σ) : Prop where
  header : 120 ≤ cuts.toServer 0 + 1
  body : q.body.bytes.length ≤ cuts.toServer 1 + 1
  reply : q.c ≠ 99 → ∀ a ∈ (srv.answer q.header q.body.pointer s).1,
    128 ≤ cuts.toClient 0 + 1 ∧
      (a.s = .sTrue → ∀ b ∈ a.data.bytes.drop (cuts.toClient 1 + 1), b = 0)

variable {b : MemBlock}

lemma MemBlock.pointer_of_size (h : b.size = 0) : b.pointer = none := if_pos (b.size_eq_zero.mp h)

lemma MemBlock.pointer_of_size_ne (h : b.size ≠ 0) : b.pointer = some b.bytes :=
  if_neg (mt b.size_eq_zero.mpr h)

lemma Request.nulFree_body (q : Request) : 0 ∉ q.body.bytes := by
  rw [Request.body]
  cases q.o with
  | none => exact not_mem_nil
  | some o => exact o.nulFree

variable {srv : Server σ} {q : Request} {cuts : Cuts} {s : σ}

lemma Request.served_of_header (h : 120 ≤ cuts.toServer 0 + 1) :
    q.served srv cuts s =
      srv.readBody q.header ⟨q.body.bytes, fun k => cuts.toServer (k + 1)⟩ s := by
  have hread := Source.read_whole (h := q.header.length_encode.symm ▸ h) q.body.bytes
  rw [q.header.length_encode] at hread
  have hclose : { q.header with l := q.header.l.close } = q.header := by
    rw [Request.header, close_chars101]
  have hversion : ¬ q.header.pVer ≠ protocol4Version := not_not_intro rfl
  rw [Request.served, Server.handleClient]
  simp only [hread, q.header.length_encode, ReadHeader.decode_encode, hclose]
  rw [if_neg (lt_irrefl 120), if_neg hversion]

lemma Request.seen_of_short_header (h : ¬ 120 ≤ cuts.toServer 0 + 1) :
    (q.served srv cuts s).seen = none := by
  have hread := Source.read_front q.header.encode q.body.bytes cuts.toServer
  rw [q.header.length_encode] at hread
  rw [Request.served, Server.handleClient]
  simp only [hread, length_take, q.header.length_encode]
  rw [if_pos (by omega)]

lemma not_lt_toInt_setWidth {n : ℕ} {x : BitVec 64} (h : x.toNat ≤ n) :
    ¬ (n : ℤ) < (x.setWidth 32).toInt := by
  have hmod : (x.setWidth 32).toNat ≤ x.toNat := by
    rw [BitVec.toNat_setWidth]
    exact Nat.mod_le _ _
  rw [BitVec.toInt_eq_toNat_cond]
  split <;> omega

lemma Server.readBody_whole {cuts : ℕ → ℕ} (h : q.body.bytes.length ≤ cuts 0 + 1) :
    srv.readBody q.header ⟨q.body.bytes, cuts⟩ s = srv.serve q.header q.body.pointer s := by
  have hlen : q.header.bodyLen = q.body.size := rfl
  have hread : (Source.read ⟨q.body.bytes, cuts⟩ q.body.bytes.length).1 = q.body.bytes := by
    rw [Source.read_all, take_of_length_le h]
  rw [Server.readBody, hlen]
  simp only [MemBlock.toNat_size, hread]
  by_cases hzero : q.body.size = 0
  · rw [if_pos hzero, MemBlock.pointer_of_size hzero]
  · rw [if_neg hzero, if_neg (not_lt_toInt_setWidth (Nat.le_of_eq q.body.toNat_size)),
      fit_of_length rfl, MemBlock.pointer_of_size_ne hzero]

lemma Server.seen_readBody_cut {cuts : ℕ → ℕ} (h : ¬ q.body.bytes.length ≤ cuts 0 + 1) :
    (srv.readBody q.header ⟨q.body.bytes, cuts⟩ s).seen ≠ some (q.header, q.body.pointer) := by
  have hlen : q.header.bodyLen = q.body.size := rfl
  have hsize : q.body.size ≠ 0 := by
    intro hzero
    rw [q.body.size_eq_zero.mp hzero] at h
    exact h (Nat.zero_le _)
  rw [Server.readBody, hlen, MemBlock.pointer_of_size_ne hsize, if_neg hsize]
  simp only [MemBlock.toNat_size, Source.read_all]
  intro hseen
  split at hseen
  · cases hseen
  · have hfit := congrArg (Option.map Prod.snd) hseen
    simp only [Server.serve, map_some, some.injEq] at hfit
    obtain ⟨b, hb⟩ : ∃ b, b ∈ q.body.bytes.drop (cuts 0 + 1) :=
      exists_mem_of_ne_nil _ (mt drop_eq_nil_iff.mp h)
    rw [fit_take_eq_iff.mp hfit b hb] at hb
    exact q.nulFree_body (mem_of_mem_drop hb)

lemma Request.served_of_whole (hheader : 120 ≤ cuts.toServer 0 + 1)
    (hbody : q.body.bytes.length ≤ cuts.toServer 1 + 1) :
    q.served srv cuts s = srv.serve q.header q.body.pointer s := by
  rw [Request.served_of_header hheader, Server.readBody_whole hbody]

lemma Request.seen_iff :
    (q.served srv cuts s).seen = some (q.header, q.body.pointer) ↔
      120 ≤ cuts.toServer 0 + 1 ∧ q.body.bytes.length ≤ cuts.toServer 1 + 1 := by
  constructor
  · intro hseen
    have hheader : 120 ≤ cuts.toServer 0 + 1 := by
      by_contra hcut
      rw [Request.seen_of_short_header hcut] at hseen
      cases hseen
    refine ⟨hheader, ?_⟩
    by_contra hcut
    rw [Request.served_of_header hheader] at hseen
    exact Server.seen_readBody_cut hcut hseen
  · rintro ⟨hheader, hbody⟩
    rw [Request.served_of_whole hheader hbody]
    rfl

lemma resultError_code {e : ESuceed} : resultError e.code = none ↔ e = .sTrue := by
  cases e <;> decide

lemma fetchResult_nothing (cuts : ℕ → ℕ) : fetchResult ⟨[], cuts⟩ = .error .fetchFailed := by
  rw [fetchResult]
  simp [Source.read]

variable {version : List Byte} {a : Answer}

lemma fetchResult_short {cuts : ℕ → ℕ} (h : ¬ 128 ≤ cuts 0 + 1) :
    fetchResult ⟨a.stream version, cuts⟩ = .error .fetchFailed := by
  have hread := Source.read_front (a.desc version).encode a.data.bytes cuts
  rw [ResultDesc.length_encode] at hread
  rw [fetchResult, Answer.stream]
  simp only [hread, length_take, ResultDesc.length_encode]
  rw [if_pos (by omega)]

lemma fetchResult_whole {cuts : ℕ → ℕ} (h : 128 ≤ cuts 0 + 1) :
    fetchResult ⟨a.stream version, cuts⟩ =
      match resultError a.s.code with
      | some e => .error e
      | none => .ok ⟨a.desc version,
          fetchPayload (a.desc version) ⟨a.data.bytes, fun k => cuts (k + 1)⟩⟩ := by
  have hread := Source.read_whole (h := (a.desc version).length_encode.symm ▸ h) a.data.bytes
  rw [ResultDesc.length_encode] at hread
  have hversion : ¬ (a.desc version).pVer ≠ protocol4Version := not_not_intro rfl
  rw [fetchResult, Answer.stream]
  simp only [hread, ResultDesc.length_encode, ResultDesc.decode_encode]
  rw [if_neg (lt_irrefl 128), if_neg hversion]
  rfl

lemma Answer.returned_ne_fetchFailed : a.returned version ≠ .error .fetchFailed := by
  rw [Answer.returned]
  split
  · rename_i e he
    intro heq
    cases heq
    cases hs : a.s <;> simp [hs, resultError, ESuceed.code] at he
  · exact nofun

lemma fetchPayload_iff {cuts : ℕ → ℕ} :
    fetchPayload (a.desc version) ⟨a.data.bytes, cuts⟩ = a.data.pointer ↔
      ∀ b ∈ a.data.bytes.drop (cuts 0 + 1), b = 0 := by
  have hlen : (a.desc version).payload = a.data.size := rfl
  rw [fetchPayload, hlen, MemBlock.toNat_size, Source.read_all]
  by_cases hzero : a.data.size = 0
  · rw [if_pos hzero, MemBlock.pointer_of_size hzero, a.data.size_eq_zero.mp hzero]
    simp
  · rw [if_neg hzero, MemBlock.pointer_of_size_ne hzero, some_inj, fit_take_eq_iff]

/-- The reply is returned as it was sent if its header is not cut and only zeros are cut off its
payload. -/
lemma fetchResult_iff {cuts : ℕ → ℕ} :
    fetchResult ⟨a.stream version, cuts⟩ = a.returned version ↔
      128 ≤ cuts 0 + 1 ∧ (a.s = .sTrue → ∀ b ∈ a.data.bytes.drop (cuts 1 + 1), b = 0) := by
  by_cases hheader : 128 ≤ cuts 0 + 1
  · rw [fetchResult_whole hheader, Answer.returned]
    split
    · rename_i e he
      have hne : a.s ≠ .sTrue := fun hs => by rw [resultError_code.mpr hs] at he; cases he
      exact iff_of_true rfl ⟨hheader, fun hs => absurd hs hne⟩
    · rename_i he
      have hs : a.s = .sTrue := resultError_code.mp he
      simp only [Except.ok.injEq, NgcReply.mk.injEq, true_and, fetchPayload_iff, hheader, hs,
        forall_const]
  · rw [fetchResult_short hheader]
    exact iff_of_false Answer.returned_ne_fetchFailed.symm fun h => hheader h.1

/-- An exchange is intact exactly if each of its parts arrives in one piece. -/
theorem intact_iff (srv : Server σ) (q : Request) (cuts : Cuts) (s : σ) :
    Intact srv q cuts s ↔ InOnePiece srv q cuts s := by
  have hreply (hserved : q.served srv cuts s = srv.serve q.header q.body.pointer s) :
      q.ngcclientSendCommand srv cuts s = q.expected srv.version (q.served srv cuts s).sent ↔
        (q.c ≠ 99 → ∀ a ∈ (srv.answer q.header q.body.pointer s).1, 128 ≤ cuts.toClient 0 + 1 ∧
          (a.s = .sTrue → ∀ b ∈ a.data.bytes.drop (cuts.toClient 1 + 1), b = 0)) := by
    rw [Request.ngcclientSendCommand, Request.expected, hserved, Server.serve]
    by_cases hc : q.c = 99
    · simp [hc]
    · rw [if_neg hc, if_neg hc]
      cases (srv.answer q.header q.body.pointer s).1 with
      | none => simp [fetchResult_nothing]
      | some a =>
        refine fetchResult_iff.trans ⟨fun h _ b hb => ?_, fun h => h hc a rfl⟩
        cases hb
        exact h
  constructor
  · intro h
    obtain ⟨hheader, hbody⟩ := Request.seen_iff.mp h.request
    exact ⟨hheader, hbody, (hreply (Request.served_of_whole hheader hbody)).mp h.reply⟩
  · intro h
    exact ⟨Request.seen_iff.mpr ⟨h.header, h.body⟩,
      (hreply (Request.served_of_whole h.header h.body)).mpr h.reply⟩

def okServer : Server Unit :=
  let ok : CString := ⟨⟨ascii "ok", by decide⟩, by decide⟩
  ⟨[], [⟨97, none, .noOpt, .stringCommand fun _ s => (some ok, s)⟩], ascii "0.7"⟩

/-- When the second `recv` of the client gets one byte, the client returns "o" and a zero as the
payload of two bytes that was sent; when the first `recv` of the server gets one byte, the
server does not see the request. -/
theorem not_always_intact :
    ((Request.ngcclientSendCommand ⟨97, none, none⟩ okServer
        ⟨fun _ => 119, fun k => if k = 0 then 127 else 0⟩ ()).toOption.map NgcReply.payload =
          some (some [111, 0]) ∧
      ¬ Intact okServer ⟨97, none, none⟩ ⟨fun _ => 119, fun k => if k = 0 then 127 else 0⟩ ()) ∧
      ¬ Intact okServer ⟨97, none, none⟩ ⟨fun _ => 0, fun _ => 127⟩ () := by
  have hpayload : (Request.ngcclientSendCommand ⟨97, none, none⟩ okServer
      ⟨fun _ => 119, fun k => if k = 0 then 127 else 0⟩ ()).toOption.map NgcReply.payload =
        some (some [111, 0]) := by decide +kernel
  have hseen : (Request.served ⟨97, none, none⟩ okServer ⟨fun _ => 0, fun _ => 127⟩ ()).seen =
      none := by decide +kernel
  refine ⟨⟨hpayload, fun h => ?_⟩, fun h => ?_⟩
  · rw [h.reply] at hpayload
    exact absurd hpayload (by decide +kernel)
  · have hrequest := h.request
    rw [hseen] at hrequest
    cases hrequest

end

end Initng.Ngc4
