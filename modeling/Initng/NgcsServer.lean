import Initng.NgcsClient
import Initng.NgcsTransport
import Initng.NgcsUnpackExact

/-! `modules/ngcs/initng_ngcs.c`. -/

namespace Initng

open LittleEndian List

def ngcsTypeStruct : CInt := 6

def ascii (text : String) : List Byte := text.toList.map fun c => BitVec.ofNat 8 c.toNat

structure Reply where
  type : CInt
  len : CInt
  data : List Byte
  sized : data.length = len.toInt.toNat

def Reply.onChan0 (r : Reply) : NgcsSent := ⟨0, r.type, r.len, r.data, r.sized⟩

structure OtherSent extends NgcsSent where
  other : chan ≠ 0

inductive CmdProg (σ : Type)
  | done (s : σ)
  | respond (r : Reply) (next : Bool → CmdProg σ)
  | other (m : OtherSent) (next : CmdProg σ)

structure NgcsRequest where
  argv : List NgcsData
  sentRespFlag : Bool

structure NgcsCmd (σ : Type) where
  name : Option (List Byte)
  func : NgcsRequest → σ → CmdProg σ

/-- A request that is being handled: what has been sent, whether a response was, and the rest
of the program. -/
structure Serving (σ : Type) where
  log : List NgcsSent
  sentRespFlag : Bool
  world : σ

section
variable {σ : Type}

def ngcsSendResponse (r : Reply) (c : Serving σ) : Bool × Serving σ :=
  if c.sentRespFlag then (false, c)
  else (true, { c with log := c.log ++ [r.onChan0], sentRespFlag := true })

def Serving.sendOthers (ms : List OtherSent) (s : σ) (c : Serving σ) : Serving σ :=
  { c with log := c.log ++ ms.map OtherSent.toNgcsSent, world := s }

def CmdProg.run : CmdProg σ → Serving σ → Serving σ
  | done s, c => { c with world := s }
  | respond r next, c => (next (ngcsSendResponse r c).1).run (ngcsSendResponse r c).2
  | other m next, c => next.run (c.sendOthers [m] c.world)

def NgcsCmd.call (cmd : NgcsCmd σ) (argv : List NgcsData) (c : Serving σ) : Serving σ :=
  (cmd.func ⟨argv, c.sentRespFlag⟩ c.world).run c

inductive Chan0Error
  | invalidMessage (type len : CInt)
  | unpackingFailed
  | badUnpackedMessage
  | unknownCommand (name : List Byte)
  | unknownCommandType

/-- What the hooks of `EVENT_ERROR_MESSAGE` do for an error that is reported: they may send on
the channels that watch for errors. -/
abbrev ErrorHooks (σ : Type) := Chan0Error → σ → List OtherSent × σ

def Serving.report (f : ErrorHooks σ) (e : Chan0Error) (c : Serving σ) : Serving σ :=
  c.sendOthers (f e c.world).1 (f e c.world).2

def Serving.chanSend (r : Reply) (c : Serving σ) : Serving σ :=
  { c with log := c.log ++ [r.onChan0] }

def badRequest : Reply := ⟨ngcsTypeError, 11, ascii "BAD_REQUEST", by decide⟩

def commandNotFound : Reply := ⟨ngcsTypeError, 17, ascii "COMMAND_NOT_FOUND", by decide⟩

def nullReply : Reply := ⟨ngcsTypeNull, 0, [], by decide⟩

def cString (mem : List Byte) : Option (List Byte) :=
  if mem.contains 0 then some (mem.takeWhile (· ≠ 0)) else none

def runUnnamed (argv : List NgcsData) : List (NgcsCmd σ) → Serving σ → Serving σ
  | [], c => c
  | cmd :: cmds, c =>
    if cmd.name = none then
      if (cmd.call argv c).sentRespFlag then cmd.call argv c
      else runUnnamed argv cmds (cmd.call argv c)
    else runUnnamed argv cmds c

def runCommand (f : ErrorHooks σ) (cmds : List (NgcsCmd σ)) (argv : List NgcsData)
    (name : List Byte) (c : Serving σ) : Serving σ :=
  match cmds.find? fun cmd => cmd.name = some name with
  | some cmd =>
    if (cmd.call argv c).sentRespFlag then cmd.call argv c
    else (cmd.call argv c).chanSend nullReply
  | none =>
    if (runUnnamed argv cmds c).sentRespFlag then runUnnamed argv cmds c
    else ((runUnnamed argv cmds c).report f (.unknownCommand name)).chanSend commandNotFound

/-- `handle_chan0`; `cmds` are the registered commands in the order of the walk, and `res` is
what the memory of the unpacked items held. -/
def handleChan0 (f : ErrorHooks σ) (cmds : List (NgcsCmd σ)) (res : ℕ → BitVec 64)
    (type len : CInt) (data : List Byte) (s : σ) : Option (Serving σ) :=
  let c : Serving σ := ⟨[], false, s⟩
  if len.toInt < 0 then some c
  else if type ≠ ngcsTypeStruct ∨ len = 0 then
    some ((c.report f (.invalidMessage type len)).chanSend badRequest)
  else
    match ngcsUnpack res data len with
    | none => none
    | some none => some ((c.report f .unpackingFailed).chanSend badRequest)
    | some (some []) => some ((c.report f .badUnpackedMessage).chanSend badRequest)
    | some (some (arg :: argv)) =>
      if arg.type ≠ ngcsTypeString then
        some ((c.report f .badUnpackedMessage).chanSend badRequest)
      else (cString arg.mem).map fun name => runCommand f cmds (arg :: argv) name c

inductive OptType
  | noOpt
  | usesOpt
  | requiresOpt
  deriving DecidableEq

structure ReturnedString where
  text : List Byte
  short : text.length < 2 ^ 31

/-- `com_type` and the function in `u` that belongs to it, which is given the option and may
send on other channels. -/
inductive CommandCall (σ : Type)
  | intCommand (call : Option (List Byte) → σ → List OtherSent × CInt × σ)
  | stringCommand (call : Option (List Byte) → σ → List OtherSent × Option ReturnedString × σ)
  | otherType

structure SCommand (σ : Type) where
  id : Byte
  longId : Option (List Byte)
  optType : OptType
  call : CommandCall σ

def compatFind (db : List (SCommand σ)) : List Byte → Option (SCommand σ)
  | 45 :: 45 :: name => db.find? fun cur => cur.longId = some name
  | [45, c] => db.find? fun cur => cur.id = c
  | _ => none

def tooManyArgs : Reply := ⟨ngcsTypeError, 13, ascii "TOO_MANY_ARGS", by decide⟩

def badArgs : Reply := ⟨ngcsTypeError, 8, ascii "BAD_ARGS", by decide⟩

def tooFewArgs : Reply := ⟨ngcsTypeError, 12, ascii "TOO_FEW_ARGS", by decide⟩

/-- The source gives the length 12, so the last two letters are cut off. -/
def internalError : Reply := ⟨ngcsTypeError, 12, (ascii "INTERNAL_ERROR").take 12, by decide⟩

def intAnswer (ret : CInt) : Reply := ⟨ngcsTypeInt, 4, intBytes ret, length_intBytes ret⟩

lemma toInt_toNat_ofNat {n : ℕ} (h : n < 2 ^ 31) : (BitVec.ofNat 32 n).toInt.toNat = n := by
  have hnat : (BitVec.ofNat 32 n).toNat = n := by
    rw [BitVec.toNat_ofNat]
    omega
  rw [BitVec.toInt_eq_toNat_of_lt (by omega), hnat, Int.toNat_natCast]

def stringAnswer (sret : Option ReturnedString) : Reply :=
  match sret with
  | some s => ⟨ngcsTypeString, BitVec.ofNat 32 s.text.length, s.text,
      (toInt_toNat_ofNat s.short).symm⟩
  | none => nullReply

def CmdProg.answer (r : Reply) (s : σ) : CmdProg σ := .respond r fun _ => .done s

def CmdProg.others (ms : List OtherSent) (next : CmdProg σ) : CmdProg σ :=
  ms.foldr CmdProg.other next

def compatRun (f : ErrorHooks σ) (cmd : SCommand σ) (argv : List NgcsData) (s : σ) : CmdProg σ :=
  if 2 < argv.length then .answer tooManyArgs s
  else if argv.length = 2 ∧ argv[1]?.map NgcsData.type ≠ some ngcsTypeString then
    .answer badArgs s
  else if cmd.optType = .noOpt ∧ 1 < argv.length then .answer tooManyArgs s
  else if cmd.optType = .requiresOpt ∧ argv.length < 2 then .answer tooFewArgs s
  else
    let arg := argv[1]?.map fun a => a.mem.takeWhile (· ≠ 0)
    match cmd.call with
    | .intCommand call =>
      .others (call arg s).1 (.answer (intAnswer (call arg s).2.1) (call arg s).2.2)
    | .stringCommand call =>
      .others (call arg s).1 (.answer (stringAnswer (call arg s).2.1) (call arg s).2.2)
    | .otherType =>
      .others (f .unknownCommandType s).1 (.answer internalError (f .unknownCommandType s).2)

/-- `ngcs_cmd_compat`.  The strings end, as `ngcs_unpack_one` makes them. -/
def ngcsCmdCompat (f : ErrorHooks σ) (db : List (SCommand σ)) (req : NgcsRequest) (s : σ) :
    CmdProg σ :=
  match req.argv with
  | [] => .done s
  | arg :: argv =>
    if arg.type ≠ ngcsTypeString then .done s
    else
      match compatFind db (arg.mem.takeWhile (· ≠ 0)) with
      | none => .done s
      | some cmd => compatRun f cmd (arg :: argv) s

def ngcsCompatCmds (f : ErrorHooks σ) (db : List (SCommand σ)) : NgcsCmd σ :=
  ⟨none, ngcsCmdCompat f db⟩

def onChannel0 (log : List NgcsSent) : List NgcsSent := log.filter fun m => m.chan = 0

/-- Something was sent on channel 0 if the flag says so, and then once. -/
def Serving.InStep (c : Serving σ) : Prop := (onChannel0 c.log).length = c.sentRespFlag.toNat

lemma onChannel0_append (xs ys : List NgcsSent) :
    onChannel0 (xs ++ ys) = onChannel0 xs ++ onChannel0 ys :=
  filter_append ..

variable (ms : List OtherSent)

lemma onChannel0_others : onChannel0 (ms.map OtherSent.toNgcsSent) = [] := by
  refine filter_eq_nil_iff.mpr fun m hm => ?_
  obtain ⟨o, -, rfl⟩ := mem_map.mp hm
  simpa using o.other

variable (r : Reply)

lemma onChannel0_onChan0 : onChannel0 [r.onChan0] = [r.onChan0] := rfl

lemma onChannel0_sendOthers (s : σ) (c : Serving σ) :
    onChannel0 (c.sendOthers ms s).log = onChannel0 c.log := by
  rw [Serving.sendOthers, onChannel0_append, onChannel0_others, append_nil]

variable {c : Serving σ}

section
variable (h : c.InStep)
include h

lemma Serving.InStep.sendResponse : (ngcsSendResponse r c).2.InStep := by
  unfold ngcsSendResponse
  split
  · exact h
  next hflag =>
    have hnone : (onChannel0 c.log).length = 0 := by
      rw [h, Bool.eq_false_iff.mpr hflag]
      rfl
    rw [Serving.InStep, onChannel0_append, length_append, hnone, onChannel0_onChan0]
    rfl

lemma Serving.InStep.run (p : CmdProg σ) : (p.run c).InStep := by
  induction p generalizing c with
  | done s => exact h
  | respond r next ih => exact ih _ (h.sendResponse r)
  | other m next ih =>
    apply ih
    rw [Serving.InStep, onChannel0_sendOthers]
    exact h

lemma Serving.InStep.runUnnamed (argv : List NgcsData) (cmds : List (NgcsCmd σ)) :
    (runUnnamed argv cmds c).InStep := by
  induction cmds generalizing c with
  | nil => exact h
  | cons cmd cmds ih =>
    unfold Initng.runUnnamed
    split_ifs
    · exact h.run _
    · exact ih (h.run _)
    · exact ih h

lemma Serving.InStep.one (hflag : c.sentRespFlag) : (onChannel0 c.log).length = 1 := by
  rw [h, hflag]
  rfl

lemma Serving.InStep.one_chanSend (hflag : ¬ c.sentRespFlag) (r : Reply) :
    (onChannel0 (c.chanSend r).log).length = 1 := by
  rw [Serving.chanSend, onChannel0_append, onChannel0_onChan0, length_append, h,
    Bool.eq_false_iff.mpr hflag]
  rfl

lemma Serving.InStep.sendOthers (s : σ) : (c.sendOthers ms s).InStep := by
  rw [Serving.InStep, onChannel0_sendOthers]
  exact h

end

variable (f : ErrorHooks σ) (cmds : List (NgcsCmd σ))

lemma runCommand_answers (argv : List NgcsData)
    (name : List Byte) (h : c.InStep) :
    (onChannel0 (runCommand f cmds argv name c).log).length = 1 := by
  unfold runCommand
  split
  next cmd _ =>
    have hcall : (cmd.call argv c).InStep := h.run _
    split_ifs with hflag
    · exact hcall.one hflag
    · exact hcall.one_chanSend hflag _
  next =>
    have hall := h.runUnnamed argv cmds
    split_ifs with hflag
    · exact hall.one hflag
    · exact (hall.sendOthers _ _).one_chanSend hflag _

/-- A message on channel 0 that is no closure, as `ngcs_recvmsg` returns it, and what the memory
for the unpacked items holds. -/
structure Chan0Message where
  type : CInt
  len : CInt
  data : List Byte
  nonneg : 0 ≤ len.toInt
  sized : data.length = len.toInt.toNat
  res : ℕ → BitVec 64

section
variable (m : Chan0Message)

lemma Chan0Message.short : m.data.length < 2 ^ 31 := by
  have hlt := BitVec.toInt_lt (x := m.len)
  have hnonneg := m.nonneg
  rw [m.sized]
  omega

lemma Chan0Message.len_eq : m.len = BitVec.ofNat 32 m.data.length := by
  have hint := toInt_ofNat m.short
  have hnonneg := m.nonneg
  apply BitVec.eq_of_toInt_eq
  rw [hint, m.sized]
  omega

lemma Chan0Message.cString_isSome {y : NgcsData} {ys : List NgcsData}
    (h : ngcsUnpack m.res m.data m.len = some (some (y :: ys))) (hstr : y.type = ngcsTypeString) :
    (cString y.mem).isSome := by
  rw [m.len_eq] at h
  obtain ⟨items, hall⟩ := exists_unpacks_of_ngcsUnpack m.short h
  obtain ⟨x, xs, hxy, -, -⟩ := forall₂_cons_right_iff.mp hall
  rw [cString, hxy.string (.inr hstr), if_pos (by simp)]
  rfl

end

def Chan0Message.handle (f : ErrorHooks σ) (cmds : List (NgcsCmd σ)) (m : Chan0Message) (s : σ) :
    Option (Serving σ) :=
  handleChan0 f cmds m.res m.type m.len m.data s

lemma Chan0Message.handle_answers
    (m : Chan0Message) (s : σ) :
    ∃ c, m.handle f cmds s = some c ∧ (onChannel0 c.log).length = 1 := by
  have hstart : Serving.InStep (⟨[], false, s⟩ : Serving σ) := rfl
  have hbad : ∀ e, (onChannel0 (((⟨[], false, s⟩ : Serving σ).report f e).chanSend
      badRequest).log).length = 1 := fun e =>
    (hstart.sendOthers _ _).one_chanSend Bool.false_ne_true _
  have hnonneg := m.nonneg
  have hunpack : (ngcsUnpack m.res m.data m.len).isSome := by
    apply ngcsUnpack_isSome
    have hsized := m.sized
    omega
  obtain ⟨r, hr⟩ := Option.isSome_iff_exists.mp hunpack
  unfold Chan0Message.handle handleChan0
  dsimp only
  rw [if_neg (by omega)]
  by_cases htype : m.type ≠ ngcsTypeStruct ∨ m.len = 0
  · rw [if_pos htype]
    exact ⟨_, rfl, hbad _⟩
  rw [if_neg htype, hr]
  match r, hr with
  | none, _ => exact ⟨_, rfl, hbad _⟩
  | some [], _ => exact ⟨_, rfl, hbad _⟩
  | some (arg :: argv), hr =>
    dsimp only
    by_cases hstr : arg.type ≠ ngcsTypeString
    · rw [if_pos hstr]
      exact ⟨_, rfl, hbad _⟩
    · obtain ⟨name, hname⟩ := Option.isSome_iff_exists.mp (m.cString_isSome hr (not_not.mp hstr))
      rw [if_neg hstr, hname]
      exact ⟨_, rfl, runCommand_answers f cmds _ name hstart⟩

/-- A request arrives, or the program does something else: it may send on other channels and
register commands, as its state says. -/
inductive ServerStep (σ : Type)
  | request (m : Chan0Message)
  | meanwhile (ms : List OtherSent) (s : σ)

def ServerStep.isRequest : ServerStep σ → Bool
  | request _ => true
  | meanwhile _ _ => false

def serveSteps (f : ErrorHooks σ) (cmds : σ → List (NgcsCmd σ)) :
    List (ServerStep σ) → σ → Option (List (List NgcsSent))
  | [], _ => some []
  | .request m :: steps, s => do
    let c ← m.handle f (cmds s) s
    return c.log :: (← serveSteps f cmds steps c.world)
  | .meanwhile ms s :: steps, _ =>
    (serveSteps f cmds steps s).map fun logs => ms.map OtherSent.toNgcsSent :: logs

/-- Each request gets one answer, before the next one is handled, and nothing else is sent on
channel 0; so the answers are as many as the requests, and in their order. -/
theorem serve_answers (f : ErrorHooks σ) (cmds : σ → List (NgcsCmd σ))
    (steps : List (ServerStep σ)) (s : σ) :
    ∃ logs, serveSteps f cmds steps s = some logs ∧
      List.Forall₂ (fun step log => (onChannel0 log).length = step.isRequest.toNat) steps logs ∧
      (onChannel0 logs.flatten).length = steps.countP ServerStep.isRequest := by
  induction steps generalizing s with
  | nil => exact ⟨[], rfl, .nil, rfl⟩
  | cons step steps ih =>
    cases step with
    | request m =>
      obtain ⟨c, hc, hone⟩ := m.handle_answers f (cmds s) s
      obtain ⟨logs, hlogs, heach, hcount⟩ := ih c.world
      refine ⟨c.log :: logs, by simp [serveSteps, hc, hlogs], .cons hone heach, ?_⟩
      rw [flatten_cons, onChannel0_append, length_append, hone, hcount,
        countP_cons_of_pos rfl, Nat.add_comm]
    | meanwhile ms s' =>
      obtain ⟨logs, hlogs, heach, hcount⟩ := ih s'
      refine ⟨_ :: logs, by rw [serveSteps, hlogs]; rfl, .cons ?_ heach, ?_⟩
      · rw [onChannel0_others]
        rfl
      · rw [flatten_cons, onChannel0_append, onChannel0_others, nil_append, hcount,
          countP_cons_of_neg Bool.false_ne_true]

end

end Initng
