import Initng.Moves
import Initng.Shutdown

namespace Initng

open StepRun List Option

/-- Where `handle` stands, with the state that it found the service in; before the init hook the
hook of `Loaded` for `EVENT_IS_CHANGE` is called. -/
inductive Stage
  | idle
  | stateChange (s : Sid) (state : AState)
  | isChange (s : Sid) (called : Bool)
  | init (s : Sid)
  deriving DecidableEq

def Stage.handles (s : Sid) : Stage → Bool
  | idle => false
  | stateChange t _ => t = s
  | isChange t _ => t = s
  | init t => t = s

def Stage.locks (s : Sid) : Stage → Bool
  | idle => false
  | stateChange t _ => t = s
  | isChange t _ => t = s
  | init _ => false

def Stage.sends : Stage → Bool
  | init _ => false
  | _ => true

structure Sys where
  stage : Stage
  w : World

def afterIsChange (m : Modules) (fuel : ℕ) (s : Sid) (g : G) : Option G :=
  match getState g s with
  -- `dep_failed_to_start` is empty
  | .isFailed | .isUp => some (checkSysStateUp g)
  | .isDown => if is .restarting g s then handlerRestartRestarting m fuel g else some g
  | _ => some g

namespace Sys

def advance (m : Loaded) (env : Env) (fuel : ℕ) (c : Sys) : Option Sys :=
  match c.stage with
  | .idle => none
  | .stateChange s state =>
    let u := commonStateUnlock s c.w.g
    -- abort if the state has changed since the event was sent
    if u.1 then some ⟨.idle, { c.w with g := u.2 }⟩
    else if (u.2.svc s).lastRoughtState ≠ state.is then
      some ⟨.isChange s false, { c.w with g := commonStateLock s u.2 }⟩
    else some ⟨.init s, { c.w with g := u.2 }⟩
  | .isChange s false => some ⟨.isChange s true, { c.w with g := m.isChange s c.w.g }⟩
  | .isChange s true =>
    let u := commonStateUnlock s c.w.g
    if u.1 then some ⟨.idle, { c.w with g := u.2 }⟩
    else (afterIsChange m.toModules fuel s u.2).map fun g => ⟨.init s, { c.w with g := g }⟩
  | .init s =>
    (stateInit m.toModules fuel env (c.w.g.svc s).currentState s c.w).map fun w => ⟨.idle, w⟩

end Sys

/-- What happens in a run, in any order. -/
inductive SysStep
  | act (a : ModuleAct)
  | start (fuel : ℕ) (s : Sid)
  | startNew (fuel : ℕ) (name : String)
  | stop (s : Sid)
  | restart (fuel : ℕ) (s : Sid)
  | stopAll
  | setSysState (state : HSysState)
  | setInt (type : SEntry) (s : Sid) (value : Int)
  | clearFreed (s : Sid)
  | tick (now : Timeval)
  | take (s : Sid)
  | advance (env : Env) (fuel : ℕ)
  | interrupt (fuel : ℕ) (s : Sid)
  | alarm (env : Env) (fuel : ℕ) (s : Sid)
  | killed (env : Env) (kpid rCode : Int)
  | free (s : Sid)

/-- What a step does; one that the code does not make in this state, or that does not return,
does nothing. -/
def SysStep.perform (m : Loaded) : SysStep → Sys → Sys
  | act a, c => { c with w := { c.w with g := a.apply c.w.g } }
  | start fuel s, c =>
    { c with w := c.w.serve ((handlerStartService m.toModules fuel s c.w.g).map Prod.snd) }
  | startNew fuel name, c =>
    { c with w := c.w.serve ((handlerStartNewServiceNamed (handlerStartService m.toModules fuel)
        m.toModules name c.w.g).map Prod.snd) }
  | stop s, c => { c with w := { c.w with g := (handlerStopService m.toModules s c.w.g).2 } }
  | restart fuel s, c =>
    { c with w := c.w.serve ((handlerRestartService m.toModules fuel s c.w.g).map Prod.snd) }
  | stopAll, c => { c with w := { c.w with g := handlerStopAll m.toModules c.w.g } }
  | setSysState state, c =>
    -- the system is starting or up in front of the main loop for the first time
    if state ≠ .stateNull ∧
        (c.w.g.sysState = .stateNull ∨ state ≠ .stateStarting ∧ state ≠ .stateUp) then
      { c with w := { c.w with g := { c.w.g with sysState := state } } }
    else c
  | setInt type s value, c => { c with w := c.w.setInt type s value }
  | clearFreed s, c => { c with w := { c.w with processes := c.w.processes.clearFreed s } }
  | tick now, c =>
    { c with w := { c.w with g := { c.w.g with clock := now }, now := now.tvSec } }
  | take s, c =>
    if c.stage = .idle ∧ s ∈ c.w.g.interrupt ∧ s < c.w.g.brk then
      ⟨.stateChange s (c.w.g.svc s).currentState,
        { c.w with g := commonStateLock s (clearInterrupt s c.w.g) }⟩
    else c
  | advance env fuel, c => (c.advance m env fuel).getD c
  | interrupt fuel s, c =>
    if c.stage = .idle ∧ s ∈ c.w.g.activeDb then
      ((stateInterrupt m.toModules fuel (c.w.g.svc s).currentState s c.w).map
        fun w => { c with w := w }).getD c
    else c
  | alarm env fuel s, c =>
    if c.stage = .idle ∧ s ∈ c.w.g.activeDb ∧ (c.w.g.svc s).alarm ≠ 0 ∧
        c.w.now ≥ (c.w.g.svc s).alarm then
      ((stateAlarm m.toModules fuel env (c.w.g.svc s).currentState s
        { c.w with g := c.w.g.modify s fun a => { a with alarm := 0 } }).map
        fun w => { c with w := w }).getD c
    else c
  | killed env kpid rCode, c =>
    if c.stage = .idle then { c with w := c.w.killedByPid env kpid rCode } else c
  | free s, c =>
    -- `handle` does not run for the service
    if s < c.w.g.brk ∧ c.stage.handles s = false then { c with w := c.w.free s } else c

def SysStep.advances : SysStep → Bool
  | advance _ _ => true
  | _ => false

/-- Nothing comes between the last unlock and the init hook. -/
def SysStep.apply (m : Loaded) (step : SysStep) (c : Sys) : Sys :=
  if c.stage.sends ∨ step.advances then step.perform m c else c

section
variable (m : Loaded) {scope : Scope} {t : Sid} {w w' : World}

/-- The processes of all services but one are left, and these are only moved. -/
def Besides (t : Sid) (w w' : World) : Prop :=
  w'.processes.Apart ∧ ∀ s, s ≠ t → Moves s w.g w'.g ∧
    ∀ type, w'.processes.actives type s = w.processes.actives type s

lemma Works.besides (h : Works m.toModules Meddled scope t w w') (hapart : w.processes.Apart) :
    Besides t w w' := by
  induction h with
  | refl w => exact ⟨hapart, fun s _ => ⟨.refl s w.g, fun _ => rfl⟩⟩
  | trans _ _ ih ih' =>
    obtain ⟨hmid, hbeside⟩ := ih hapart
    obtain ⟨hend, hbeside'⟩ := ih' hmid
    refine ⟨hend, fun s hs => ?_⟩
    exact ⟨(hbeside s hs).1.trans (hbeside' s hs).1,
      fun type => ((hbeside' s hs).2 type).trans ((hbeside s hs).2 type)⟩
  | asked h => exact ⟨hapart, fun s _ => ⟨.asked m h s, fun _ => rfl⟩⟩
  | mark w hst => exact ⟨hapart, fun s hs => ⟨.steady (.mark_ne _ hs), fun _ => rfl⟩⟩
  | alarm w alarm nextAlarm =>
    exact ⟨hapart, fun s hs => ⟨.steady (.modify_ne (f := fun a => { a with alarm := alarm }) hs),
      fun _ => rfl⟩⟩
  | setInt w type value => exact ⟨hapart, fun s _ => ⟨.set type, fun _ => rfl⟩⟩
  | @free w p hp htype =>
    refine ⟨hapart.free, fun s hs => ⟨.refl s _, fun type => ?_⟩⟩
    refine ProcessDb.actives_free_ne fun hin => hs ?_
    exact hapart.owner s t p (ProcessDb.mem_actives.mp hin).1 hp
  | record hp hf =>
    exact ⟨hapart.record _, fun s _ => ⟨.refl s _, fun _ => ProcessDb.actives_record hf⟩⟩
  | launch w env htype =>
    obtain ⟨hend, hcases⟩ := ProcessDb.executeLaunch_cases hapart _ _ env.launch
    refine ⟨hend, fun s hs => ⟨.refl s w.g, fun type' => ?_⟩⟩
    rcases hcases with ⟨-, hsame⟩ | ⟨-, -, hadd⟩
    · exact hsame type' s
    · refine (hadd type' s).trans ?_
      rw [if_neg fun h => hs h.1, append_nil]
  | adopt w htype =>
    refine ⟨hapart.register t _, fun s hs => ⟨.refl s w.g, fun type => ?_⟩⟩
    refine (ProcessDb.actives_register hapart _).trans ?_
    rw [if_neg fun h => hs h.1, append_nil]
  | begins w call h => exact ⟨hapart, fun s _ => ⟨.refl s w.g, fun _ => rfl⟩⟩

lemma OwnLeft.refl (t : Sid) (g : G) : OwnLeft t g g := (Moves.refl t g).ownLeft

lemma OwnLeft.alarm (g : G) (alarm : Int) :
    OwnLeft t g (g.modify t fun a => { a with alarm := alarm }) := by
  refine ⟨le_rfl, id, .inl, id, ?_, fun _ => ?_, fun _ _ => ?_⟩ <;> rw [G.modify_svc_self]
  exact id

lemma Works.ownLeft (h : Works m.toModules Meddled scope t w w') : OwnLeft t w.g w'.g := by
  induction h with
  | trans _ _ ih ih' => exact ih.trans ih'
  | asked h => exact (Moves.asked m h t).ownLeft
  | mark w hst => exact .mark w.g _
  | alarm w alarm nextAlarm => exact .alarm w.g alarm
  | setInt w type value => exact (Moves.set type).ownLeft
  | _ => exact .refl t _

lemma Works.meets {A : Option Stype → AState → Prop} (hA : Turnable A)
    (h : Works m.toModules Meddled scope t w w') (ht : t < w.g.brk) (hknown : (w.g.svc t).Known)
    (hmarks : ∀ st ∈ scope.marks, A (w.g.svc t).type st) (hm : Meets t A w.g) :
    Meets t A w'.g := by
  induction h with
  | trans h _ ih ih' =>
    have hleft := h.ownLeft m
    have htype := hleft.known ht hknown
    refine ih' (lt_of_lt_of_le ht hleft.brk) ?_ ?_ (ih ht hknown hmarks hm)
    · rwa [ActiveType.Known, htype]
    · rwa [htype]
  | asked h => exact hm.moves hA (.asked m h t)
  | mark w hst => exact hm.mark (hmarks _ hst)
  | alarm w alarm nextAlarm =>
    intro st hst
    rw [G.modify_svc_self] at hst ⊢
    exact hm st hst
  | setInt w type value => exact hm.moves hA (.set type)
  | _ => exact hm

lemma Works.actives (h : Works m.toModules Meddled scope t w w') (hapart : w.processes.Apart)
    {type : Ptype} (htype : type ∉ scope.types) :
    w'.processes.actives type t = w.processes.actives type t := by
  induction h with
  | trans h _ ih ih' => exact (ih' (h.besides m hapart).1).trans (ih hapart)
  | @free w p hp hpt =>
    refine ProcessDb.actives_free_ne fun hin => htype ?_
    rwa [← (ProcessDb.mem_actives.mp hin).2.2]
  | record hp hf => exact ProcessDb.actives_record hf
  | @launch w env type' hlaunch =>
    have hne : ¬ (t = t ∧ type' = type) := fun h => htype (h.2 ▸ hlaunch)
    rcases (ProcessDb.executeLaunch_cases hapart _ _ env.launch).2 with ⟨-, hsame⟩ | ⟨-, -, hadd⟩
    · exact hsame type t
    · refine (hadd type t).trans ?_
      rw [if_neg hne, append_nil]
  | @adopt w process hpt =>
    have hne : ¬ (t = t ∧ process.pst = .pActive ∧ process.pt = type) := fun h =>
      htype (h.2.2 ▸ hpt)
    refine (ProcessDb.actives_register hapart _).trans ?_
    rw [if_neg hne, append_nil]
  | _ => rfl

end

structure Beside (s : Sid) (c c' : Sys) : Prop where
  handles : c'.stage.handles s = c.stage.handles s
  locks : c'.stage.locks s = c.stage.locks s
  stage : ∀ state, c'.stage = .stateChange s state → c.stage = .stateChange s state
  moves : Moves s c.w.g c'.w.g
  actives : ∀ type, c'.w.processes.actives type s = c.w.processes.actives type s

def unlockedInto (s : Sid) (st : AState) (g : G) : G :=
  setInterrupt s (g.modify s fun a => { a with stateLock := 0 }.enter st g.clock)

def World.killTarget (env : Env) (kpid : Int) (w : World) : Option (Sid × Prid) :=
  if kpid ≤ 1 ∨ env.handleKilled then none
  else
    ({ w.processes with services := w.g.activeDb }.findByPid kpid).bind fun service =>
      (w.processes.getByPid kpid service).map fun process => (service, process)

inductive Calls (m : Loaded) (step : SysStep) (s : Sid) (c : Sys) : World → Prop
  | init {env : Env} {fuel : ℕ} {w' : World} (hstage : c.stage = .init s)
    (h : stateInit m.toModules fuel env (c.w.g.svc s).currentState s c.w = some w') :
    Calls m step s c w'
  | interrupt {fuel : ℕ} {w' : World} (hidle : c.stage = .idle) (hs : s ∈ c.w.g.activeDb)
    (h : stateInterrupt m.toModules fuel (c.w.g.svc s).currentState s c.w = some w') :
    Calls m step s c w'
  | alarm {env : Env} {fuel : ℕ} {w' : World} (hstep : step = .alarm env fuel s)
    (hidle : c.stage = .idle) (hs : s ∈ c.w.g.activeDb) (hset : (c.w.g.svc s).alarm ≠ 0)
    (hdue : c.w.now ≥ (c.w.g.svc s).alarm)
    (h : stateAlarm m.toModules fuel env (c.w.g.svc s).currentState s
      { c.w with g := c.w.g.modify s fun a => { a with alarm := 0 } } = some w') :
    Calls m step s c w'
  | killed {env : Env} {kpid rCode : Int} {p : Prid} (hstep : step = .killed env kpid rCode)
    (hidle : c.stage = .idle) (hs : s ∈ c.w.g.activeDb)
    (hget : c.w.processes.getByPid kpid s = some p)
    (htarget : c.w.killTarget env kpid = some (s, p)) :
    Calls m step s c (killHandler env (c.w.processes.process p).pt s p
      { c.w with processes := c.w.processes.modify p (ProcessH.died rCode) })

inductive StepFor (m : Loaded) (step : SysStep) (s : Sid) (c : Sys) : Sys → Prop
  | beside {c' : Sys} (h : Beside s c c') : StepFor m step s c c'
  | take (hidle : c.stage = .idle) (hlist : s ∈ c.w.g.interrupt) (hs : s < c.w.g.brk) :
    StepFor m step s c ⟨.stateChange s (c.w.g.svc s).currentState,
      { c.w with g := commonStateLock s (clearInterrupt s c.w.g) }⟩
  | abort {st : AState} (hlock : c.stage.locks s = true)
    (hnext : (c.w.g.svc s).nextState = some st) :
    StepFor m step s c ⟨.idle, { c.w with g := unlockedInto s st c.w.g }⟩
  | settle {g : G} (hlock : c.stage.locks s = true) (hnext : (c.w.g.svc s).nextState = none)
    (hmoves : Moves s (unlockedAt s c.w.g) g) : StepFor m step s c ⟨.init s, { c.w with g := g }⟩
  | called {w' : World} (h : Calls m step s c w') : StepFor m step s c ⟨.idle, w'⟩
  | free (hfree : c.stage.handles s = false) : StepFor m step s c { c with w := c.w.free s }

section
variable (m : Loaded) {s t : Sid} {c c' : Sys} {w' : World}

lemma Beside.of_moves {g' : G} (h : Moves s c.w.g g') :
    Beside s c { c with w := { c.w with g := g' } } := ⟨rfl, rfl, fun _ => id, h, fun _ => rfl⟩

lemma Beside.refl (s : Sid) (c : Sys) : Beside s c c :=
  ⟨rfl, rfl, fun _ => id, .refl s c.w.g, fun _ => rfl⟩

lemma Beside.of_idle (hidle : c.stage = .idle) (hmoves : Moves s c.w.g w'.g)
    (hactives : ∀ type, w'.processes.actives type s = c.w.processes.actives type s) :
    Beside s c ⟨.idle, w'⟩ :=
  ⟨by rw [hidle], by rw [hidle], fun _ hstage => (by cases hstage), hmoves, hactives⟩

lemma Hooked.besides {state : AState} {w : World}
    (h : Hooked m.toModules Meddled state t w w') (hapart : w.processes.Apart) :
    Besides t w w' := by
  rcases h with ⟨-, h⟩ | ⟨-, h⟩ | rfl
  · exact h.besides m hapart
  · exact h.besides m hapart
  · exact ⟨hapart, fun s _ => ⟨.refl s _, fun _ => rfl⟩⟩

lemma Handled.besides {type : Ptype} {p : Prid} {w : World}
    (h : Handled m.toModules Meddled type p t w w') (hp : p ∈ w.processes.processes t)
    (hapart : w.processes.Apart) : Besides t w w' := by
  rcases h with ⟨-, h⟩ | ⟨-, h⟩ | ⟨-, rfl⟩
  · exact h.besides m hapart
  · exact h.besides m hapart
  · have hfree : Works m.toModules Meddled ⟨[], [(w.processes.process p).pt], false⟩ t w
        (w.freeProcess p) := .free hp (.head _)
    exact hfree.besides m hapart

end

/-- A service of the type may show this state: one of its own module, or a foreign one. -/
def Kind (type : Option Stype) (st : AState) : Prop :=
  st.foreignTo type = true ∨ ∃ ty, st.owner = some ty ∧ type = some ty

lemma turnings_owner : ∀ f ∈ turnings, f.up.owner = some f.type ∧
    f.startMarked.owner = some f.type ∧ f.down.owner = some f.type ∧
    f.stopMarked.owner = some f.type := by decide

lemma kind_turnable : Turnable Kind where
  foreign _ _ h := .inl h
  up f hf _ := .inr ⟨f.type, (turnings_owner f hf).1, rfl⟩
  startMarked f hf := .inr ⟨f.type, (turnings_owner f hf).2.1, rfl⟩
  down f hf _ := .inr ⟨f.type, (turnings_owner f hf).2.2.1, rfl⟩
  stopMarked f hf := .inr ⟨f.type, (turnings_owner f hf).2.2.2, rfl⟩

def Owned (s : Sid) (w : World) : Prop :=
  ∀ type, w.processes.actives type s ≠ [] → s < w.g.brk ∧
    (type ∈ serviceScope.types → (w.g.svc s).type = some ⟨"service"⟩) ∧
    (type ∈ daemonScope.types → (w.g.svc s).type = some ⟨"daemon"⟩)

/-- The invariant of one service: `handle` holds the only lock, states and processes belong to
the type. -/
structure OkFor (c : Sys) (s : Sid) : Prop where
  locked : (c.w.g.svc s).stateLock = if c.stage.locks s then 1 else 0
  settled : Settled (c.w.g.svc s)
  handled : c.stage.handles s = true → s < c.w.g.brk
  state : ∀ state, c.stage = .stateChange s state → (c.w.g.svc s).currentState = state
  registered : s ∈ c.w.g.activeDb → s < c.w.g.brk
  kinds : Meets s Kind c.w.g
  owned : Owned s c.w

structure Sys.Ok (c : Sys) : Prop where
  apart : c.w.processes.Apart
  each : ∀ s, OkFor c s

inductive Advanced (m : Loaded) (t : Sid) (c : Sys) : Sys → Prop
  | abort {st : AState} (hlock : c.stage.locks t = true)
    (hnext : (c.w.g.svc t).nextState = some st) :
    Advanced m t c ⟨.idle, { c.w with g := unlockedInto t st c.w.g }⟩
  | announce {state : AState} (hstage : c.stage = .stateChange t state)
    (hnext : (c.w.g.svc t).nextState = none)
    (hrough : (c.w.g.svc t).lastRoughtState ≠ state.is) :
    Advanced m t c ⟨.isChange t false, { c.w with g := commonStateLock t (unlockedAt t c.w.g) }⟩
  | quiet {state : AState} (hstage : c.stage = .stateChange t state)
    (hnext : (c.w.g.svc t).nextState = none)
    (hrough : (c.w.g.svc t).lastRoughtState = state.is) :
    Advanced m t c ⟨.init t, { c.w with g := unlockedAt t c.w.g }⟩
  | check (hstage : c.stage = .isChange t false) :
    Advanced m t c ⟨.isChange t true, { c.w with g := m.isChange t c.w.g }⟩
  | settle {fuel : ℕ} {g : G} (hstage : c.stage = .isChange t true)
    (hnext : (c.w.g.svc t).nextState = none)
    (hafter : afterIsChange m.toModules fuel t (unlockedAt t c.w.g) = some g) :
    Advanced m t c ⟨.init t, { c.w with g := g }⟩
  | init {env : Env} {fuel : ℕ} {w' : World} (hstage : c.stage = .init t)
    (h : stateInit m.toModules fuel env (c.w.g.svc t).currentState t c.w = some w') :
    Advanced m t c ⟨.idle, w'⟩

section
variable (m : Loaded) {step : SysStep} {s t : Sid} {c c' : Sys} {g g' : G} {w' : World}

lemma OkFor.unlock (h : OkFor c t) (hlock : c.stage.locks t = true) :
    (∃ st, (c.w.g.svc t).nextState = some st ∧
      commonStateUnlock t c.w.g = (true, unlockedInto t st c.w.g)) ∨
    ((c.w.g.svc t).nextState = none ∧ commonStateUnlock t c.w.g = (false, unlockedAt t c.w.g)) := by
  have hone : (c.w.g.svc t).stateLock ≤ 1 := by
    rw [h.locked, if_pos hlock]
  cases hnext : (c.w.g.svc t).nextState with
  | some st => exact .inl ⟨st, rfl, commonStateUnlock_some c.w.g t st hone hnext⟩
  | none => exact .inr ⟨rfl, commonStateUnlock_none c.w.g t hone hnext⟩

variable {env : Env} {fuel : ℕ} {stage : Stage} {w : World} {kpid : Int}

lemma Sys.advanced (h : c.Ok) (hadv : c.advance m env fuel = some c') :
    ∃ t, c.stage.handles t = true ∧ Advanced m t c c' := by
  obtain ⟨stage, w⟩ := c
  cases stage with
  | idle => simp [Sys.advance] at hadv
  | stateChange t state =>
    refine ⟨t, by simp [Stage.handles], ?_⟩
    rcases (h.each t).unlock (by simp [Stage.locks]) with ⟨st, hnext, hun⟩ | ⟨hnext, hun⟩
    · simp only [Sys.advance, hun, if_true, some.injEq] at hadv
      subst hadv
      exact .abort (by simp [Stage.locks]) hnext
    · have hlast : ((unlockedAt t w.g).svc t).lastRoughtState = (w.g.svc t).lastRoughtState := by
        simp [unlockedAt]
      simp only [Sys.advance, hun, Bool.false_eq_true, if_false, hlast] at hadv
      split at hadv
      next hrough =>
        cases hadv
        exact .announce rfl hnext hrough
      next hrough =>
        cases hadv
        exact .quiet rfl hnext (not_not.mp hrough)
  | isChange t called =>
    refine ⟨t, by simp [Stage.handles], ?_⟩
    cases called with
    | false =>
      cases hadv
      exact .check rfl
    | true =>
      rcases (h.each t).unlock (by simp [Stage.locks]) with ⟨st, hnext, hun⟩ | ⟨hnext, hun⟩
      · simp only [Sys.advance, hun, if_true, some.injEq] at hadv
        subst hadv
        exact .abort (by simp [Stage.locks]) hnext
      · simp only [Sys.advance, hun, Bool.false_eq_true, if_false] at hadv
        obtain ⟨g, hafter, rfl⟩ := map_eq_some_iff.mp hadv
        exact .settle rfl hnext hafter
  | init t =>
    refine ⟨t, by simp [Stage.handles], ?_⟩
    obtain ⟨w', hw', rfl⟩ := map_eq_some_iff.mp hadv
    exact .init rfl hw'

lemma steady_unlockedAt (hst : s ≠ t) : Steady s g (unlockedAt t g) := .modify_ne hst

lemma steady_commonStateLock (hst : s ≠ t) : Steady s g (commonStateLock t g) := .modify_ne hst

lemma afterIsChange_cases (h : afterIsChange m.toModules fuel t g = some g') :
    g' = checkSysStateUp g ∨ Asked m.toModules Meddled g g' := by
  unfold afterIsChange at h
  split at h
  · exact .inl (some.inj h).symm
  · exact .inl (some.inj h).symm
  · split at h
    · exact .inr (asked_handlerRestartRestarting m.hooksDo h)
    · cases h
      exact .inr (.refl g)
  · cases h
    exact .inr (.refl g)

lemma moves_afterIsChange (h : afterIsChange m.toModules fuel t g = some g') : Moves s g g' := by
  rcases afterIsChange_cases m h with rfl | hasked
  · refine .steady (.of_svc ?_ ?_ ?_ ?_) <;> simp
  · exact .asked m hasked s

lemma Stage.handles_of_locks (h : stage.locks t = true) : stage.handles t = true := by
  cases stage <;> simp_all [locks, handles]

lemma Stage.locks_of_not_handles (h : stage.handles t = false) : stage.locks t = false := by
  cases stage <;> simp_all [locks, handles]

lemma Stage.handles_ne (h : stage.handles t = true) (hst : s ≠ t) : stage.handles s = false := by
  cases stage <;> simp_all [handles, Ne.symm hst]

lemma Beside.of_handles (hold : c.stage.handles t = true)
    (hnew : c'.stage = .idle ∨ c'.stage.handles t = true) (hst : s ≠ t)
    (hmoves : Moves s c.w.g c'.w.g)
    (hactives : ∀ type, c'.w.processes.actives type s = c.w.processes.actives type s) :
    Beside s c c' := by
  have hs := Stage.handles_ne hold hst
  have hs' : c'.stage.handles s = false := by
    rcases hnew with hidle | hnew
    · rw [hidle]
      rfl
    · exact Stage.handles_ne hnew hst
  refine ⟨hs'.trans hs.symm, ?_, fun state hstage => ?_, hmoves, hactives⟩
  · rw [Stage.locks_of_not_handles hs, Stage.locks_of_not_handles hs']
  · simp [hstage, Stage.handles] at hs'

lemma Advanced.stepFor (h : c.Ok) (hlock : c.stage.handles t = true) (hadv : Advanced m t c c')
    (s : Sid) : StepFor m step s c c' := by
  by_cases hst : s = t
  · subst hst
    cases hadv with
    | abort hlock hnext => exact .abort hlock hnext
    | announce hstage hnext hrough =>
      have hlock : c.stage.locks s = true := by simp [hstage, Stage.locks]
      have hone : (c.w.g.svc s).stateLock = 1 := by rw [(h.each s).locked, if_pos hlock]
      refine .beside ⟨?_, ?_, fun _ hstage => (by cases hstage),
        .steady ⟨le_rfl, id, .inl, Iff.rfl, ?_, ?_, ?_, ?_, ?_, ?_⟩, fun _ => rfl⟩
      · simp [hstage, Stage.handles]
      · simp [hstage, Stage.locks]
      all_goals simp [commonStateLock, unlockedAt, hone]
    | quiet hstage hnext hrough =>
      exact .settle (by simp [hstage, Stage.locks]) hnext (.refl s _)
    | check hstage =>
      refine .beside ⟨?_, ?_, fun _ hstage => (by cases hstage),
        .meddled (m.isChange_meddled s c.w.g), fun _ => rfl⟩
      · simp [hstage, Stage.handles]
      · simp [hstage, Stage.locks]
    | settle hstage hnext hafter =>
      exact .settle (by simp [hstage, Stage.locks]) hnext (moves_afterIsChange m hafter)
    | init hstage hinit => exact .called (.init hstage hinit)
  · have hstage : c'.stage = .idle ∨ c'.stage.handles t = true := by
      cases hadv <;> simp [Stage.handles]
    have hbeside : Moves s c.w.g c'.w.g ∧
        ∀ type, c'.w.processes.actives type s = c.w.processes.actives type s := by
      cases hadv with
      | abort _ hnext =>
        refine ⟨.steady (.of_svc ?_ ?_ ?_ ?_), fun _ => rfl⟩
        all_goals simp [unlockedInto, mem_setInterrupt, hst]
      | announce hstage hnext hrough =>
        exact ⟨(Moves.steady (steady_unlockedAt hst)).trans (.steady (steady_commonStateLock hst)),
          fun _ => rfl⟩
      | quiet hstage hnext hrough => exact ⟨.steady (steady_unlockedAt hst), fun _ => rfl⟩
      | check hstage => exact ⟨.meddled (m.isChange_meddled t c.w.g), fun _ => rfl⟩
      | settle hstage hnext hafter =>
        exact ⟨(Moves.steady (steady_unlockedAt hst)).trans (moves_afterIsChange m hafter),
          fun _ => rfl⟩
      | init hstage hinit =>
        exact ((hooked_stateInit (R := Meddled) m.hooksDo _ _ hinit).besides m h.apart).2 s hst
    exact .beside (.of_handles hlock hstage hst hbeside.1 hbeside.2)

lemma Advanced.apart (h : c.Ok) (hadv : Advanced m t c c') : c'.w.processes.Apart := by
  cases hadv with
  | init hstage hinit =>
    exact ((hooked_stateInit (R := Meddled) m.hooksDo _ _ hinit).besides m h.apart).1
  | _ => exact h.apart

lemma Hooked.stepsFor (h : c.Ok) (hidle : c.stage = .idle) {state : AState} (hm : ∀ s, s ≠ t →
      Moves s c.w.g g) (hhooked : Hooked m.toModules Meddled state t { c.w with g := g } w')
    (hown : StepFor m step t c ⟨.idle, w'⟩) :
    w'.processes.Apart ∧ ∀ s, StepFor m step s c ⟨.idle, w'⟩ := by
  obtain ⟨hapart, hbeside⟩ := hhooked.besides m h.apart
  refine ⟨hapart, fun s => ?_⟩
  by_cases hst : s = t
  · exact hst ▸ hown
  · obtain ⟨hmoves, hactives⟩ := hbeside s hst
    exact .beside (.of_idle hidle ((hm s hst).trans hmoves) hactives)

lemma dead_pt (p : Prid) (rCode : Int) (w : World) :
    ((w.dead p rCode).processes.process p).pt = (w.processes.process p).pt := by
  simp [ProcessH.died]

lemma dead_actives {p : Prid} {rCode : Int} {w : World} {type : Ptype} {s : Sid} :
    (w.dead p rCode).processes.actives type s = w.processes.actives type s :=
  ProcessDb.actives_record fun _ => ⟨rfl, rfl⟩

lemma killedByPid_cases (w : World) (env : Env) (kpid rCode : Int) :
    w.killedByPid env kpid rCode = w ∨ ∃ t p, t ∈ w.g.activeDb ∧
      w.processes.getByPid kpid t = some p ∧
      (w.killedByPid env kpid rCode = w.dead p rCode ∨
        w.killTarget env kpid = some (t, p) ∧ w.killedByPid env kpid rCode =
          killHandler env (w.processes.process p).pt t p (w.dead p rCode)) := by
  unfold World.killedByPid
  split
  · exact .inl rfl
  next hpid =>
    split
    · exact .inl rfl
    next t hfind =>
      have ht : t ∈ w.g.activeDb := mem_of_find?_eq_some hfind
      split
      · exact .inl rfl
      next p hget =>
        refine .inr ⟨t, p, ht, hget, ?_⟩
        dsimp only
        rw [dead_pt]
        split
        · exact .inl rfl
        next hkilled => exact .inr ⟨by simp [World.killTarget, hpid, hkilled, hfind, hget], rfl⟩

lemma handled_died (env : Env) {p : Prid} (rCode : Int)
    (hget : w.processes.getByPid kpid t = some p) :
    Handled m.toModules Meddled (w.processes.process p).pt p t (w.dead p rCode)
      (killHandler env (w.processes.process p).pt t p (w.dead p rCode)) := by
  have hhandled := handled_killHandler (m := m.toModules) (R := Meddled) (s := t)
    (w := w.dead p rCode) env (mem_of_find?_eq_some hget)
  rwa [dead_pt] at hhandled

lemma stepsFor_killed (h : c.Ok) (hidle : c.stage = .idle) {rCode : Int}
    (hstep : step = .killed env kpid rCode) :
    (c.w.killedByPid env kpid rCode).processes.Apart ∧
      ∀ s, StepFor m step s c ⟨.idle, c.w.killedByPid env kpid rCode⟩ := by
  have hsame (db : ProcessDb) (hactives : ∀ type s, db.actives type s =
      c.w.processes.actives type s) (s : Sid) :
      StepFor m step s c ⟨.idle, { c.w with processes := db }⟩ :=
    .beside (.of_idle hidle (.refl s _) fun type => hactives type s)
  rcases killedByPid_cases c.w env kpid rCode with he | ⟨t, p, ht, hget, he | ⟨htarget, he⟩⟩
  · rw [he]
    exact ⟨h.apart, hsame c.w.processes fun _ _ => rfl⟩
  · rw [he]
    exact ⟨h.apart.record _, hsame _ fun _ _ => dead_actives⟩
  · rw [he]
    obtain ⟨hapart, hbeside⟩ := (handled_died m env rCode hget).besides m
      (mem_of_find?_eq_some hget) (h.apart.record _)
    refine ⟨hapart, fun s => ?_⟩
    by_cases hst : s = t
    · subst hst
      exact .called (.killed hstep hidle ht hget htarget)
    · obtain ⟨hmoves, hactives⟩ := hbeside s hst
      exact .beside (.of_idle hidle hmoves fun type =>
        (hactives type).trans (ProcessDb.actives_record fun _ => ⟨rfl, rfl⟩))

lemma stepsFor_free (h : c.Ok) (hfree : c.stage.handles t = false) :
    (c.w.free t).processes.Apart ∧ ∀ s, StepFor m step s c { c with w := c.w.free t } := by
  have hsub (s : Sid) : ((c.w.free t).processes.processes s).Sublist
      (c.w.processes.processes s) := by
    by_cases hst : s = t
    · subst hst
      simp [World.free]
    · simp [World.free, hst]
  refine ⟨h.apart.sublists rfl hsub, fun s => ?_⟩
  by_cases hst : s = t
  · subst hst
    exact .free hfree
  · refine .beside ⟨rfl, rfl, fun _ => id, .steady (.of_svc ?_ ?_ ?_ (free_svc_ne hst)),
      fun type => ?_⟩
    · simp [World.free, activeDbFree, commonMarkService_brk]
    · simp [World.free, activeDbFree, commonMarkService_activeDb, hst]
    · simp [World.free, activeDbFree, hst, mem_commonMarkService_interrupt]
    · have hlist : (c.w.free t).processes.processes s = c.w.processes.processes s := by
        simp [World.free, hst]
      rw [ProcessDb.actives, hlist]
      rfl

lemma stepsFor_take (hidle : c.stage = .idle) (hlist : t ∈ c.w.g.interrupt)
    (hlt : t < c.w.g.brk) (s : Sid) :
    StepFor m (.take t) s c ⟨.stateChange t (c.w.g.svc t).currentState,
      { c.w with g := commonStateLock t (clearInterrupt t c.w.g) }⟩ := by
  by_cases hst : s = t
  · subst hst
    exact .take hidle hlist hlt
  · have hclear : Steady s c.w.g (clearInterrupt t c.w.g) := by
      refine .of_svc le_rfl Iff.rfl ?_ rfl
      simp [hst]
    refine .beside ⟨?_, ?_, fun _ hstage => ?_,
      (Moves.steady hclear).trans (.steady (steady_commonStateLock hst)), fun _ => rfl⟩
    · simp [hidle, Stage.handles, Ne.symm hst]
    · simp [hidle, Stage.locks, Ne.symm hst]
    · cases hstage
      exact absurd rfl hst

inductive Performed (m : Loaded) (c : Sys) : SysStep → Sys → Prop
  | same (step : SysStep) : Performed m c step c
  | act (a : ModuleAct) : Performed m c (.act a) { c with w := { c.w with g := a.apply c.w.g } }
  | asked {step : SysStep} {g' : G} (h : Asked m.toModules Meddled c.w.g g') :
    Performed m c step { c with w := { c.w with g := g' } }
  | stopAll : Performed m c .stopAll
      { c with w := { c.w with g := handlerStopAll m.toModules c.w.g } }
  | setSysState {state : HSysState} (h : state ≠ .stateNull ∧
      (c.w.g.sysState = .stateNull ∨ state ≠ .stateStarting ∧ state ≠ .stateUp)) :
    Performed m c (.setSysState state)
      { c with w := { c.w with g := { c.w.g with sysState := state } } }
  | setInt (type : SEntry) (s : Sid) (value : Int) :
    Performed m c (.setInt type s value) { c with w := c.w.setInt type s value }
  | clearFreed (s : Sid) : Performed m c (.clearFreed s)
      { c with w := { c.w with processes := c.w.processes.clearFreed s } }
  | tick (now : Timeval) : Performed m c (.tick now)
      { c with w := { c.w with g := { c.w.g with clock := now }, now := now.tvSec } }
  | take {s : Sid} (hidle : c.stage = .idle) (hlist : s ∈ c.w.g.interrupt) (hs : s < c.w.g.brk) :
    Performed m c (.take s) ⟨.stateChange s (c.w.g.svc s).currentState,
      { c.w with g := commonStateLock s (clearInterrupt s c.w.g) }⟩
  | advance {env : Env} {fuel : ℕ} {t : Sid} {c' : Sys} (hhandles : c.stage.handles t = true)
    (h : Advanced m t c c') : Performed m c (.advance env fuel) c'
  | interrupt {fuel : ℕ} {s : Sid} {w' : World} (hidle : c.stage = .idle)
    (hs : s ∈ c.w.g.activeDb)
    (h : stateInterrupt m.toModules fuel (c.w.g.svc s).currentState s c.w = some w') :
    Performed m c (.interrupt fuel s) ⟨.idle, w'⟩
  | alarm {env : Env} {fuel : ℕ} {s : Sid} {w' : World} (hidle : c.stage = .idle)
    (hs : s ∈ c.w.g.activeDb) (hset : (c.w.g.svc s).alarm ≠ 0)
    (hdue : c.w.now ≥ (c.w.g.svc s).alarm)
    (h : stateAlarm m.toModules fuel env (c.w.g.svc s).currentState s
      { c.w with g := c.w.g.modify s fun a => { a with alarm := 0 } } = some w') :
    Performed m c (.alarm env fuel s) ⟨.idle, w'⟩
  | killed {env : Env} {kpid rCode : Int} (hidle : c.stage = .idle) :
    Performed m c (.killed env kpid rCode) ⟨.idle, c.w.killedByPid env kpid rCode⟩
  | free {s : Sid} (hfree : c.stage.handles s = false) :
    Performed m c (.free s) { c with w := c.w.free s }

lemma Performed.serve {β : Type} {r : Option (β × G)}
    (h : ∀ x, r = some x → Asked m.toModules Meddled c.w.g x.2) :
    Performed m c step { c with w := c.w.serve (r.map Prod.snd) } := by
  cases r with
  | none => exact .same step
  | some x => exact .asked (h x rfl)

lemma Performed.hook {r : Option World}
    (h : ∀ w', r = some w' → Performed m ⟨.idle, w⟩ step ⟨.idle, w'⟩) :
    Performed m ⟨.idle, w⟩ step ((r.map fun w' => ⟨.idle, w'⟩).getD ⟨.idle, w⟩) := by
  cases r with
  | none => exact .same step
  | some w' => exact h w' rfl

lemma SysStep.performed (h : c.Ok) (step : SysStep) : Performed m c step (step.apply m c) := by
  rw [SysStep.apply]
  split
  swap
  · exact .same step
  obtain ⟨stage, w⟩ := c
  cases step with
  | act a => exact .act a
  | start fuel t => exact .serve m fun _ hr => asks_handlerStartService m.hooksDo fuel _ _ _ hr
  | startNew fuel name =>
    exact .serve m fun _ hr => asked_handlerStartNewServiceNamed m.hooksDo
      (asks_handlerStartService m.hooksDo fuel) hr
  | stop t => exact .asked (asked_handlerStopService t w.g)
  | restart fuel t => exact .serve m fun _ hr => asks_handlerRestartService fuel _ _ _ hr
  | stopAll => exact .stopAll
  | setInt type t value => exact .setInt type t value
  | clearFreed t => exact .clearFreed t
  | tick now => exact .tick now
  | advance env fuel =>
    rw [SysStep.perform]
    cases hadv : Sys.advance m env fuel ⟨stage, w⟩ with
    | none => exact .same _
    | some c' =>
      obtain ⟨t, hhandles, hc'⟩ := Sys.advanced m h hadv
      exact .advance hhandles hc'
  -- the steps that take a condition
  | _ =>
    rw [SysStep.perform]
    split
    swap
    · exact .same _
    next ht => first
      | exact .setSysState ht
      | exact .take ht.1 ht.2.1 ht.2.2
      | exact .free ht.2
      | obtain rfl : stage = .idle := ht
        exact .killed rfl
      | obtain ⟨rfl, hs, hset, hdue⟩ := ht
        exact .hook m fun w' hw' => .alarm rfl hs hset hdue hw'
      | obtain ⟨rfl, hs⟩ := ht
        exact .hook m fun w' hw' => .interrupt rfl hs hw'

lemma SysStep.stepsFor (h : c.Ok) (step : SysStep) :
    (step.apply m c).w.processes.Apart ∧ ∀ s, StepFor m step s c (step.apply m c) := by
  have hall {c' : Sys} (hdb : c'.w.processes = c.w.processes) (hbeside : ∀ s, Beside s c c') :
      c'.w.processes.Apart ∧ ∀ s, StepFor m step s c c' :=
    ⟨hdb ▸ h.apart, fun s => .beside (hbeside s)⟩
  have hsteady {g : G} (s : Sid) (hbrk : g.brk = c.w.g.brk) (hdb : g.activeDb = c.w.g.activeDb)
      (hlist : g.interrupt = c.w.g.interrupt) (hsvc : g.svc = c.w.g.svc) : Moves s c.w.g g :=
    .steady (.of_svc (Nat.le_of_eq hbrk.symm) (by rw [hdb]) (by rw [hlist]) (by rw [hsvc]))
  have hperformed := step.performed m h
  generalize step.apply m c = c' at hperformed ⊢
  cases hperformed with
  | same => exact hall rfl fun s => .refl s c
  | act a => exact hall rfl fun s => .of_moves (.act a)
  | asked hasked => exact hall rfl fun s => .of_moves (.asked m hasked s)
  | stopAll =>
    have hsys (s : Sid) : Moves s c.w.g { c.w.g with sysState := .stateStopping } :=
      hsteady s rfl rfl rfl rfl
    exact hall rfl fun s => .of_moves ((hsys s).trans (.asked m (asked_stopEach _ _) s))
  | setSysState => exact hall rfl fun s => .of_moves (hsteady s rfl rfl rfl rfl)
  | setInt type t value => exact hall rfl fun s => ⟨rfl, rfl, fun _ => id, .set type, fun _ => rfl⟩
  | clearFreed t =>
    exact ⟨h.apart.clearFreed t, fun s => .beside ⟨rfl, rfl, fun _ => id, .refl s _,
      fun _ => ProcessDb.actives_clearFreed⟩⟩
  | tick now =>
    exact hall rfl fun s => ⟨rfl, rfl, fun _ => id, hsteady s rfl rfl rfl rfl, fun _ => rfl⟩
  | take hidle hlist hlt => exact ⟨h.apart, stepsFor_take m hidle hlist hlt⟩
  | advance hhandles hadv => exact ⟨hadv.apart m h, hadv.stepFor m h hhandles⟩
  | interrupt hidle hmem hint =>
    exact (hooked_stateInterrupt m.hooksDo _ hint).stepsFor m h hidle (fun s _ => .refl s _)
      (.called (.interrupt hidle hmem hint))
  | alarm hidle hmem hset hdue hal =>
    exact (hookedQuietly_stateAlarm m.hooksDo _ _ hal).hooked.stepsFor m h hidle
      (fun s hst => .steady (.modify_ne hst)) (.called (.alarm rfl hidle hmem hset hdue hal))
  | killed hidle => exact stepsFor_killed m h hidle rfl
  | free hfree => exact stepsFor_free m h hfree

end

end Initng
