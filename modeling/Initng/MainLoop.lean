import Initng.ClockSkew
import Initng.RestartRuns

/-! `frontend/main.c`, `main/ready_to_quit.c` and `interrupt/run_handlers.c`. -/

namespace Initng

open StepRun List

deriving instance DecidableEq for Phase

/-- Where the main loop stands.  In `run_interrupt_handlers` the next service is read ahead of a
hook; the last place is that of the callbacks of io modules, and of the code before the loop. -/
inductive Place
  | alarms
  | signals
  | mainEvent
  | quit
  | whenOut
  | cleanDown
  | interrupt (phase : Phase)
  | walk (current : Option Sid)
  | hook (current : Sid) (q : Option Sid)
  | poll
  | io
  deriving DecidableEq

def Place.runsHooks : Place → Bool
  | alarms | signals | mainEvent | whenOut | hook _ _ | io => true
  | interrupt (.stateChange ..) | interrupt (.isChange ..) => true
  | interrupt (.restarting ..) | interrupt (.init ..) => true
  | _ => false

def Place.frees : Place → Bool
  | signals | mainEvent | whenOut | io => true
  | _ => false

def Place.phase : Place → Phase
  | interrupt phase => phase
  | _ => .idle

inductive LoopEvent
  | changed (s : Sid) (state : AState)
  | called (s : Sid) (state : AState)
  | restarted (s : Sid)
  deriving DecidableEq

structure MainLoop where
  place : Place
  g : G
  now : Timeval
  freed : List Sid
  log : List LoopEvent

def mainReadyToQuit (g : G) : Bool :=
  g.activeDb.all fun s => getState g s = .isFailed ∨ getState g s = .isDown

def removeAll (s : Sid) (g : G) : G := g.modify s fun a => { a with data := [] }

def changes (g g' : G) : List LoopEvent :=
  ((range g.brk).filter fun s =>
    (g'.svc s).currentState ≠ (g.svc s).currentState).map fun s =>
      .changed s (g'.svc s).currentState

namespace MainLoop

def update (g' : G) (c : MainLoop) : MainLoop := { c with g := g', log := changes c.g g' ++ c.log }

def free (s : Sid) (c : MainLoop) : MainLoop :=
  { c.update (removeAll s (activeDbFree s c.g)) with freed := s :: c.freed }

def Stale (c : MainLoop) (s : Sid) : Prop :=
  c.now.tvSec > (c.g.svc s).timeCurrentState.tvSec + 60 ∧ getState c.g s = .isDown

instance (c : MainLoop) (s : Sid) : Decidable (c.Stale s) :=
  inferInstanceAs (Decidable (c.now.tvSec > (c.g.svc s).timeCurrentState.tvSec + 60 ∧
    getState c.g s = .isDown))

def cleanDown (l : List Sid) (c : MainLoop) : MainLoop :=
  l.foldl (fun c current => if c.Stale current then c.free current else c) c

def turn (c : MainLoop) : MainLoop :=
  let skew := c.g.clock.tvSec - c.now.tvSec
  { c with
    place := .alarms
    now := c.g.clock
    g := if skew ≥ 3600 ∨ skew < 0 then activeDbCompensateTime skew c.g else c.g }

/-- The loop goes on to the next place; `hasHook` tells which states have an interrupt hook, and
`sleeps` whether there is time to sleep. -/
def advance (hasHook : AState → Bool) (sleeps : Bool) (c : MainLoop) : MainLoop :=
  match c.place with
  | .alarms => { c with place := .signals }
  | .signals => { c with place := .mainEvent }
  | .mainEvent => { c with place := if mainReadyToQuit c.g then .quit else .cleanDown }
  | .quit => { c with place := .whenOut, g := { c.g with sysState := .stateAse } }
  | .whenOut => c.turn
  | .cleanDown => { c.cleanDown c.g.activeDb with place := .interrupt .idle }
  | .interrupt .idle =>
    match c.g.interrupt with
    | [] => if sleeps then { c with place := .poll } else c.turn
    | service :: _ => { c with place := .interrupt (.next (some service)) }
  | .interrupt .handlers => { c with place := .walk c.g.activeDb.head? }
  | .interrupt phase =>
    let core := Core.advance ⟨phase, c.g⟩
    { c.update core.g with place := .interrupt core.phase }
  -- something was handled in this turn, so there is no sleep
  | .walk none => c.turn
  | .walk (some current) =>
    let q := ListCursor.next c.g.activeDb current
    let state := (c.g.svc current).currentState
    if hasHook state then
      { c with place := .hook current q, log := .called current state :: c.log }
    else { c with place := .walk q }
  | .hook _ q => { c with place := .walk q }
  | .poll => { c with place := .io }
  | .io => c.turn

def start (now : Timeval) : MainLoop := ⟨.io, configGlobalNew now, now, [], []⟩

end MainLoop

/-- An act is about a service that has not been freed, and a service is registered in a state
without an interrupt hook. -/
def Act.Sound (hasHook : AState → Bool) (c : MainLoop) (act : Act) : Prop :=
  (∀ s ∈ act.subject, s ∉ c.freed) ∧
    match act with
    | register s => hasHook (c.g.svc s).currentState = false
    | _ => True

instance (hasHook : AState → Bool) (c : MainLoop) (act : Act) : Decidable (act.Sound hasHook c) :=
  @instDecidableAnd _ _ (inferInstanceAs (Decidable (∀ s ∈ act.subject, s ∉ c.freed)))
    (match act with
      | .register s => inferInstanceAs (Decidable (hasHook (c.g.svc s).currentState = false))
      | .mark _ _ | .new _ | .setup _ _ _ | .flag _ | .call _ | .advance => instDecidableTrue)

/-- What happens in a run: module code acts, restarts a service or frees one, time passes, the
loop goes on. -/
inductive LoopStep
  | act (a : Act)
  | restart (m : StoppingModules) (fuel : ℕ) (s : Sid)
  | free (s : Sid)
  | tick (now : Timeval)
  | advance (sleeps : Bool)

/-- A step that the code never makes in this place does nothing. -/
def LoopStep.apply (hasHook : AState → Bool) : LoopStep → MainLoop → MainLoop
  | act a, c => if c.place.runsHooks ∧ a.Sound hasHook c then c.update (a.applyG c.g) else c
  | restart m fuel s, c =>
    if c.place.runsHooks ∧ s ∈ c.g.activeDb then
      match handlerRestartService m.toModules fuel s c.g with
      | some r =>
        let c' := c.update r.2
        if r.1 ∧ getState c.g s = .isUp then { c' with log := .restarted s :: c'.log } else c'
      | none => c
    else c
  | free s, c => if c.place.frees ∧ s < c.g.brk ∧ s ∉ c.freed then c.free s else c
  | tick now, c => { c with g := { c.g with clock := now } }
  | advance sleeps, c => c.advance hasHook sleeps

section
variable {g g' : G} {s t : Sid}

lemma mem_changes {e : LoopEvent} : e ∈ changes g g' ↔ ∃ s, s < g.brk ∧
    (g'.svc s).currentState ≠ (g.svc s).currentState ∧ e = .changed s (g'.svc s).currentState := by
  simp only [changes, mem_map, mem_filter, mem_range, decide_eq_true_eq, and_assoc]
  exact exists_congr fun s => and_congr_right fun _ => and_congr_right fun _ => eq_comm

lemma MainLoop.turn_frame (c : MainLoop) : ∃ svc, c.turn =
    { c with place := .alarms, now := c.g.clock, g := { c.g with svc := svc } } ∧
      ∀ s, svc s = (c.g.svc s).withTimes (svc s) := by
  by_cases hjump : c.g.clock.tvSec - c.now.tvSec ≥ 3600 ∨ c.g.clock.tvSec - c.now.tvSec < 0
  · obtain ⟨svc, heq, hsvc⟩ :=
      compensate_foldl_system (c.g.clock.tvSec - c.now.tvSec) c.g.activeDb c.g
    exact ⟨svc, by simp only [turn, if_pos hjump, activeDbCompensateTime, heq], hsvc⟩
  · exact ⟨c.g.svc, by simp only [turn, if_neg hjump], fun _ => rfl⟩

/-- What `initng_active_db_free` leaves: the service is on no list and has no data, the others
are as they were. -/
structure Freed (s : Sid) (g g' : G) : Prop where
  activeDb : g'.activeDb = g.activeDb.filter (· ≠ s)
  interrupt : ∀ t, t ∈ g'.interrupt ↔ t ∈ g.interrupt ∧ t ≠ s
  other : ∀ t, t ≠ s → g'.svc t = g.svc t
  data : (g'.svc s).data = []
  brk : g'.brk = g.brk

lemma freed_activeDbFree (s : Sid) (g : G) : Freed s g (removeAll s (activeDbFree s g)) where
  activeDb := by simp [removeAll, activeDbFree, commonMarkService_activeDb]
  interrupt t := by
    simp only [removeAll, activeDbFree, G.modify_interrupt, mem_filter, decide_eq_true_eq]
    exact and_congr_left fun hts => mem_commonMarkService_interrupt g s .freeing hts
  other t hts := by simp [removeAll, activeDbFree, hts, commonMarkService_svc_ne]
  data := by simp [removeAll]
  brk := by simp [removeAll, activeDbFree, commonMarkService_brk]

end

/-- What holds before `initng_active_db_clean_down` and is kept by each free of a stale service
holds behind it. -/
lemma MainLoop.cleanDown_induction {P : MainLoop → Prop} {l : List Sid}
    (hfree : ∀ c, ∀ s ∈ l, P c → c.Stale s → P (c.free s)) {c : MainLoop} (h : P c) :
    P (c.cleanDown l) := by
  induction l generalizing c with
  | nil => exact h
  | cons current rest ih =>
    have hrest (c : MainLoop) (s : Sid) (hs : s ∈ rest) : P c → c.Stale s → P (c.free s) :=
      hfree c s (.tail _ hs)
    rw [cleanDown, foldl_cons]
    split
    next hstale => exact ih hrest (hfree c current (.head _) h hstale)
    next => exact ih hrest h

end Initng
