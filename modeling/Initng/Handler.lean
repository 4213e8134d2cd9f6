import Initng.Depend

/-! `handler/` and `depend/start_deps.c`, `depend/stop_deps.c`, `depend/restart_deps.c`. -/

namespace Initng

/-- `initng_handler_start_new_service_named`; `start` is `initng_handler_start_service`. -/
def handlerStartNewServiceNamed (start : Sid → G → Option (Bool × G)) (m : Modules)
    (service : String) (g : G) : Option (Option Sid × G) :=
  match activeDbFindByName g service with
  | some toLoad =>
    if getState g toLoad ≠ .isDown then some (some toLoad, g)
    else (start toLoad g).map fun r => (some toLoad, r.2)
  | none => some (moduleActiveNew m service g)

def dependStartDeps (start : Sid → G → Option (Bool × G)) (m : Modules) (service : Sid) :
    List SData → G → Option (Bool × G)
  | [], g => some (true, g)
  | current :: rest, g =>
    if current.type ≠ .require ∧ current.type ≠ .need then dependStartDeps start m service rest g
    else
      match current.s with
      | none => dependStartDeps start m service rest g
      | some name =>
        match activeDbFindByName g name with
        | some dep =>
          if getState g dep = .isDown then
            (start dep g).bind fun r => dependStartDeps start m service rest r.2
          else dependStartDeps start m service rest g
        | none =>
          (handlerStartNewServiceNamed start m name g).bind fun r =>
            if r.1.isSome ∨ current.type = .need then dependStartDeps start m service rest r.2
            else some (false, (commonMarkService service .reqNotFound r.2).2)

def runStart (m : Modules) (s : Sid) (g : G) : Bool × G :=
  match (g.svc s).type.bind m.start with
  | none => (false, g)
  | some start => start s (g.observe (.start s))

def handlerStartService (m : Modules) : ℕ → Sid → G → Option (Bool × G)
  | 0, _, _ => none
  | fuel + 1, s, g =>
    if (g.svc s).type.isNone then some (false, g)
    else if g.sysState ≠ .stateStarting ∧ g.sysState ≠ .stateUp then some (false, g)
    else if is .restarting g s then some (false, g)
    else
      match getState g s with
      | .isStarting | .isWaiting => some (true, g)
      | .isFailed => some (false, g)
      | .isUp => some (true, g)
      | .isNew => some (true, g)
      | .isStopping | .isDown =>
        (dependStartDeps (handlerStartService m fuel) m s (g.svc s).data g).map fun r =>
          if r.1 = false then (false, r.2) else runStart m s r.2

def handlerStopService (m : Modules) (s : Sid) (g : G) : Bool × G :=
  match (g.svc s).type with
  | none => (false, g)
  | some type =>
    match getState g s with
    | .isFailed | .isStopping | .isDown => (true, g)
    | .isUp | .isStarting =>
      match m.stop type with
      | none => (false, g)
      | some stop => stop s (g.observe (.stop s))
    | _ => (false, g)

def dependRestartDeps (restart : Sid → G → Option (Bool × G)) (m : Modules) (service : Sid) :
    List Sid → G → Option G
  | [], g => some g
  | current :: rest, g =>
    if current = service then dependRestartDeps restart m service rest g
    else if dependDeep m g current service then
      (restart current g).bind fun r => dependRestartDeps restart m service rest r.2
    else dependRestartDeps restart m service rest g

def handlerRestartService (m : Modules) : ℕ → Sid → G → Option (Bool × G)
  | 0, _, _ => none
  | fuel + 1, s, g =>
    if (g.svc s).type.isNone then some (false, g)
    else if getState g s ≠ .isUp then some (false, g)
    else
      (dependRestartDeps (handlerRestartService m fuel) m s g.activeDb g).map fun g =>
        match (g.svc s).type.bind m.restart with
        | some restart => restart s g
        | none => handlerStopService m s (set .restarting s g)

def restartDown (m : Modules) (fuel : ℕ) : List Sid → G → Option G
  | [], g => some g
  | current :: rest, g =>
    if getState g current = .isDown ∧ is .restarting g current then
      (handlerStartService m fuel current (dataRemove .restarting current g)).bind fun r =>
        restartDown m fuel rest r.2
    else restartDown m fuel rest g

def stillStopping (g : G) : Bool :=
  g.activeDb.any fun s => getState g s = .isStopping ∧ is .restarting g s

def handlerRestartRestarting (m : Modules) (fuel : ℕ) (g : G) : Option G :=
  if stillStopping g then some g else restartDown m fuel g.activeDb g

def dependStopDeps (m : Modules) (service : Sid) : List Sid → G → Bool × G
  | [], g => (true, g)
  | current :: rest, g =>
    if current = service then dependStopDeps m service rest g
    else if dependDeep m g current service then
      dependStopDeps m service rest (handlerStopService m current g).2
    else dependStopDeps m service rest g

def stopEach (m : Modules) : List Sid → G → G
  | [], g => g
  | ser :: rest, g =>
    match getState g ser with
    | .isStopping | .isDown | .isFailed => stopEach m rest g
    | _ => stopEach m rest (handlerStopService m ser g).2

/-- `initng_handler_stop_all`; the hooks of `EVENT_SYSTEM_CHANGE` only report the change. -/
def handlerStopAll (m : Modules) (g : G) : G :=
  stopEach m g.activeDb { g with sysState := .stateStopping }

lemma handlerStopService_cases (m : Modules) (s : Sid) (g : G) :
    (handlerStopService m s g).2 = g ∨ ∃ type stop, (g.svc s).type = some type ∧
      m.stop type = some stop ∧ (getState g s = .isUp ∨ getState g s = .isStarting) ∧
      handlerStopService m s g = stop s (g.observe (.stop s)) := by
  unfold handlerStopService
  cases htype : (g.svc s).type with
  | none => exact .inl rfl
  | some type =>
    cases hstop : m.stop type with
    | none =>
      simp only [hstop]
      split <;> exact .inl rfl
    | some stop =>
      cases hstate : getState g s with
      | isUp => exact .inr ⟨type, stop, rfl, hstop, .inl rfl, by simp only [hstop]⟩
      | isStarting => exact .inr ⟨type, stop, rfl, hstop, .inr rfl, by simp only [hstop]⟩
      | _ => exact .inl rfl

/-- All that differs between the two states is what a hook of a service type may change:
the record of one service, its name, type and data apart, and the interrupt list. -/
structure OwnChange (s : Sid) (g g' : G) : Prop where
  activeDb : g'.activeDb = g.activeDb
  sysState : g'.sysState = g.sysState
  trace : g'.trace = g.trace
  other : ∀ t, t ≠ s → g'.svc t = g.svc t
  name : (g'.svc s).name = (g.svc s).name
  type : (g'.svc s).type = (g.svc s).type
  data : (g'.svc s).data = (g.svc s).data

namespace OwnChange

variable {s : Sid} {g g' g'' : G}

lemma refl (s : Sid) (g : G) : OwnChange s g g := ⟨rfl, rfl, rfl, fun _ _ => rfl, rfl, rfl, rfl⟩

section
variable (h : OwnChange s g g')
include h

lemma trans (h' : OwnChange s g' g'') : OwnChange s g g'' where
  activeDb := h'.activeDb.trans h.activeDb
  sysState := h'.sysState.trans h.sysState
  trace := h'.trace.trans h.trace
  other t ht := (h'.other t ht).trans (h.other t ht)
  name := h'.name.trans h.name
  type := h'.type.trans h.type
  data := h'.data.trans h.data

lemma svc_name (t : Sid) : (g'.svc t).name = (g.svc t).name := by
  by_cases ht : t = s
  · rw [ht, h.name]
  · rw [h.other t ht]

lemma svc_type (t : Sid) : (g'.svc t).type = (g.svc t).type := by
  by_cases ht : t = s
  · rw [ht, h.type]
  · rw [h.other t ht]

lemma svc_data (t : Sid) : (g'.svc t).data = (g.svc t).data := by
  by_cases ht : t = s
  · rw [ht, h.data]
  · rw [h.other t ht]

end

lemma modify (f : ActiveType → ActiveType)
    (h : ∀ a, (f a).name = a.name ∧ (f a).type = a.type ∧ (f a).data = a.data) :
    OwnChange s g (g.modify s f) :=
  ⟨rfl, rfl, rfl, fun t ht => by simp [ht], by simp [h], by simp [h], by simp [h]⟩

lemma interrupt : OwnChange s g (setInterrupt s g) := by
  unfold setInterrupt
  split <;> exact ⟨rfl, rfl, rfl, fun _ _ => rfl, rfl, rfl, rfl⟩

lemma unlock : OwnChange s g (commonStateUnlock s g).2 := by
  have hdown : OwnChange s g (g.modify s fun a =>
      { a with stateLock := (g.svc s).stateLock - 1 }) :=
    modify _ fun _ => ⟨rfl, rfl, rfl⟩
  unfold commonStateUnlock
  dsimp only
  split
  · exact hdown
  · split
    · exact hdown
    · refine (hdown.trans ?_).trans interrupt
      exact modify _ fun _ => ⟨rfl, rfl, rfl⟩

lemma mark (state : AState) : OwnChange s g (commonMarkService s state g).2 := by
  have hnext (next : Option AState) :
      OwnChange s g (g.modify s fun a => { a with nextState := next }) :=
    modify _ fun _ => ⟨rfl, rfl, rfl⟩
  unfold commonMarkService
  split
  · exact refl s g
  split
  · exact hnext none
  · dsimp only
    split
    · exact (hnext _).trans unlock
    · exact hnext _

end OwnChange

end Initng
