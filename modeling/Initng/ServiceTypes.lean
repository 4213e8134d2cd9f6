import Initng.Handler

/-! `modules/daemon`, `modules/service` and `modules/runlevel`. -/

namespace Initng

namespace AState

def daemonStartMarked : AState := ⟨"DAEMON_START_MARKED", .isStarting⟩
def daemonStopMarked : AState := ⟨"DAEMON_STOP_MARKED", .isStopping⟩
def daemonRunning : AState := ⟨"DAEMON_RUNNING", .isUp⟩
def daemonWaitingForStartDep : AState := ⟨"DAEMON_WAITING_FOR_START_DEP", .isStarting⟩
def daemonWaitingForStopDep : AState := ⟨"DAEMON_WAITING_FOR_STOP_DEP", .isStopping⟩
def daemonStopped : AState := ⟨"DAEMON_STOPPED", .isDown⟩
def daemonFailStopping : AState := ⟨"DAEMON_FAIL_STOPPING", .isFailed⟩

def serviceStartMarked : AState := ⟨"SERVICE_START_MARKED", .isStarting⟩
def serviceStopMarked : AState := ⟨"SERVICE_STOP_MARKED", .isStopping⟩
def serviceDone : AState := ⟨"SERVICE_DONE", .isUp⟩
def serviceWaitingForStartDep : AState := ⟨"SERVICE_WAITING_FOR_START_DEP", .isStarting⟩
def serviceWaitingForStopDep : AState := ⟨"SERVICE_WAITING_FOR_STOP_DEP", .isStopping⟩
def serviceStopped : AState := ⟨"SERVICE_STOPPED", .isDown⟩

def runlevelStartMarked : AState := ⟨"START_MARKED", .isStarting⟩
def runlevelStopMarked : AState := ⟨"STOP_MARKED", .isStopping⟩
def runlevelUp : AState := ⟨"UP", .isUp⟩
def runlevelWaitingForStartDep : AState := ⟨"WAITING_FOR_START_DEP", .isStarting⟩
def runlevelWaitingForStopDep : AState := ⟨"WAITING_FOR_STOP_DEP", .isStopping⟩
def runlevelDown : AState := ⟨"DOWN", .isDown⟩

end AState

/-- A service still waiting for its turn the other way is put back; any other one is
marked.  This is the shape of every start and stop hook below. -/
def turnHook (waiting back marked : AState) (s : Sid) (g : G) : Bool × G :=
  if (g.svc s).currentState = waiting then (true, (commonMarkService s back g).2)
  else commonMarkService s marked g

def startDaemon : Sid → G → Bool × G :=
  turnHook .daemonWaitingForStopDep .daemonRunning .daemonStartMarked

def stopDaemon : Sid → G → Bool × G :=
  turnHook .daemonWaitingForStartDep .daemonStopped .daemonStopMarked

def startService : Sid → G → Bool × G :=
  turnHook .serviceWaitingForStopDep .serviceDone .serviceStartMarked

def stopService : Sid → G → Bool × G :=
  turnHook .serviceWaitingForStartDep .serviceStopped .serviceStopMarked

def startRunlevel : Sid → G → Bool × G :=
  turnHook .runlevelWaitingForStopDep .runlevelUp .runlevelStartMarked

def stopRunlevel : Sid → G → Bool × G :=
  turnHook .runlevelWaitingForStartDep .runlevelDown .runlevelStopMarked

def typeModules : Modules where
  start type :=
    if type = ⟨"daemon"⟩ then some startDaemon
    else if type = ⟨"service"⟩ then some startService
    else if type = ⟨"runlevel"⟩ ∨ type = ⟨"virtual"⟩ then some startRunlevel
    else none
  stop type :=
    if type = ⟨"daemon"⟩ then some stopDaemon
    else if type = ⟨"service"⟩ then some stopService
    else if type = ⟨"runlevel"⟩ ∨ type = ⟨"virtual"⟩ then some stopRunlevel
    else none

def typeNames : List String := ["daemon", "service", "runlevel", "virtual"]

section
variable {waiting back marked : AState} {s : Sid} {g : G}

lemma turnHook_ownChange : OwnChange s g (turnHook waiting back marked s g).2 := by
  unfold turnHook
  split
  · exact OwnChange.mark back
  · exact OwnChange.mark marked

lemma turnHook_currentState (hl : (g.svc s).stateLock = 0)
    (hw : (g.svc s).currentState ≠ waiting) :
    ((turnHook waiting back marked s g).2.svc s).currentState = marked := by
  rw [turnHook, if_neg hw]
  by_cases hc : (g.svc s).currentState = marked
  · rw [commonMarkService_same g s marked (.inl hl) hc]
    simpa using hc
  · rw [commonMarkService_unlocked g s marked hl hc]
    simp [ActiveType.enter]

end

variable {type : Stype}

lemma typeModules_start (h : type.name ∈ typeNames) :
    ∃ waiting back marked, typeModules.start type = some (turnHook waiting back marked) ∧
      waiting.is = .isStopping ∧ marked.is = .isStarting := by
  obtain ⟨name⟩ := type
  simp only [typeNames, List.mem_cons, List.not_mem_nil, or_false] at h
  rcases h with rfl | rfl | rfl | rfl <;> exact ⟨_, _, _, rfl, rfl, rfl⟩

lemma typeModules_stop (h : type.name ∈ typeNames) :
    ∃ waiting back marked, typeModules.stop type = some (turnHook waiting back marked) ∧
      waiting.is = .isStarting ∧ marked.is = .isStopping := by
  obtain ⟨name⟩ := type
  simp only [typeNames, List.mem_cons, List.not_mem_nil, or_false] at h
  rcases h with rfl | rfl | rfl | rfl <;> exact ⟨_, _, _, rfl, rfl, rfl⟩

lemma typeModules_stop_some {hook : Sid → G → Bool × G} (h : typeModules.stop type = some hook) :
    ∃ waiting back marked, hook = turnHook waiting back marked ∧
      waiting.is = .isStarting ∧ marked.is = .isStopping := by
  simp only [typeModules] at h
  split_ifs at h <;> cases h <;> exact ⟨_, _, _, rfl, rfl, rfl⟩

def pairDb (state : AState) (needs₀ needs₁ : List String) : G :=
  G.ofServices .stateUp [.needing "a" ⟨"daemon"⟩ state needs₀, .needing "b" ⟨"daemon"⟩ state needs₁]

lemma pairDb_daemons (state : AState) (needs₀ needs₁ : List String) :
    ∀ s ∈ (pairDb state needs₀ needs₁).activeDb,
      ((pairDb state needs₀ needs₁).svc s).stateLock = 0 ∧
        ∃ type, ((pairDb state needs₀ needs₁).svc s).type = some type ∧ type.name ∈ typeNames := by
  intro s hs
  match s with
  | 0 | 1 => exact ⟨rfl, ⟨"daemon"⟩, rfl, by simp [typeNames]⟩
  | s + 2 => exact absurd (List.mem_range.mp hs) (Nat.not_lt.mpr (Nat.le_add_left 2 s))

end Initng
