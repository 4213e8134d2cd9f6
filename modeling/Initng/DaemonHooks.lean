import Initng.ServiceHooks
import Mathlib.Algebra.Group.Nat.Defs

/-! `modules/daemon/initng_daemon.c`. -/

namespace Initng

namespace AState

def daemonStartDepsMet : AState := ⟨"DAEMON_START_DEPS_MET", .isStarting⟩
def daemonStopDepsMet : AState := ⟨"DAEMON_STOP_DEPS_MET", .isStopping⟩
def daemonKill : AState := ⟨"DAEMON_KILL", .isStopping⟩
def daemonTerm : AState := ⟨"DAEMON_TERM", .isStopping⟩
def daemonLaunch : AState := ⟨"DAEMON_LAUNCH", .isStarting⟩
def daemonWaitForPidFile : AState := ⟨"DAEMON_WAIT_FOR_PID_FILE", .isStarting⟩
def daemonWaitRespTout : AState := ⟨"WAIT_FOR_RESPAWN_TIMEOUT", .isStarting⟩
def daemonStartDepsFailed : AState := ⟨"DAEMON_START_DEPS_FAILED", .isFailed⟩
def daemonFailStartRcode : AState := ⟨"DAEMON_FAIL_START_RCODE", .isFailed⟩
def daemonFailStartSignal : AState := ⟨"DAEMON_FAIL_START_SIGNAL", .isFailed⟩
def daemonFailStartLaunch : AState := ⟨"DAEMON_FAIL_START_LAUNCH", .isFailed⟩
def daemonFailStartTimeoutPidfile : AState := ⟨"DAEMON_FAIL_START_TIMEOUT_PIDFILE", .isFailed⟩
def daemonFailStartNonexist : AState := ⟨"DAEMON_FAIL_START_NONEXIST", .isFailed⟩
def daemonUpCheckFailed : AState := ⟨"DAEMON_UP_CHECK_FAILED", .isFailed⟩
def daemonRespawnRateExceeded : AState := ⟨"DAEMON_RESPAWN_RATE_EXCEEDED", .isFailed⟩

end AState

def tDaemon : Ptype := ⟨"daemon", true⟩
def tKill : Ptype := ⟨"kill", false⟩

namespace SEntry

def pidof : SEntry := .other "pid_of"
def pidfile : SEntry := .other "pid_file"
def forks : SEntry := .other "forks"
def respawn : SEntry := .other "respawn"
def respawnPause : SEntry := .other "respawn_pause"
def respawnRate : SEntry := .other "respawn_rate"
def termTimeout : SEntry := .other "term_timeout"
def daemonFailOk : SEntry := .other "daemon_fail_ok"
def daemonStopsBadly : SEntry := .other "daemon_stops_badly"
def internalLastRespawn : SEntry := .other "internal_last_respawn"

end SEntry

def strings (type : SEntry) (g : G) (s : Sid) : List (Option String) :=
  ((g.svc s).data.filter fun d => d.type = type).map SData.s

/-- What a loop over `get_next_string` comes to; it ends at an entry without a string. -/
def untilNull (entries : List (Option String)) : List String :=
  (entries.takeWhile Option.isSome).reduceOption

def getPidof (env : Env) (g : G) (s : Sid) : Int :=
  match strings .pidof g s with
  | some name :: _ => env.pidOf name
  | _ => -1

def pidFromFiles (env : Env) : List (Option String) → Int
  | some pidfile :: rest =>
    if pidfile.toList.head? ≠ some '/' then -1
    else if env.pidFromFile pidfile > 1 then env.pidFromFile pidfile
    else pidFromFiles env rest
  | _ => -1

def getPidfile (env : Env) (g : G) (s : Sid) : Int := pidFromFiles env (strings .pidfile g s)

/-- `kill_daemon`: an entry without a process is freed. -/
def killDaemon (env : Env) (service : Sid) (w : World) : World :=
  match w.processes.get tDaemon service with
  | none => w
  | some process =>
    let pid := (w.processes.process process).pid
    if pid ≤ 0 then w.freeProcess process
    else if env.kill pid = .noProcess then w.freeProcess process
    else w

def cInt (n : Int) : Int := n.bmod (2 ^ 32)

def checkRespawn (service : Sid) (w : World) : Bool × World :=
  if (w.g.svc service).currentState ≠ .daemonRunning then (false, w)
  else if is .respawn w.g service = false then (false, w)
  else
    let last := if is .internalLastRespawn w.g service then w.getInt .internalLastRespawn service else 0
    let respawnRate := if is .respawnRate w.g service then w.getInt .respawnRate service else 10
    -- make sure it won't respawn too often
    if last ≠ 0 ∧ respawnRate > 0 ∧ w.now - last < respawnRate then
      (false, w.mark service .daemonRespawnRateExceeded)
    else
      (true, (w.setInt .internalLastRespawn service (cInt w.now)).mark service .daemonWaitRespTout)

def tryGetPid (env : Env) (s : Sid) (w : World) : Bool × World :=
  if is .pidof w.g s = false ∧ is .pidfile w.g s = false then (false, w)
  else
    let pid := if is .pidof w.g s then getPidof env w.g s else getPidfile env w.g s
    if pid ≤ 0 ∨ env.kill pid = .noProcess then (false, w)
    else
      match w.processes.get tDaemon s with
      | none => (false, w.mark s .daemonUpCheckFailed)
      | some p =>
        let w :=
          if is .forks w.g s then
            { w with processes := w.processes.modify p fun process => { process with pid := pid } }
          else w
        if dependUpCheck env = .fail then (false, w.mark s .daemonUpCheckFailed)
        else (true, w.mark s .daemonRunning)

def initDaemonStartMarked (m : Modules) (fuel : ℕ) (daemon : Sid) (w : World) : Option World :=
  (dependStartDeps (handlerStartService m fuel) m daemon (w.g.svc daemon).data w.g).map fun r =>
    -- whether the dependencies could be started is not asked
    { w with g := r.2 }.mark daemon .daemonWaitingForStartDep

def initDaemonStopMarked (m : Modules) (daemon : Sid) (w : World) : World :=
  { w with g := (dependStopDeps m daemon w.g.activeDb w.g).2 }.mark daemon .daemonWaitingForStopDep

def handleDaemonWaitingForStartDep : Modules → ℕ → Sid → World → Option World :=
  waitingForStartDep .daemonStartDepsFailed .daemonStopped .daemonStartDepsMet

def handleDaemonWaitingForStopDep : Modules → Sid → World → World :=
  waitingForStopDep .daemonStopDepsMet

def daemonLaunched (env : Env) (daemon : Sid) (w : World) : World :=
  if is .pidfile w.g daemon ∨ is .pidof w.g daemon then w.mark daemon .daemonWaitForPidFile
  -- a forking daemon stays in this state
  else if is .forks w.g daemon then w
  else if dependUpCheck env = .fail then w.mark daemon .daemonUpCheckFailed
  else w.mark daemon .daemonRunning

def initDaemonStartDepsMet (env : Env) (daemon : Sid) (w : World) : World :=
  let marked := commonMarkService daemon .daemonLaunch w.g
  let w := { w with g := marked.2 }
  if marked.1 = false then w
  else
    let pid := getPidof env w.g daemon
    if is .pidof w.g daemon ∧ pid > 1 ∧ env.kill pid = .found then
      -- the daemon was already running
      let existing := { processDbNew tDaemon with pid := pid }
      { w.begins (.adopt daemon pid) with
        processes := w.processes.register daemon existing }.mark daemon .daemonRunning
    else
      let r := (w.begins (.launch daemon tDaemon)).executeLaunch env daemon tDaemon
      match r.1 with
      | .false => r.2.mark daemon .daemonFailStartLaunch
      | .fail => r.2.mark daemon .daemonFailStartNonexist
      | .true => daemonLaunched env daemon r.2

def initDaemonStopDepsMet (env : Env) (service : Sid) (w : World) : World :=
  match w.processes.get tDaemon service with
  | none => w
  | some process =>
    let pid := (w.processes.process process).pid
    if pid ≤ 0 then w.mark service .daemonStopped
    else if env.kill pid = .noProcess then w.mark service .daemonStopped
    else
      let r := w.executeLaunch env service tKill
      match r.1 with
      | .fail => r.2.mark service .daemonFailStopping
      -- no module wants to kill this daemon
      | .false => (killDaemon env service r.2).mark service .daemonTerm
      | .true => r.2.mark service .daemonTerm

def initDaemonWaitForPidFile (s : Sid) (w : World) : World := w.setAlarm s 1

def timeoutDaemonWaitForPidFile (env : Env) (s : Sid) (w : World) : World :=
  if w.now > (w.g.svc s).timeCurrentState.tvSec + 60 then
    let w := killDaemon env s (w.mark s .daemonFailStartTimeoutPidfile)
    match w.processes.get tDaemon s with
    | none => w
    | some process => w.freeProcess process
  else
    let r := tryGetPid env s w
    if r.1 = false then r.2.setAlarm s 1 else r.2

def initDaemonWaitRespTout (service : Sid) (w : World) : World :=
  w.setAlarm service (if is .respawnPause w.g service then w.getInt .respawnPause service else 1)

def timeoutDaemonWaitRespTout (m : Modules) (fuel : ℕ) (service : Sid) (w : World) : Option World :=
  let w := w.mark service .daemonStopped
  (handlerStartService m fuel service w.g).map fun r => { w with g := r.2 }

def initDaemonTerm (daemon : Sid) (w : World) : World :=
  let timeout := w.getInt .termTimeout daemon
  w.setAlarm daemon (if timeout = 0 then 30 else timeout)

def timeoutDaemonTerm (env : Env) (daemon : Sid) (w : World) : World :=
  (killDaemon env daemon w).mark daemon .daemonKill

def initDaemonKill (daemon : Sid) (w : World) : World := w.setAlarm daemon 2

def timeoutDaemonKill (env : Env) (daemon : Sid) (w : World) : World :=
  (killDaemon env daemon w).setAlarm daemon 2

def daemonExited (rcode : Int) (daemon : Sid) (w : World) : World :=
  if wTermSig rcode = 11 then w.mark daemon .daemonFailStartSignal
  else if wExitStatus rcode = 0 then w.mark daemon .daemonStopped
  else if is .daemonFailOk w.g daemon then w.mark daemon .daemonStopped
  else if getState w.g daemon = .isStopping ∧ is .daemonStopsBadly w.g daemon then
    w.mark daemon .daemonStopped
  else w.mark daemon .daemonFailStartRcode

def handleKilledDaemon (env : Env) (daemon : Sid) (process : Prid) (w : World) : World :=
  if (w.g.svc daemon).currentState = .daemonWaitForPidFile ∧ is .forks w.g daemon then
    (tryGetPid env daemon w).2
  else
    let r := checkRespawn daemon w
    let rcode := (r.2.processes.process process).rCode
    let w := r.2.freeProcess process
    if r.1 then w else daemonExited rcode daemon w

def stateInit (m : Modules) (fuel : ℕ) (env : Env) (state : AState) (s : Sid) (w : World) :
    Option World :=
  if state = .serviceStartMarked then initServiceStartMarked m fuel s w
  else if state = .serviceStopMarked then some (initServiceStopMarked m s w)
  else if state = .serviceStartDepsMet then some (initServiceStartDepsMet env s w)
  else if state = .serviceStopDepsMet then some (initServiceStopDepsMet env s w)
  else if state = .serviceStartRun then some (initServiceStartRun s w)
  else if state = .serviceStopRun then some (initServiceStopRun s w)
  else if state = .daemonStartMarked then initDaemonStartMarked m fuel s w
  else if state = .daemonStopMarked then some (initDaemonStopMarked m s w)
  else if state = .daemonStartDepsMet then some (initDaemonStartDepsMet env s w)
  else if state = .daemonStopDepsMet then some (initDaemonStopDepsMet env s w)
  else if state = .daemonWaitForPidFile then some (initDaemonWaitForPidFile s w)
  else if state = .daemonWaitRespTout then some (initDaemonWaitRespTout s w)
  else if state = .daemonTerm then some (initDaemonTerm s w)
  else if state = .daemonKill then some (initDaemonKill s w)
  else some w

def stateInterrupt (m : Modules) (fuel : ℕ) (state : AState) (s : Sid) (w : World) :
    Option World :=
  if state = .serviceWaitingForStartDep then handleServiceWaitingForStartDep m fuel s w
  else if state = .serviceWaitingForStopDep then some (handleServiceWaitingForStopDep m s w)
  else if state = .daemonWaitingForStartDep then handleDaemonWaitingForStartDep m fuel s w
  else if state = .daemonWaitingForStopDep then some (handleDaemonWaitingForStopDep m s w)
  else some w

def stateAlarm (m : Modules) (fuel : ℕ) (env : Env) (state : AState) (s : Sid) (w : World) :
    Option World :=
  if state = .serviceStartRun then some (timeoutServiceStartRun env s w)
  else if state = .serviceStopRun then some (timeoutServiceStopRun env s w)
  else if state = .daemonWaitForPidFile then some (timeoutDaemonWaitForPidFile env s w)
  else if state = .daemonWaitRespTout then timeoutDaemonWaitRespTout m fuel s w
  else if state = .daemonTerm then some (timeoutDaemonTerm env s w)
  else if state = .daemonKill then some (timeoutDaemonKill env s w)
  else some w

def killHandler (env : Env) (type : Ptype) (s : Sid) (process : Prid) (w : World) : World :=
  if type = tStart then handleKilledStart env s process w
  else if type = tStop then handleKilledStop s process w
  else if type = tDaemon then handleKilledDaemon env s process w
  else w.freeProcess process

end Initng
