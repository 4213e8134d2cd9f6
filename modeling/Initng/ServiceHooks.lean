import Initng.Alarm
import Initng.DepMet
import Initng.KillHandler
import Initng.ServiceTypes

/-! `modules/service/initng_service.c`. -/

namespace Initng

namespace AState

def serviceStartDepsMet : AState := ⟨"SERVICE_START_DEPS_MET", .isStarting⟩
def serviceStopDepsMet : AState := ⟨"SERVICE_STOP_DEPS_MET", .isStopping⟩
def serviceStartRun : AState := ⟨"SERVICE_START_RUN", .isStarting⟩
def serviceStopRun : AState := ⟨"SERVICE_STOP_RUN", .isStopping⟩
def serviceStartDepsFailed : AState := ⟨"SERVICE_START_DEPS_FAILED", .isFailed⟩
def serviceFailStartLaunch : AState := ⟨"SERVICE_FAIL_START_LAUNCH", .isFailed⟩
def serviceFailStartNonexist : AState := ⟨"SERVICE_FAIL_START_NONEXIST", .isFailed⟩
def serviceFailStartRcode : AState := ⟨"SERVICE_FAIL_START_RCODE", .isFailed⟩
def serviceFailStartSignal : AState := ⟨"SERVICE_FAIL_START_SIGNAL", .isFailed⟩
def serviceStartFailedTimeout : AState := ⟨"SERVICE_START_FAILED_TIMEOUT", .isFailed⟩
def serviceStopDepsFailed : AState := ⟨"SERVICE_STOP_DEPS_FAILED", .isFailed⟩
def serviceFailStopNonexist : AState := ⟨"SERVICE_FAIL_STOP_NONEXIST", .isFailed⟩
def serviceFailStopRcode : AState := ⟨"SERVICE_FAIL_STOP_RCODE", .isFailed⟩
def serviceFailStopSignal : AState := ⟨"SERVICE_FAIL_STOP_SIGNAL", .isFailed⟩
def serviceStopFailedTimeout : AState := ⟨"SERVICE_STOP_FAILED_TIMEOUT", .isFailed⟩
def serviceUpCheckFailed : AState := ⟨"SERVICE_UP_CHECK_FAILED", .isFailed⟩

end AState

def tStart : Ptype := ⟨"start", true⟩
def tStop : Ptype := ⟨"stop", true⟩

namespace SEntry

def startTimeout : SEntry := .other "start_timeout"
def stopTimeout : SEntry := .other "stop_timeout"
def neverKill : SEntry := .other "never_kill"
def startFailOk : SEntry := .other "start_fail_ok"
def stopFailOk : SEntry := .other "stop_fail_ok"

end SEntry

/-- What `kill(pid, 0)` tells: there is such a process, there is none (`ESRCH`), or it failed
for another reason. -/
inductive KillAnswer
  | found | noProcess | refused
  deriving DecidableEq

structure Env where
  kill : Int → KillAnswer
  pidOf : String → Int
  pidFromFile : String → Int
  launch : ProcessDb.Launch
  upMet : EventStatus
  handleKilled : Bool

/-- What the `START_DEPS_MET` states have begun: `initng_execute_launch` was called, or a
process that was there already was taken over. -/
inductive StartCall
  | launch (service : Sid) (type : Ptype)
  | adopt (service : Sid) (pid : Int)
  deriving DecidableEq

/-- The services, their processes, the numbers `t.i` of their data entries, the times in `g`, and
what has been started, latest first. -/
structure World where
  g : G
  processes : ProcessDb
  ints : Sid → SEntry → Int
  now : Int
  nextAlarm : Int
  started : List StartCall

namespace World

def mark (s : Sid) (state : AState) (w : World) : World :=
  { w with g := (commonMarkService s state w.g).2 }

def setAlarm (s : Sid) (seconds : Int) (w : World) : World :=
  let c := Alarms.setAlarm s seconds ⟨w.g, w.now, w.nextAlarm, .outside⟩
  { w with g := c.g, nextAlarm := c.nextAlarm }

def getInt (type : SEntry) (s : Sid) (w : World) : Int := if is type w.g s then w.ints s type else 0

def setInt (type : SEntry) (s : Sid) (value : Int) (w : World) : World :=
  { w with
    g := set type s w.g
    ints := Function.update w.ints s (Function.update (w.ints s) type value) }

def freeProcess (p : Prid) (w : World) : World := { w with processes := w.processes.free p }

def executeLaunch (env : Env) (s : Sid) (type : Ptype) (w : World) : Ret × World :=
  let r := w.processes.executeLaunch s type env.launch
  (if r.1 then .true else .false, { w with processes := r.2 })

def begins (call : StartCall) (w : World) : World := { w with started := call :: w.started }

end World

section
variable {s t : Sid} {w : World}

lemma getInt_congr {w' : World} {type : SEntry} (hints : w'.ints t type = w.ints t type)
    (hdata : (w'.g.svc t).data = (w.g.svc t).data) : w'.getInt type t = w.getInt type t := by
  rw [World.getInt, World.getInt, is, is, hdata, hints]

lemma getInt_mark (type : SEntry) (t : Sid) (st : AState) :
    (w.mark s st).getInt type t = w.getInt type t :=
  getInt_congr rfl ((OwnChange.mark st).svc_data t)

lemma getInt_setInt (type : SEntry) (value : Int) :
    (w.setInt type s value).getInt type s = value := by
  have his : is type (w.setInt type s value).g s = true := is_set ..
  rw [World.getInt, if_pos his]
  simp [World.setInt]

lemma getInt_setInt_ne (type type' : SEntry) (value : Int) (h : t ≠ s) :
    (w.setInt type s value).getInt type' t = w.getInt type' t :=
  getInt_congr (by simp [World.setInt, h]) (congrArg ActiveType.data (set_svc_ne _ _ _ _ h))

end

def wTermSig (status : Int) : Int := status % 128

def wExitStatus (status : Int) : Int := status / 256 % 256

/-- `initng_depend_up_check` returns whether the event failed, never FAIL. -/
def dependUpCheck (env : Env) : Ret := if env.upMet ≠ .failed then .true else .false

lemma dependUpCheck_ne_fail (env : Env) : dependUpCheck env ≠ .fail := by
  rw [dependUpCheck]
  split <;> exact Ret.noConfusion

def waitingForStartDep (failed stopped met : AState) (m : Modules) (fuel : ℕ) (service : Sid)
    (w : World) : Option World :=
  (dependStartDepMet m fuel service w.g).map fun r =>
    let w := { w with g := r.2 }
    match r.1 with
    | .false => w
    | .fail => w.mark service failed
    | .true =>
      -- if system is shutting down, don't start anything
      if w.g.sysState ≠ .stateStarting ∧ w.g.sysState ≠ .stateUp then w.mark service stopped
      else w.mark service met

def waitingForStopDep (met : AState) (m : Modules) (service : Sid) (w : World) : World :=
  let r := dependStopDepMet m service w.g
  let w := { w with g := r.2 }
  if r.1 ≠ .true then w else w.mark service met

def initServiceStartMarked (m : Modules) (fuel : ℕ) (service : Sid) (w : World) : Option World :=
  (dependStartDeps (handlerStartService m fuel) m service (w.g.svc service).data w.g).map fun r =>
    let w := { w with g := r.2 }
    if r.1 = false then w.mark service .serviceStartDepsFailed
    else w.mark service .serviceWaitingForStartDep

def initServiceStopMarked (m : Modules) (service : Sid) (w : World) : World :=
  let r := dependStopDeps m service w.g.activeDb w.g
  let w := { w with g := r.2 }
  if r.1 = false then w.mark service .serviceStopDepsFailed
  else w.mark service .serviceWaitingForStopDep

def handleServiceWaitingForStartDep : Modules → ℕ → Sid → World → Option World :=
  waitingForStartDep .serviceStartDepsFailed .serviceStopped .serviceStartDepsMet

def handleServiceWaitingForStopDep : Modules → Sid → World → World :=
  waitingForStopDep .serviceStopDepsMet

def initServiceStartDepsMet (env : Env) (service : Sid) (w : World) : World :=
  let marked := commonMarkService service .serviceStartRun w.g
  let w := { w with g := marked.2 }
  if marked.1 = false then w
  else
    let r := (w.begins (.launch service tStart)).executeLaunch env service tStart
    match r.1 with
    | .false => r.2.mark service .serviceFailStartNonexist
    | .fail => r.2.mark service .serviceFailStartLaunch
    | .true => r.2

def initServiceStopDepsMet (env : Env) (service : Sid) (w : World) : World :=
  let marked := commonMarkService service .serviceStopRun w.g
  let w := { w with g := marked.2 }
  if marked.1 = false then w
  else
    let r := w.executeLaunch env service tStop
    match r.1 with
    | .fail => r.2.mark service .serviceFailStopNonexist
    -- there exists no stop process
    | .false => r.2.mark service .serviceStopped
    | .true => r.2

def initRun (entry : SEntry) (default : Int) (service : Sid) (w : World) : World :=
  if is .neverKill w.g service then w
  else
    let timeout := w.getInt entry service
    w.setAlarm service (if timeout = 0 then default else timeout)

def initServiceStartRun : Sid → World → World := initRun .startTimeout 240
def initServiceStopRun : Sid → World → World := initRun .stopTimeout 60

def handleKilledStart (env : Env) (service : Sid) (process : Prid) (w : World) : World :=
  let rcode := (w.processes.process process).rCode
  let w := w.freeProcess process
  let state := (w.g.svc service).currentState
  if state = .serviceStartFailedTimeout then w
  else if state ≠ .serviceStartRun then w
  else if wTermSig rcode = 11 then w.mark service .serviceFailStartSignal
  else if wExitStatus rcode > 0 ∧ is .startFailOk w.g service = false then
    w.mark service .serviceFailStartRcode
  else if dependUpCheck env = .fail then w.mark service .serviceUpCheckFailed
  else w.mark service .serviceDone

def handleKilledStop (service : Sid) (process : Prid) (w : World) : World :=
  let rcode := (w.processes.process process).rCode
  let w := w.freeProcess process
  let state := (w.g.svc service).currentState
  if state = .serviceStopFailedTimeout then w
  else if state ≠ .serviceStopRun then w
  else if wTermSig rcode = 11 then w.mark service .serviceFailStopSignal
  else if wExitStatus rcode > 0 ∧ is .stopFailOk w.g service = false then
    w.mark service .serviceFailStopRcode
  else w.mark service .serviceStopped

/-- `timeout_SERVICE_START_RUN` and `timeout_SERVICE_STOP_RUN`: a process that has disappeared
is treated as killed, any other one gets SIGKILL. -/
def timeoutRun (type : Ptype) (killed : Sid → Prid → World → World) (failed : AState) (env : Env)
    (service : Sid) (w : World) : World :=
  if is .neverKill w.g service then w
  else
    match w.processes.get type service with
    | none => w
    | some process =>
      let pid := (w.processes.process process).pid
      if pid ≤ 0 ∨ env.kill pid = .noProcess then killed service process w
      else w.mark service failed

def timeoutServiceStartRun (env : Env) : Sid → World → World :=
  timeoutRun tStart (handleKilledStart env) .serviceStartFailedTimeout env

def timeoutServiceStopRun (env : Env) : Sid → World → World :=
  timeoutRun tStop handleKilledStop .serviceStopFailedTimeout env

end Initng
