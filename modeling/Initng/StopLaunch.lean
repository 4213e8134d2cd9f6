import Initng.ServiceRuns

namespace Initng

open StepRun

abbrev Fork := List (Int × Int) × Int

/-- A hook of `EVENT_LAUNCH`, for a service and the name of an action.  It acts only on what it
knows. -/
structure LaunchHook where
  knows : Sid → String → World → Bool
  run : Sid → String → World → EventStatus × Fork
  passes : ∀ s execName w, knows s execName w = false →
    (run s execName w).1 ≠ .handled ∧ (run s execName w).1 ≠ .failed

def sendLaunch (hooks : List LaunchHook) (s : Sid) (type : Ptype) (w : World) :
    EventStatus × Fork :=
  eventSend (hooks.map fun hook _ => hook.run s type.name w) ([], 0)

def launchBy (hooks : List LaunchHook) (s : Sid) (type : Ptype) (w : World) : ProcessDb.Launch :=
  match sendLaunch hooks s type w with
  | (.handled, (fds, pid)) => .handled fds pid
  | _ => .failed

namespace SEntry

def exec : SEntry := .other "exec"
def execs : SEntry := .other "execs"
def execArgs : SEntry := .other "exec_args"

end SEntry

def stringVars (type : SEntry) (vn : String) (g : G) (s : Sid) : List (Option String) :=
  ((g.svc s).data.filter fun d => d.type = type ∧ (d.vn = none ∨ d.vn = some vn)).map SData.s

def isVar (type : SEntry) (vn : String) (g : G) (s : Sid) : Bool := !(stringVars type vn g s).isEmpty

def getStringVar (type : SEntry) (vn : String) (g : G) (s : Sid) : Option String :=
  (stringVars type vn g s).head?.join

structure LauncherSystem where
  stat : String → Bool
  splitDelim : String → List String
  expandExec : String → Option String
  fork : ℕ → Option Fork

/-- The words that `simple_exec_try` puts behind the name of the file; `none` if there are
arguments without a word. -/
def execArgv (sys : LauncherSystem) (execArgs : Option String) : Option (List String) :=
  match execArgs with
  | none => some []
  | some args =>
    match sys.splitDelim (String.ofList (args.toList.drop 1)) with
    | [] => none
    | _ :: argv => some argv

/-- `simple_exec`, after some attempts to fork: the fork that succeeds, and the attempts made. -/
def simpleExec (sys : LauncherSystem) (execArgs : Option String) : List String → ℕ → Option Fork × ℕ
  | [], attempts => (none, attempts)
  | exec :: execs, attempts =>
    if sys.stat exec = false ∨ execArgv sys execArgs = none then
      simpleExec sys execArgs execs attempts
    else
      match sys.fork attempts with
      | some fork => (some fork, attempts + 1)
      | none => simpleExec sys execArgs execs (attempts + 1)

def simpleRun (sys : LauncherSystem) (exec : Option String) (attempts : ℕ) : Option Fork :=
  match exec.map sys.splitDelim with
  | none | some [] => none
  | some (argv0 :: _) =>
    if argv0.toList.head? ≠ some '/' ∧ sys.expandExec argv0 = none then none
    else sys.fork attempts

def simpleLaunch (sys : LauncherSystem) (s : Sid) (execName : String) (w : World) :
    EventStatus × Fork :=
  let r := if isVar .execs execName w.g s then
      simpleExec sys (getStringVar .execArgs execName w.g s)
        (untilNull (stringVars .execs execName w.g s)) 0
    else (none, 0)
  match r.1 with
  | some fork => (.handled, fork)
  | none =>
    if isVar .exec execName w.g s then
      match simpleRun sys (getStringVar .exec execName w.g s) r.2 with
      | some fork => (.handled, fork)
      | none => (.unknown, ([], 0))
    else (.unknown, ([], 0))

def simpleLauncher (sys : LauncherSystem) : LaunchHook where
  knows s execName w := isVar .execs execName w.g s || isVar .exec execName w.g s
  run := simpleLaunch sys
  passes s execName w h := by
    obtain ⟨hexecs, hexec⟩ := Bool.or_eq_false_iff.mp h
    simp [simpleLaunch, hexecs, hexec]

def stopDepsMetBy (hooks : List LaunchHook) (env : Env) (s : Sid) (w : World) : World :=
  initServiceStopDepsMet
    { env with launch := launchBy hooks s tStop (w.mark s .serviceStopRun) } s w

def HasStopAction (hooks : List LaunchHook) (s : Sid) (w : World) : Prop :=
  ∃ hook ∈ hooks, hook.knows s tStop.name (w.mark s .serviceStopRun) = true

def StopLaunchFails (hooks : List LaunchHook) (s : Sid) (w : World) : Prop :=
  (w.processes.get tStop s).isSome = true ∨
    (sendLaunch hooks s tStop (w.mark s .serviceStopRun)).1 ≠ .handled

/-- A stop action that could not be launched leaves a failed state, and `SERVICE_STOPPED` is
reached only without one. -/
structure StopReported (hooks : List LaunchHook) (s : Sid) (w : World) (after : AState) : Prop where
  failed : HasStopAction hooks s w → StopLaunchFails hooks s w →
    after.is = .isFailed ∧ after ≠ .serviceStopped
  stopped : after = .serviceStopped → ¬ HasStopAction hooks s w

section
variable {hooks : List LaunchHook} {s : Sid} {w : World}

lemma mark_of_locked (st : AState) (hlock : (w.g.svc s).stateLock ≠ 0) :
    ((w.mark s st).g.svc s).currentState = (w.g.svc s).currentState ∧
      ((w.mark s st).g.svc s).stateLock ≠ 0 := by
  refine ⟨commonMarkService_currentState_of_locked w.g s st hlock, ?_⟩
  exact (commonMarkService_stateLock w.g s s st).symm ▸ hlock

section
variable (env : Env)

lemma stopDepsMetBy_locked (hlock : (w.g.svc s).stateLock ≠ 0) :
    ((stopDepsMetBy hooks env s w).g.svc s).currentState = (w.g.svc s).currentState := by
  obtain ⟨hstate, hlock'⟩ := mark_of_locked .serviceStopRun hlock
  unfold stopDepsMetBy initServiceStopDepsMet
  dsimp only
  split_ifs
  · exact hstate
  · split
    · exact (mark_of_locked _ hlock').1.trans hstate
    · exact (mark_of_locked _ hlock').1.trans hstate
    · exact hstate

lemma stopDepsMetBy_unlocked (hlock : (w.g.svc s).stateLock = 0)
    (hstate : (w.g.svc s).currentState = .serviceStopDepsMet) :
    (StopLaunchFails hooks s w →
      ((stopDepsMetBy hooks env s w).g.svc s).currentState = .serviceStopped) ∧
    (¬ StopLaunchFails hooks s w →
      ((stopDepsMetBy hooks env s w).g.svc s).currentState = .serviceStopRun) := by
  have hne : (w.g.svc s).currentState ≠ .serviceStopRun := by
    rw [hstate]
    decide
  have hmarked : (commonMarkService s .serviceStopRun w.g).1 = true := by
    rw [commonMarkService_unlocked w.g s _ hlock hne]
  have hlock' : ((w.mark s .serviceStopRun).g.svc s).stateLock = 0 :=
    (commonMarkService_stateLock w.g s s _).trans hlock
  have hfails : StopLaunchFails hooks s w ↔
      (w.processes.executeLaunch s tStop
        (launchBy hooks s tStop (w.mark s .serviceStopRun))).1 = false := by
    unfold StopLaunchFails launchBy ProcessDb.executeLaunch
    obtain ⟨status, fds, pid⟩ := sendLaunch hooks s tStop (w.mark s .serviceStopRun)
    split_ifs with hget <;> cases status <;> simp [hget]
  rw [hfails]
  unfold stopDepsMetBy initServiceStopDepsMet World.executeLaunch
  dsimp only
  rw [hmarked, if_neg (by decide)]
  constructor
  · intro hfalse
    rw [hfalse]
    exact mark_currentState hlock'
  · intro htrue
    rw [Bool.not_eq_false] at htrue
    rw [htrue]
    exact mark_currentState hlock

end

end

/-- A failed launch of a stop action is never reported. -/
theorem stopReported_iff (hooks : List LaunchHook) (env : Env) (s : Sid) (w : World)
    (hstate : (w.g.svc s).currentState = .serviceStopDepsMet) :
    StopReported hooks s w ((stopDepsMetBy hooks env s w).g.svc s).currentState ↔
      ¬ (HasStopAction hooks s w ∧ StopLaunchFails hooks s w) := by
  constructor
  · rintro h ⟨haction, hfails⟩
    obtain ⟨hfailed, -⟩ := h.failed haction hfails
    by_cases hlock : (w.g.svc s).stateLock = 0
    · rw [(stopDepsMetBy_unlocked env hlock hstate).1 hfails] at hfailed
      exact absurd hfailed (by decide)
    · rw [stopDepsMetBy_locked env hlock, hstate] at hfailed
      exact absurd hfailed (by decide)
  · intro h
    refine ⟨fun haction hfails => absurd ⟨haction, hfails⟩ h, fun hstopped haction => ?_⟩
    have hfails : ¬ StopLaunchFails hooks s w := fun hfails => h ⟨haction, hfails⟩
    by_cases hlock : (w.g.svc s).stateLock = 0
    · rw [(stopDepsMetBy_unlocked env hlock hstate).2 hfails] at hstopped
      exact absurd hstopped (by decide)
    · rw [stopDepsMetBy_locked env hlock, hstate] at hstopped
      exact absurd hstopped (by decide)

def readyToStop : List SysStep :=
  [.act (.new "net"),
    .act (.setup 0 (some ⟨"service"⟩) .new [⟨.exec, some "/etc/net", some "stop"⟩]),
    .act (.register 0), .setSysState .stateStarting, .start 3 0] ++
    handled (forking 100) 0 ++ handledQuietly (forking 100) 0 ++ [.interrupt 3 0] ++
    handledQuietly (forking 100) 0 ++ handledQuietly (forking 100) 0 ++
    .killed (forking 100) 100 0 :: handled (forking 100) 0 ++
    .stop 0 :: handled (forking 200) 0 ++ [.interrupt 3 0]

def stoppingNet : World := (run (SysStep.apply bareModules) readyToStop (Sys.start ⟨1, 0⟩)).w

def launcherForking (fork : Option Fork) : LaunchHook :=
  simpleLauncher ⟨fun _ => true, fun s => [s], some, fun _ => fork⟩

theorem stopReported_iff_launched :
    (stoppingNet.g.svc 0).currentState = .serviceStopDepsMet ∧
      StopReported [launcherForking (some ([], 200))] 0 stoppingNet
        ((stopDepsMetBy [launcherForking (some ([], 200))] (forking 200) 0 stoppingNet).g.svc
          0).currentState := by
  refine ⟨by decide +kernel, (stopReported_iff _ _ 0 stoppingNet (by decide +kernel)).mpr ?_⟩
  rintro ⟨-, hfails | hfails⟩
  · exact absurd hfails (by decide +kernel)
  · exact hfails (by decide +kernel)

/-- The stop action of a service cannot be launched, and the service counts as stopped. -/
theorem stopReported_not :
    ¬ ∀ (hooks : List LaunchHook) (env : Env) (s : Sid) (w : World),
      (w.g.svc s).currentState = .serviceStopDepsMet →
      StopReported hooks s w ((stopDepsMetBy hooks env s w).g.svc s).currentState := by
  intro hall
  have h := hall [launcherForking none] (forking 200) 0 stoppingNet (by decide +kernel)
  exact h.stopped (by decide +kernel) ⟨_, List.mem_singleton_self _, by decide +kernel⟩

end Initng
