import Initng.ServiceRuns

/-! `depend/up_check.c`. -/

namespace Initng

open StepRun Option

/-- A hook of `EVENT_UP_MET`: it gives the event a status, and it may call into the core. -/
structure UpMetHook (m : Loaded) where
  run : Sid → G → EventStatus × G
  does : ∀ s g, Asked m.toModules Meddled g (run s g).2

inductive SetsFailed {m : Loaded} (s : Sid) : List (UpMetHook m) → G → Prop
  | here {hook : UpMetHook m} {hooks : List (UpMetHook m)} {g : G}
    (h : (hook.run s g).1 = .failed) : SetsFailed s (hook :: hooks) g
  | later {hook : UpMetHook m} {hooks : List (UpMetHook m)} {g : G}
    (hcalled : (hook.run s g).1 ≠ .handled) (h : SetsFailed s hooks (hook.run s g).2) :
    SetsFailed s (hook :: hooks) g

inductive UpCheck
  | service | daemon
  deriving DecidableEq

namespace UpCheck

def failed : UpCheck → AState
  | service => .serviceUpCheckFailed
  | daemon => .daemonUpCheckFailed

def up : UpCheck → AState
  | service => .serviceDone
  | daemon => .daemonRunning

lemma up_ne_failed (check : UpCheck) : check.up ≠ check.failed := by
  cases check <;> decide

end UpCheck

section
variable {m : Loaded} (hooks : List (UpMetHook m)) (s : Sid)

def dependUpCheckBy (g : G) : Ret × G :=
  let r := eventSend (hooks.map fun hook => hook.run s) g
  (if r.1 ≠ .failed then .true else .false, r.2)

def finalUpCheck (check : UpCheck) (w : World) : World :=
  let r := dependUpCheckBy hooks s w.g
  let w := { w with g := r.2 }
  if r.1 = .fail then w.mark s check.failed else w.mark s check.up

end

def killedStartAsks (service : Sid) (process : Prid) (w : World) : Option World :=
  let rcode := (w.processes.process process).rCode
  let w := w.freeProcess process
  if (w.g.svc service).currentState ≠ .serviceStartRun then none
  else if wTermSig rcode = 11 then none
  else if wExitStatus rcode > 0 ∧ is .startFailOk w.g service = false then none
  else some w

def getPidAsks (env : Env) (s : Sid) (w : World) : Option World :=
  if is .pidof w.g s = false ∧ is .pidfile w.g s = false then none
  else
    let pid := if is .pidof w.g s then getPidof env w.g s else getPidfile env w.g s
    if pid ≤ 0 ∨ env.kill pid = .noProcess then none
    else
      (w.processes.get tDaemon s).map fun p =>
        if is .forks w.g s then
          { w with processes := w.processes.modify p fun process => { process with pid := pid } }
        else w

def startDepsMetAsks (env : Env) (daemon : Sid) (w : World) : Option World :=
  let marked := commonMarkService daemon .daemonLaunch w.g
  let w := { w with g := marked.2 }
  if marked.1 = false then none
  else
    let pid := getPidof env w.g daemon
    if is .pidof w.g daemon ∧ pid > 1 ∧ env.kill pid = .found then none
    else
      let r := (w.begins (.launch daemon tDaemon)).executeLaunch env daemon tDaemon
      if r.1 ≠ .true then none
      else if is .pidfile r.2.g daemon ∨ is .pidof r.2.g daemon then none
      else if is .forks r.2.g daemon then none
      else some r.2

def initAsks (env : Env) (state : AState) (s : Sid) (w : World) : Option (UpCheck × World) :=
  if state = .daemonStartDepsMet then (startDepsMetAsks env s w).map (.daemon, ·) else none

def alarmAsks (env : Env) (state : AState) (s : Sid) (w : World) : Option (UpCheck × World) :=
  if state = .serviceStartRun then
    if is .neverKill w.g s then none
    else
      (w.processes.get tStart s).bind fun process =>
        let pid := (w.processes.process process).pid
        if pid ≤ 0 ∨ env.kill pid = .noProcess then
          (killedStartAsks s process w).map (.service, ·)
        else none
  else if state = .daemonWaitForPidFile then
    if w.now > (w.g.svc s).timeCurrentState.tvSec + 60 then none
    else (getPidAsks env s w).map (.daemon, ·)
  else none

def killAsks (env : Env) (type : Ptype) (s : Sid) (process : Prid) (w : World) :
    Option (UpCheck × World) :=
  if type = tStart then (killedStartAsks s process w).map (.service, ·)
  else if type = tDaemon then
    if (w.g.svc s).currentState = .daemonWaitForPidFile ∧ is .forks w.g s then
      (getPidAsks env s w).map (.daemon, ·)
    else none
  else none

namespace SysStep

def asks (c : Sys) : SysStep → Option (Sid × UpCheck × World)
  | advance env _ =>
    match c.stage with
    | .init s => (initAsks env (c.w.g.svc s).currentState s c.w).map (s, ·)
    | _ => none
  | alarm env _ s =>
    if c.stage = .idle ∧ s ∈ c.w.g.activeDb ∧ (c.w.g.svc s).alarm ≠ 0 ∧
        c.w.now ≥ (c.w.g.svc s).alarm then
      (alarmAsks env (c.w.g.svc s).currentState s
        { c.w with g := c.w.g.modify s fun a => { a with alarm := 0 } }).map (s, ·)
    else none
  | killed env kpid rCode =>
    if c.stage = .idle then
      (c.w.killTarget env kpid).bind fun target =>
        (killAsks env (c.w.processes.process target.2).pt target.1 target.2
          { c.w with processes := c.w.processes.modify target.2 (ProcessH.died rCode) }).map
          (target.1, ·)
    else none
  | _ => none

def upMet : SysStep → EventStatus
  | advance env _ => env.upMet
  | alarm env _ _ => env.upMet
  | killed env _ _ => env.upMet
  | _ => .unknown

end SysStep

section
variable {m : Loaded} {hooks : List (UpMetHook m)} {s : Sid} {check : UpCheck} {env : Env}
  {g : G} {w w' : World}

lemma finalUpCheck_eq : finalUpCheck hooks s check w =
    { w with g := (dependUpCheckBy hooks s w.g).2 }.mark s check.up := by
  refine if_neg ?_
  simp only [dependUpCheckBy]
  split <;> exact Ret.noConfusion

def answers (m : Loaded) (status : EventStatus) : UpMetHook m where
  run _ g := (status, g)
  does _ g := .refl g

lemma killedStartAsks_spec {process : Prid} (h : killedStartAsks s process w = some w') :
    handleKilledStart env s process w = w'.mark s .serviceDone ∧ w'.g = w.g := by
  simp only [killedStartAsks] at h
  split_ifs at h with hstate hsig hcode
  cases h
  rw [not_not] at hstate
  have htimeout : AState.serviceStartRun ≠ .serviceStartFailedTimeout := by decide
  refine ⟨?_, rfl⟩
  simp only [handleKilledStart, hstate, htimeout, hsig, hcode, dependUpCheck_ne_fail, if_false,
    ne_eq, not_true_eq_false]

lemma getPidAsks_spec (h : getPidAsks env s w = some w') :
    tryGetPid env s w = (true, w'.mark s .daemonRunning) ∧ w'.g = w.g := by
  rw [getPidAsks] at h
  rw [tryGetPid]
  split at h
  · cases h
  next hnone =>
    rw [if_neg hnone]
    dsimp only at h ⊢
    generalize (if is .pidof w.g s then getPidof env w.g s else getPidfile env w.g s) = pid at h ⊢
    split at h
    · cases h
    next hpid =>
      obtain ⟨p, hp, rfl⟩ := map_eq_some_iff.mp h
      rw [if_neg hpid, hp]
      refine ⟨if_neg (dependUpCheck_ne_fail _), ?_⟩
      split <;> rfl

lemma startDepsMetAsks_spec (h : startDepsMetAsks env s w = some w') :
    initDaemonStartDepsMet env s w = w'.mark s .daemonRunning ∧
      w'.g = (commonMarkService s .daemonLaunch w.g).2 := by
  simp only [startDepsMetAsks] at h
  split_ifs at h with hmarked hadopt hlaunch hpid hforks
  cases h
  rw [not_not] at hlaunch
  refine ⟨?_, rfl⟩
  rw [initDaemonStartDepsMet, if_neg hmarked]
  dsimp only
  rw [if_neg hadopt, hlaunch]
  exact (if_neg hpid).trans ((if_neg hforks).trans (if_neg (dependUpCheck_ne_fail _)))

lemma initAsks_spec (fuel : ℕ) {state : AState}
    (h : initAsks env state s w = some (check, w')) :
    stateInit m.toModules fuel env state s w = some (w'.mark s check.up) ∧
      w'.g = (commonMarkService s .daemonLaunch w.g).2 := by
  rw [initAsks] at h
  split_ifs at h with hstate
  subst hstate
  obtain ⟨w₁, hw₁, he⟩ := map_eq_some_iff.mp h
  cases he
  exact (startDepsMetAsks_spec hw₁).imp (congrArg some) id

lemma alarmAsks_spec (fuel : ℕ) {state : AState}
    (h : alarmAsks env state s w = some (check, w')) :
    stateAlarm m.toModules fuel env state s w = some (w'.mark s check.up) ∧ w'.g = w.g := by
  rw [alarmAsks] at h
  split_ifs at h with hstart hkill hpid hnow
  · subst hstart
    refine And.imp_left (congrArg some) (?_ : timeoutServiceStartRun env s w = _ ∧ _)
    obtain ⟨p, hp, hasks⟩ := bind_eq_some_iff.mp h
    dsimp only at hasks
    split_ifs at hasks with hgone
    obtain ⟨w₁, hw₁, he⟩ := map_eq_some_iff.mp hasks
    cases he
    simp only [timeoutServiceStartRun, timeoutRun, hkill, hp, if_pos hgone]
    exact killedStartAsks_spec hw₁
  · subst hpid
    refine And.imp_left (congrArg some) (?_ : timeoutDaemonWaitForPidFile env s w = _ ∧ _)
    obtain ⟨w₁, hw₁, he⟩ := map_eq_some_iff.mp h
    cases he
    obtain ⟨htry, hg⟩ := getPidAsks_spec hw₁
    simp only [timeoutDaemonWaitForPidFile, hnow, htry, if_false]
    exact ⟨rfl, hg⟩

lemma killAsks_spec {type : Ptype} {process : Prid}
    (h : killAsks env type s process w = some (check, w')) :
    killHandler env type s process w = w'.mark s check.up ∧ w'.g = w.g := by
  rw [killAsks] at h
  split_ifs at h with hstart hdaemon hstate
  · subst hstart
    obtain ⟨w₁, hw₁, he⟩ := map_eq_some_iff.mp h
    cases he
    exact killedStartAsks_spec hw₁
  · subst hdaemon
    obtain ⟨w₁, hw₁, he⟩ := map_eq_some_iff.mp h
    cases he
    obtain ⟨hpid, hg⟩ := getPidAsks_spec hw₁
    refine ⟨(?_ : handleKilledDaemon env s process w = _), hg⟩
    rw [handleKilledDaemon, if_pos hstate, hpid]
    rfl

lemma killedByPid_of_target {kpid rCode : Int} {p : Prid}
    (h : w.killTarget env kpid = some (s, p)) :
    w.killedByPid env kpid rCode =
      killHandler env (w.processes.process p).pt s p (w.dead p rCode) := by
  rw [World.killTarget] at h
  split at h
  · cases h
  next hno =>
    obtain ⟨hpid, hkilled⟩ := not_or.mp hno
    obtain ⟨t, hfind, hget⟩ := bind_eq_some_iff.mp h
    obtain ⟨q, hq, he⟩ := map_eq_some_iff.mp hget
    cases he
    simp only [World.killedByPid, hpid, hfind, hq, hkilled, if_false, ProcessDb.modify_process_self,
      Bool.false_eq_true]
    rfl

variable (m) in
lemma SysStep.asks_spec {c : Sys} (hok : c.Ok) (step : SysStep)
    (h : step.asks c = some (s, check, w)) :
    step.apply m c = ⟨.idle, finalUpCheck [answers m step.upMet] s check w⟩ ∧
      (w.g.svc s).stateLock = 0 := by
  have hend (env : Env) : w.mark s check.up = finalUpCheck [answers m env.upMet] s check w := by
    rw [finalUpCheck_eq, dependUpCheckBy]
    cases env.upMet <;> rfl
  cases step with
  | advance env fuel =>
    obtain ⟨stage, w₀⟩ := c
    cases stage with
    | init t =>
      obtain ⟨⟨check', w'⟩, hasks, he⟩ := map_eq_some_iff.mp h
      cases he
      obtain ⟨hinit, hg⟩ := initAsks_spec (m := m) fuel hasks
      refine ⟨?_, ?_⟩
      · rw [SysStep.apply, if_pos (.inr rfl), upMet, ← hend env]
        simp only [perform, Sys.advance, hinit, map_some, getD_some]
      · rw [hg, commonMarkService_stateLock]
        exact (hok.each _).locked
    | _ => cases h
  | alarm env fuel t =>
    rw [asks] at h
    split at h
    next hdue =>
      obtain ⟨⟨check', w'⟩, hasks, he⟩ := map_eq_some_iff.mp h
      cases he
      obtain ⟨halarm, hg⟩ := alarmAsks_spec (m := m) fuel hasks
      refine ⟨?_, ?_⟩
      · rw [SysStep.apply, if_pos (.inl (by rw [hdue.1]; rfl)), perform, if_pos hdue, halarm,
          upMet, ← hend env, ← hdue.1]
        rfl
      · rw [hg]
        simpa using (hok.each _).unlocked hdue.1
    · cases h
  | killed env kpid rCode =>
    rw [asks] at h
    split at h
    next hidle =>
      obtain ⟨⟨t, p⟩, htarget, hkill⟩ := bind_eq_some_iff.mp h
      obtain ⟨⟨check', w'⟩, hasks, he⟩ := map_eq_some_iff.mp hkill
      cases he
      obtain ⟨hhandler, hg⟩ := killAsks_spec hasks
      refine ⟨?_, ?_⟩
      · rw [SysStep.apply, if_pos (.inl (by rw [hidle]; rfl)), perform, if_pos hidle,
          killedByPid_of_target htarget, hhandler, upMet, ← hend env, hidle]
      · rw [hg]
        exact (hok.each _).unlocked hidle
    · cases h
  | _ => cases h

lemma finalUpCheck_currentState (h0 : (w.g.svc s).stateLock = 0) :
    ((finalUpCheck hooks s check w).g.svc s).currentState = check.up := by
  rw [finalUpCheck_eq]
  refine mark_currentState ?_
  have hmoves : Moves s w.g (dependUpCheckBy hooks s w.g).2 := by
    refine eventSend_rel (R := Moves s) (.refl s) (fun _ _ _ => .trans) (fun run hrun g => ?_) w.g
    obtain ⟨hook, -, rfl⟩ := List.mem_map.mp hrun
    exact .asked m (hook.does s g) s
  exact (hmoves.stateLock (.inr h0)).trans h0

end

namespace SEntry

def waitForFileAfter : SEntry := .other "wait_for_file_after"
def requireFileAfter : SEntry := .other "require_file_after"

end SEntry

def AState.requireFileAfterFailed : AState := ⟨"REQUIRE_FILE_AFTER_FAILED", .isFailed⟩

/-- What the next loop with the same cursor goes through: what stands behind the entry at which the
last one ended, or all of them again. -/
def walkOn (entries : List (Option String)) : List (Option String) :=
  match entries.dropWhile isSome with
  | [] => entries
  | _ :: rest => rest

/-- `check_files_to_exist_after`, with what `stat` finds in the first loop and in the second,
which goes through `WAIT_FOR_FILE_AFTER` as well. -/
def checkFilesToExistAfter (m : Loaded) (stat stat' : String → Bool) : UpMetHook m where
  run service g :=
    let entries := strings .waitForFileAfter g service
    if (untilNull entries).all stat = false then (.failed, g)
    else if (untilNull (walkOn entries)).all stat' = false then
      (.failed, (commonMarkService service .requireFileAfterFailed g).2)
    else (.waiting, g)
  does service g := by
    dsimp only
    split
    · exact .refl g
    · split
      · refine .other ⟨[.mark service .requireFileAfterFailed], ?_⟩
        have hforeign : AState.requireFileAfterFailed.foreignTo (g.svc service).type = true := by
          have howner : AState.requireFileAfterFailed.owner = none := by decide
          have hfailed : AState.requireFileAfterFailed.is = .isFailed := rfl
          simp [AState.foreignTo, howner, hfailed]
        simp [ModuleAct.apply, hforeign]
      · exact .refl g

def filesAfter (g : G) (s : Sid) : List String :=
  (strings .waitForFileAfter g s ++ strings .requireFileAfter g s).reduceOption

/-- Whenever the final check is made in a run, it is binding if and only if no hook fails it, and
with the module `fstat` loaded, if and only if all the files are there. -/
theorem upCheck_binding_iff (m : Loaded) (now : Timeval) (steps : List SysStep) (step : SysStep)
    (s : Sid) (check : UpCheck) (w : World) (hooks : List (UpMetHook m))
    (h : step.asks (run (SysStep.apply m) steps (Sys.start now)) = some (s, check, w)) :
    ((SetsFailed s hooks w.g →
        ((finalUpCheck hooks s check w).g.svc s).currentState = check.failed) ↔
      ¬ SetsFailed s hooks w.g) ∧
    ∀ stat stat', checkFilesToExistAfter m stat stat' ∈ hooks →
      ((((finalUpCheck hooks s check w).g.svc s).currentState = check.up →
          ∀ file ∈ filesAfter w.g s, stat' file = true) ↔
        ∀ file ∈ filesAfter w.g s, stat' file = true) := by
  have hlock := (step.asks_spec m (Sys.run_ok m now steps) h).2
  have hup : ((finalUpCheck hooks s check w).g.svc s).currentState = check.up :=
    finalUpCheck_currentState hlock
  refine ⟨⟨fun hbinds hfails => ?_, fun hno hfails => absurd hfails hno⟩, fun stat stat' _ => ?_⟩
  · exact check.up_ne_failed (hup.symm.trans (hbinds hfails))
  · exact ⟨fun hfiles => hfiles hup, fun hfiles _ => hfiles⟩

def startEnds : List SysStep :=
  startRuns ++ [.act (.setData 0 [⟨.waitForFileAfter, some "/var/run/net.pid", none⟩])]

lemma startEnds_asks : ∃ w, (SysStep.killed (forking 100) 100 0).asks
      (run (SysStep.apply bareModules) startEnds (Sys.start ⟨1, 0⟩)) = some (0, .service, w) ∧
    strings .waitForFileAfter w.g 0 = [some "/var/run/net.pid"] := by
  have hasks : (((SysStep.killed (forking 100) 100 0).asks
      (run (SysStep.apply bareModules) startEnds (Sys.start ⟨1, 0⟩))).map fun r =>
        (r.1, r.2.1, strings .waitForFileAfter r.2.2.g 0)) =
      some (0, .service, [some "/var/run/net.pid"]) := by decide +kernel
  obtain ⟨⟨s, check, w⟩, hw, he⟩ := map_eq_some_iff.mp hasks
  simp only [Prod.mk.injEq] at he
  obtain ⟨rfl, rfl, hfiles⟩ := he
  exact ⟨w, hw, hfiles⟩

/-- The file is there, and the service is marked as up. -/
theorem upCheck_binding_fstat : ∃ w, (SysStep.killed (forking 100) 100 0).asks
      (run (SysStep.apply bareModules) startEnds (Sys.start ⟨1, 0⟩)) = some (0, .service, w) ∧
    ¬ SetsFailed 0 [checkFilesToExistAfter bareModules (fun _ => true) fun _ => true] w.g := by
  obtain ⟨w, hasks, -⟩ := startEnds_asks
  have hbinding := (upCheck_binding_iff bareModules ⟨1, 0⟩ startEnds _ 0 .service w
    [checkFilesToExistAfter bareModules (fun _ => true) fun _ => true] hasks).1
  refine ⟨w, hasks, hbinding.mp fun hfails => ?_⟩
  cases hfails with
  | here h => simp [checkFilesToExistAfter] at h
  | later _ h => cases h

/-- The module `fstat` does not find the file that a service names, and the service is marked as
up. -/
theorem upCheck_not_binding :
    ¬ ∀ (m : Loaded) (now : Timeval) (steps : List SysStep) (step : SysStep) (s : Sid)
      (check : UpCheck) (w : World) (hooks : List (UpMetHook m)),
      step.asks (run (SysStep.apply m) steps (Sys.start now)) = some (s, check, w) →
      SetsFailed s hooks w.g →
      ((finalUpCheck hooks s check w).g.svc s).currentState = check.failed := by
  intro h
  obtain ⟨w, hasks, hfiles⟩ := startEnds_asks
  have hlock := (SysStep.asks_spec bareModules (Sys.run_ok bareModules ⟨1, 0⟩ startEnds) _ hasks).2
  have hfails : SetsFailed 0 [checkFilesToExistAfter bareModules (fun _ => false) fun _ => false]
      w.g := by
    refine .here ?_
    simp only [checkFilesToExistAfter]
    rw [hfiles]
    rfl
  have hstate := h bareModules ⟨1, 0⟩ startEnds _ 0 .service w _ hasks hfails
  rw [finalUpCheck_currentState hlock] at hstate
  exact UpCheck.up_ne_failed .service hstate

end Initng
