import Initng.DaemonHooks
import Initng.Requests

namespace Initng

open List Option

/-- What a hook may use: the states it marks, the types of the processes it handles, and whether
it begins something. -/
structure Scope where
  marks : List AState
  types : List Ptype
  begins : Bool

def serviceWay : List AState :=
  [.serviceStartMarked, .serviceWaitingForStartDep, .serviceStartDepsMet]

def serviceRest : List AState :=
  [.serviceStopMarked, .serviceDone, .serviceWaitingForStopDep, .serviceStopped,
    .serviceStopDepsMet, .serviceStartRun, .serviceStopRun, .serviceStartDepsFailed,
    .serviceFailStartLaunch, .serviceFailStartNonexist, .serviceFailStartRcode,
    .serviceFailStartSignal, .serviceStartFailedTimeout, .serviceStopDepsFailed,
    .serviceFailStopNonexist, .serviceFailStopRcode, .serviceFailStopSignal,
    .serviceStopFailedTimeout, .serviceUpCheckFailed]

def daemonWay : List AState := [.daemonStartMarked, .daemonWaitingForStartDep, .daemonStartDepsMet]

def daemonRest : List AState :=
  [.daemonStopMarked, .daemonRunning, .daemonWaitingForStopDep, .daemonStopped,
    .daemonFailStopping, .daemonStopDepsMet, .daemonKill, .daemonTerm, .daemonLaunch,
    .daemonWaitForPidFile, .daemonWaitRespTout, .daemonStartDepsFailed, .daemonFailStartRcode,
    .daemonFailStartSignal, .daemonFailStartLaunch, .daemonFailStartTimeoutPidfile,
    .daemonFailStartNonexist, .daemonUpCheckFailed, .daemonRespawnRateExceeded]

def serviceScope : Scope := ⟨serviceWay ++ serviceRest, [tStart, tStop], true⟩

def serviceQuiet : Scope := ⟨serviceRest, [tStart, tStop], false⟩

def serviceEnds : Scope := { serviceQuiet with marks := serviceRest.filter (· ≠ .serviceStartRun) }

def daemonScope : Scope := ⟨daemonWay ++ daemonRest, [tDaemon, tKill], true⟩

def daemonQuiet : Scope := ⟨daemonRest, [tDaemon, tKill], false⟩

def Scope.launching (scope : Scope) : Scope := { scope with begins := true }

/-- What a hook may do that works for the service `t` within a scope, if `R` is what hooks of
other modules may do. -/
inductive Works (m : Modules) (R : G → G → Prop) (scope : Scope) (t : Sid) : World → World → Prop
  | refl (w : World) : Works m R scope t w w
  | trans {w w' w'' : World} :
    Works m R scope t w w' → Works m R scope t w' w'' → Works m R scope t w w''
  | asked {w : World} {g' : G} (h : Asked m R w.g g') : Works m R scope t w { w with g := g' }
  | mark (w : World) {st : AState} (hst : st ∈ scope.marks) : Works m R scope t w (w.mark t st)
  | alarm (w : World) (alarm nextAlarm : Int) : Works m R scope t w
      { w with g := w.g.modify t fun a => { a with alarm := alarm }, nextAlarm := nextAlarm }
  | setInt (w : World) (type : SEntry) (value : Int) :
    Works m R scope t w (w.setInt type t value)
  | free {w : World} {p : Prid} (hp : p ∈ w.processes.processes t)
      (htype : (w.processes.process p).pt ∈ scope.types) : Works m R scope t w (w.freeProcess p)
  | record {w : World} {p : Prid} {f : ProcessH → ProcessH} (hp : p ∈ w.processes.processes t)
      (hf : ∀ x, (f x).pst = x.pst ∧ (f x).pt = x.pt) :
    Works m R scope t w { w with processes := w.processes.modify p f }
  | launch (w : World) (env : Env) {type : Ptype} (htype : type ∈ scope.types) :
    Works m R scope t w (w.executeLaunch env t type).2
  | adopt (w : World) {process : ProcessH} (htype : process.pt ∈ scope.types) :
    Works m R scope t w { w with processes := w.processes.register t process }
  | begins (w : World) (call : StartCall) (h : scope.begins = true) :
    Works m R scope t w (w.begins call)

lemma ProcessDb.get_some {db : ProcessDb} {type : Ptype} {s : Sid} {p : Prid}
    (h : db.get type s = some p) :
    p ∈ db.processes s ∧ (db.process p).pst = .pActive ∧ (db.process p).pt = type := by
  have hp := find?_some h
  simp only [decide_eq_true_eq] at hp
  exact ⟨mem_of_find?_eq_some h, hp⟩

namespace Works

variable {m : Modules} {R : G → G → Prop} {scope scope' : Scope} {s : Sid} {w w' w'' : World}

lemma mono (h : Works m R scope s w w') (hmarks : ∀ st ∈ scope.marks, st ∈ scope'.marks)
    (htypes : ∀ type ∈ scope.types, type ∈ scope'.types)
    (hbegins : scope.begins = true → scope'.begins = true) : Works m R scope' s w w' := by
  induction h with
  | refl w => exact .refl w
  | trans _ _ ih ih' => exact .trans ih ih'
  | asked h => exact .asked h
  | mark w hst => exact .mark w (hmarks _ hst)
  | alarm w alarm nextAlarm => exact .alarm w alarm nextAlarm
  | setInt w type value => exact .setInt w type value
  | free hp htype => exact .free hp (htypes _ htype)
  | record hp hf => exact .record hp hf
  | launch w env htype => exact .launch w env (htypes _ htype)
  | adopt w htype => exact .adopt w (htypes _ htype)
  | begins w call h => exact .begins w call (hbegins h)

lemma launching (h : Works m R scope s w w') : Works m R scope.launching s w w' :=
  h.mono (fun _ => id) (fun _ => id) fun _ => rfl

lemma quiet (h : Works m R serviceEnds s w w') : Works m R serviceQuiet s w w' :=
  h.mono (fun _ => mem_of_mem_filter) (fun _ => id) id

lemma service (h : Works m R serviceQuiet.launching s w w') : Works m R serviceScope s w w' :=
  h.mono (fun _ => mem_append_right _) (fun _ => id) fun _ => rfl

lemma daemon (h : Works m R daemonQuiet.launching s w w') : Works m R daemonScope s w w' :=
  h.mono (fun _ => mem_append_right _) (fun _ => id) fun _ => rfl

lemma then_mark (h : Works m R scope s w w') {st : AState} (hst : st ∈ scope.marks) :
    Works m R scope s w (w'.mark s st) := h.trans (.mark w' hst)

lemma setAlarm (w : World) (seconds : Int) : Works m R scope s w (w.setAlarm s seconds) :=
  .alarm w _ _

lemma freeGot {type : Ptype} {p : Prid} (h : w.processes.get type s = some p)
    (htype : type ∈ scope.types) : Works m R scope s w (w.freeProcess p) := by
  obtain ⟨hp, -, hpt⟩ := ProcessDb.get_some h
  exact .free hp (by rwa [hpt])

end Works

section
variable {m : Modules} {R : G → G → Prop} {w w' : World} {s : Sid} {p : Prid} {fuel : ℕ}
  {scope : Scope}

lemma works_dependStopDeps (l : List Sid) :
    Works m R scope s w { w with g := (dependStopDeps m s l w.g).2 } :=
  .asked (asked_dependStopDeps s l w.g)

section
variable (hm : HooksDo m R)
include hm

lemma works_dependStartDeps {l : List SData} {r : Bool × G}
    (h : dependStartDeps (handlerStartService m fuel) m s l w.g = some r) :
    Works m R scope s w { w with g := r.2 } :=
  .asked (asked_dependStartDeps hm (asks_handlerStartService hm fuel) h)

lemma works_waitingForStartDep {failed stopped met : AState} (hfailed : failed ∈ scope.marks)
    (hstopped : stopped ∈ scope.marks) (hmet : met ∈ scope.marks)
    (h : waitingForStartDep failed stopped met m fuel s w = some w') :
    Works m R scope s w w' := by
  obtain ⟨r, hr, rfl⟩ := map_eq_some_iff.mp h
  have hdeps : Works m R scope s w { w with g := r.2 } := .asked (asked_dependStartDepMet hm hr)
  dsimp only
  split
  · exact hdeps
  · exact hdeps.then_mark hfailed
  · split
    · exact hdeps.then_mark hstopped
    · exact hdeps.then_mark hmet

lemma works_waitingForStopDep {met : AState} (hmet : met ∈ scope.marks) :
    Works m R scope s w (waitingForStopDep met m s w) := by
  have hdeps : Works m R scope s w { w with g := (dependStopDepMet m s w.g).2 } :=
    .asked (asked_dependStopDepMet hm s w.g)
  unfold waitingForStopDep
  dsimp only
  split
  · exact hdeps
  · exact hdeps.then_mark hmet

lemma works_initServiceStartMarked
    (hmarks : ∀ st ∈ [.serviceStartDepsFailed, .serviceWaitingForStartDep], st ∈ scope.marks)
    (h : initServiceStartMarked m fuel s w = some w') : Works m R scope s w w' := by
  obtain ⟨r, hr, rfl⟩ := map_eq_some_iff.mp h
  dsimp only
  split <;> exact (works_dependStartDeps hm hr).then_mark (hmarks _ (by simp))

omit hm in
lemma works_initServiceStopMarked
    (hmarks : ∀ st ∈ [.serviceStopDepsFailed, .serviceWaitingForStopDep], st ∈ scope.marks) :
    Works m R scope s w (initServiceStopMarked m s w) := by
  unfold initServiceStopMarked
  dsimp only
  split <;> exact (works_dependStopDeps _).then_mark (hmarks _ (by simp))

end

variable (env : Env)

lemma works_initServiceStartDepsMet :
    Works m R serviceQuiet.launching s w (initServiceStartDepsMet env s w) := by
  have hrun : Works m R serviceQuiet.launching s w (w.mark s .serviceStartRun) :=
    .mark w (by decide)
  have hlaunch := (hrun.trans (.begins _ (.launch s tStart) rfl)).trans
    (.launch _ env (by decide : tStart ∈ serviceQuiet.launching.types))
  unfold initServiceStartDepsMet
  dsimp only
  split
  · exact hrun
  split
  · exact hlaunch.then_mark (by decide)
  · exact hlaunch.then_mark (by decide)
  · exact hlaunch

lemma works_initServiceStopDepsMet
    (hmarks : ∀ st ∈ [.serviceStopRun, .serviceFailStopNonexist, .serviceStopped],
      st ∈ scope.marks) (htype : tStop ∈ scope.types) :
    Works m R scope s w (initServiceStopDepsMet env s w) := by
  have hrun : Works m R scope s w (w.mark s .serviceStopRun) := .mark w (hmarks _ (by simp))
  have hlaunch := hrun.trans (.launch _ env htype)
  unfold initServiceStopDepsMet
  dsimp only
  split
  · exact hrun
  split
  · exact hlaunch.then_mark (hmarks _ (by simp))
  · exact hlaunch.then_mark (hmarks _ (by simp))
  · exact hlaunch

lemma works_initRun (entry : SEntry) (default : Int) :
    Works m R scope s w (initRun entry default s w) := by
  unfold initRun
  split
  · exact .refl w
  · exact .setAlarm w _

lemma works_handleKilledStart (hp : p ∈ w.processes.processes s)
    (htype : (w.processes.process p).pt = tStart) :
    Works m R serviceEnds s w (handleKilledStart env s p w) := by
  have hfree : Works m R serviceEnds s w (w.freeProcess p) := .free hp (by rw [htype]; decide)
  unfold handleKilledStart
  dsimp only
  split_ifs
  all_goals first | exact hfree | exact hfree.then_mark (by decide)

lemma works_handleKilledStop
    (hmarks : ∀ st ∈ [.serviceFailStopSignal, .serviceFailStopRcode, .serviceStopped],
      st ∈ scope.marks) (htypes : tStop ∈ scope.types) (hp : p ∈ w.processes.processes s)
    (htype : (w.processes.process p).pt = tStop) :
    Works m R scope s w (handleKilledStop s p w) := by
  have hfree : Works m R scope s w (w.freeProcess p) := .free hp (by rwa [htype])
  unfold handleKilledStop
  dsimp only
  split_ifs
  all_goals first | exact hfree | exact hfree.then_mark (hmarks _ (by simp))

lemma works_timeoutRun {type : Ptype} {killed : Sid → Prid → World → World} {failed : AState}
    (hkilled : ∀ p ∈ w.processes.processes s, (w.processes.process p).pt = type →
      Works m R scope s w (killed s p w)) (hfailed : failed ∈ scope.marks) (env : Env) :
    Works m R scope s w (timeoutRun type killed failed env s w) := by
  unfold timeoutRun
  split
  · exact .refl w
  split
  · exact .refl w
  next process hget =>
    obtain ⟨hp, -, hpt⟩ := ProcessDb.get_some hget
    dsimp only
    split
    · exact hkilled process hp hpt
    · exact .mark w hfailed

lemma works_killDaemon : Works m R daemonQuiet s w (killDaemon env s w) := by
  unfold killDaemon
  split
  · exact .refl w
  next process hget =>
    have hfree : Works m R daemonQuiet s w (w.freeProcess process) := .freeGot hget (by decide)
    dsimp only
    split_ifs
    · exact hfree
    · exact hfree
    · exact .refl w

lemma works_checkRespawn : Works m R daemonQuiet s w (checkRespawn s w).2 := by
  have hrespawn : Works m R daemonQuiet s w (w.setInt .internalLastRespawn s (cInt w.now)) :=
    .setInt w _ _
  rw [checkRespawn]
  dsimp only
  generalize (if is .internalLastRespawn w.g s then w.getInt .internalLastRespawn s else 0) = last
  generalize (if is .respawnRate w.g s then w.getInt .respawnRate s else 10) = respawnRate
  split_ifs
  · exact .refl w
  · exact .refl w
  · exact .mark w (by decide)
  · exact hrespawn.then_mark (by decide)

lemma works_tryGetPid : Works m R daemonQuiet s w (tryGetPid env s w).2 := by
  rw [tryGetPid]
  dsimp only
  generalize (if is .pidof w.g s then getPidof env w.g s else getPidfile env w.g s) = pid
  split
  · exact .refl w
  split
  · exact .refl w
  split
  · exact .mark w (by decide)
  next p hget =>
    have hpid : Works m R daemonQuiet s w (if is .forks w.g s then
        { w with processes := w.processes.modify p fun process => { process with pid := pid } }
        else w) := by
      split
      · exact .record (ProcessDb.get_some hget).1 fun _ => ⟨rfl, rfl⟩
      · exact .refl w
    split <;> exact hpid.then_mark (by decide)

lemma works_initDaemonStartMarked (hm : HooksDo m R)
    (h : initDaemonStartMarked m fuel s w = some w') : Works m R daemonScope s w w' := by
  obtain ⟨r, hr, rfl⟩ := map_eq_some_iff.mp h
  exact (works_dependStartDeps hm hr).then_mark (by decide)

lemma works_daemonLaunched : Works m R daemonQuiet s w (daemonLaunched env s w) := by
  unfold daemonLaunched
  split_ifs
  all_goals first | exact .refl w | exact .mark w (by decide)

lemma works_initDaemonStartDepsMet :
    Works m R daemonQuiet.launching s w (initDaemonStartDepsMet env s w) := by
  have hmark : Works m R daemonQuiet.launching s w (w.mark s .daemonLaunch) := .mark w (by decide)
  have hlaunch := (hmark.trans (.begins _ (.launch s tDaemon) rfl)).trans
    (.launch _ env (by decide : tDaemon ∈ daemonQuiet.launching.types))
  unfold initDaemonStartDepsMet
  dsimp only
  split
  · exact hmark
  split
  · have hbegins (pid : Int) := hmark.trans (.begins _ (.adopt s pid) rfl)
    have htype (pid : Int) : { processDbNew tDaemon with pid := pid }.pt ∈
        daemonQuiet.launching.types := .head _
    exact ((hbegins _).trans (.adopt _ (htype _))).then_mark (by decide)
  split
  · exact hlaunch.then_mark (by decide)
  · exact hlaunch.then_mark (by decide)
  · exact hlaunch.trans (works_daemonLaunched env).launching

lemma works_initDaemonStopDepsMet : Works m R daemonQuiet s w (initDaemonStopDepsMet env s w) := by
  unfold initDaemonStopDepsMet
  split
  · exact .refl w
  dsimp only
  split
  · exact .mark w (by decide)
  split
  · exact .mark w (by decide)
  have hlaunch : Works m R daemonQuiet s w (w.executeLaunch env s tKill).2 :=
    .launch w env (by decide)
  split
  · exact hlaunch.then_mark (by decide)
  · exact (hlaunch.trans (works_killDaemon env)).then_mark (by decide)
  · exact hlaunch.then_mark (by decide)

lemma works_timeoutDaemonWaitForPidFile :
    Works m R daemonQuiet s w (timeoutDaemonWaitForPidFile env s w) := by
  unfold timeoutDaemonWaitForPidFile
  split
  · have hkill : Works m R daemonQuiet s w
        (killDaemon env s (w.mark s .daemonFailStartTimeoutPidfile)) :=
      (Works.mark w (by decide)).trans (works_killDaemon env)
    dsimp only
    split
    · exact hkill
    next hget => exact hkill.trans (.freeGot hget (by decide))
  · dsimp only
    split
    · exact (works_tryGetPid env).trans (.setAlarm _ 1)
    · exact works_tryGetPid env

lemma works_timeoutDaemonWaitRespTout (hm : HooksDo m R)
    (h : timeoutDaemonWaitRespTout m fuel s w = some w') : Works m R daemonQuiet s w w' := by
  obtain ⟨r, hr, rfl⟩ := map_eq_some_iff.mp h
  have hstopped : Works m R daemonQuiet s w (w.mark s .daemonStopped) := .mark w (by decide)
  exact hstopped.trans (.asked (asks_handlerStartService hm fuel _ _ _ hr))

lemma works_handleKilledDaemon (hp : p ∈ w.processes.processes s)
    (htype : (w.processes.process p).pt = tDaemon) :
    Works m R daemonQuiet s w (handleKilledDaemon env s p w) := by
  unfold handleKilledDaemon
  split
  · exact works_tryGetPid env
  have hprocesses : (checkRespawn s w).2.processes = w.processes := by
    rw [checkRespawn]
    dsimp only
    split_ifs <;> rfl
  have hfree : Works m R daemonQuiet s w ((checkRespawn s w).2.freeProcess p) := by
    refine works_checkRespawn.trans (.free ?_ ?_)
    · rwa [hprocesses]
    · rw [hprocesses, htype]
      decide
  dsimp only
  split
  · exact hfree
  · refine hfree.trans ?_
    unfold daemonExited
    split_ifs <;> exact .mark _ (by decide)

end

variable {c : Prop} {b : Option World} {P : World → Prop} {w : World}

lemma forall_mem_ite [Decidable c] {a : Option World} (ha : c → ∀ w ∈ a, P w)
    (hb : ¬c → ∀ w ∈ b, P w) : ∀ w ∈ (if c then a else b), P w := by
  split
  next hc => exact ha hc
  next hc => exact hb hc

lemma forall_mem_some (h : P w) : ∀ w' ∈ some w, P w' := by
  simpa using h

lemma forall_mem_row [Decidable c] (ha : c → P w) (hb : ¬c → ∀ w ∈ b, P w) :
    ∀ w' ∈ (if c then some w else b), P w' :=
  forall_mem_ite (fun hc => forall_mem_some (ha hc)) hb

def Hooked (m : Modules) (R : G → G → Prop) (state : AState) (s : Sid) (w w' : World) : Prop :=
  state ∈ serviceScope.marks ∧ Works m R serviceScope s w w' ∨
    state ∈ daemonScope.marks ∧ Works m R daemonScope s w w' ∨ w' = w

section
variable {m : Modules} {R : G → G → Prop} {w w' : World} {s : Sid} {fuel : ℕ} {state st : AState}

lemma Hooked.service (h : state = st) (hst : st ∈ serviceScope.marks)
    (hworks : Works m R serviceScope s w w') : Hooked m R state s w w' := .inl ⟨h ▸ hst, hworks⟩

lemma Hooked.daemon (h : state = st) (hst : st ∈ daemonScope.marks)
    (hworks : Works m R daemonScope s w w') : Hooked m R state s w w' :=
  .inr (.inl ⟨h ▸ hst, hworks⟩)

/-- Nothing is begun, and the start script is not launched. -/
def HookedQuietly (m : Modules) (R : G → G → Prop) (state : AState) (s : Sid) (w w' : World) :
    Prop :=
  state ∈ serviceScope.marks ∧ Works m R serviceEnds s w w' ∨
    state ∈ daemonScope.marks ∧ Works m R daemonQuiet s w w' ∨ w' = w

lemma HookedQuietly.hooked (h : HookedQuietly m R state s w w') : Hooked m R state s w w' := by
  rcases h with ⟨hstate, hworks⟩ | ⟨hstate, hworks⟩ | hsame
  · exact .inl ⟨hstate, hworks.quiet.launching.service⟩
  · exact .inr (.inl ⟨hstate, hworks.launching.daemon⟩)
  · exact .inr (.inr hsame)

lemma HookedQuietly.service (h : state = st) (hst : st ∈ serviceScope.marks)
    (hworks : Works m R serviceEnds s w w') : HookedQuietly m R state s w w' :=
  .inl ⟨h ▸ hst, hworks⟩

lemma HookedQuietly.daemon (h : state = st) (hst : st ∈ daemonScope.marks)
    (hworks : Works m R daemonQuiet s w w') : HookedQuietly m R state s w w' :=
  .inr (.inl ⟨h ▸ hst, hworks⟩)

/-- What an init hook does in this state: it starts the service, or works quietly. -/
inductive InitHooked (m : Modules) (R : G → G → Prop) (fuel : ℕ) (env : Env) (s : Sid)
    (w : World) : AState → World → Prop
  | startMarked {w' : World} (h : initServiceStartMarked m fuel s w = some w') :
    InitHooked m R fuel env s w .serviceStartMarked w'
  | startDepsMet :
    InitHooked m R fuel env s w .serviceStartDepsMet (initServiceStartDepsMet env s w)
  | daemonMarked {w' : World} (h : initDaemonStartMarked m fuel s w = some w') :
    InitHooked m R fuel env s w .daemonStartMarked w'
  | daemonDepsMet :
    InitHooked m R fuel env s w .daemonStartDepsMet (initDaemonStartDepsMet env s w)
  | quiet {state : AState} {w' : World} (h : HookedQuietly m R state s w w') :
    InitHooked m R fuel env s w state w'

lemma initHooked_stateInit (env : Env) :
    ∀ w' ∈ stateInit m fuel env state s w, InitHooked m R fuel env s w state w' := by
  rw [stateInit]
  refine forall_mem_ite (fun h w' hw' => h ▸ .startMarked hw') fun _ => ?_
  refine forall_mem_row (fun h =>
    .quiet (.service h (by decide) (works_initServiceStopMarked (by decide)))) fun _ => ?_
  refine forall_mem_row (fun h => h ▸ .startDepsMet) fun _ => ?_
  refine forall_mem_row (fun h => .quiet (.service h (by decide)
    (works_initServiceStopDepsMet env (by decide) (by decide)))) fun _ => ?_
  refine forall_mem_row (fun h => .quiet (.service h (by decide) (works_initRun _ _))) fun _ => ?_
  refine forall_mem_row (fun h => .quiet (.service h (by decide) (works_initRun _ _))) fun _ => ?_
  refine forall_mem_ite (fun h w' hw' => h ▸ .daemonMarked hw') fun _ => ?_
  refine forall_mem_row (fun h =>
    .quiet (.daemon h (by decide) ((works_dependStopDeps _).then_mark (by decide)))) fun _ => ?_
  refine forall_mem_row (fun h => h ▸ .daemonDepsMet) fun _ => ?_
  refine forall_mem_row (fun h =>
    .quiet (.daemon h (by decide) (works_initDaemonStopDepsMet env))) fun _ => ?_
  -- the states that only set an alarm
  refine forall_mem_row (fun h => .quiet (.daemon h (by decide) (.setAlarm w _))) fun _ => ?_
  refine forall_mem_row (fun h => .quiet (.daemon h (by decide) (.setAlarm w _))) fun _ => ?_
  refine forall_mem_row (fun h => .quiet (.daemon h (by decide) (.setAlarm w _))) fun _ => ?_
  refine forall_mem_row (fun h => .quiet (.daemon h (by decide) (.setAlarm w _))) fun _ => ?_
  exact forall_mem_some (.quiet (.inr (.inr rfl)))

lemma hooked_stateInit (hm : HooksDo m R) (env : Env) :
    ∀ w' ∈ stateInit m fuel env state s w, Hooked m R state s w w' := by
  intro w' hw'
  cases initHooked_stateInit (R := R) env w' hw' with
  | startMarked h =>
    exact .service rfl (by decide) (works_initServiceStartMarked hm (by decide) h)
  | startDepsMet => exact .service rfl (by decide) (works_initServiceStartDepsMet env).service
  | daemonMarked h => exact .daemon rfl (by decide) (works_initDaemonStartMarked hm h)
  | daemonDepsMet => exact .daemon rfl (by decide) (works_initDaemonStartDepsMet env).daemon
  | quiet h => exact h.hooked

lemma hooked_stateInterrupt (hm : HooksDo m R) :
    ∀ w' ∈ stateInterrupt m fuel state s w, Hooked m R state s w w' := by
  rw [stateInterrupt]
  refine forall_mem_ite (fun h w' hw' => .service h (by decide)
    (works_waitingForStartDep hm (by decide) (by decide) (by decide) hw')) fun _ => ?_
  refine forall_mem_row (fun h =>
    .service h (by decide) (works_waitingForStopDep hm (by decide))) fun _ => ?_
  refine forall_mem_ite (fun h w' hw' => .daemon h (by decide)
    (works_waitingForStartDep hm (by decide) (by decide) (by decide) hw')) fun _ => ?_
  refine forall_mem_row (fun h =>
    .daemon h (by decide) (works_waitingForStopDep hm (by decide))) fun _ => ?_
  exact forall_mem_some (.inr (.inr rfl))

lemma hookedQuietly_stateAlarm (hm : HooksDo m R) (env : Env) :
    ∀ w' ∈ stateAlarm m fuel env state s w, HookedQuietly m R state s w w' := by
  have hkill : Works m R daemonQuiet s w (killDaemon env s w) := works_killDaemon env
  rw [stateAlarm]
  refine forall_mem_row (fun h => .service h (by decide)
    (works_timeoutRun (fun _ => works_handleKilledStart env) (by decide) env)) fun _ => ?_
  refine forall_mem_row (fun h => .service h (by decide) (works_timeoutRun
    (fun _ => works_handleKilledStop (by decide) (by decide)) (by decide) env)) fun _ => ?_
  refine forall_mem_row (fun h =>
    .daemon h (by decide) (works_timeoutDaemonWaitForPidFile env)) fun _ => ?_
  refine forall_mem_ite (fun h w' hw' =>
    .daemon h (by decide) (works_timeoutDaemonWaitRespTout hm hw')) fun _ => ?_
  refine forall_mem_row (fun h =>
    .daemon h (by decide) (hkill.then_mark (by decide))) fun _ => ?_
  refine forall_mem_row (fun h =>
    .daemon h (by decide) (hkill.trans (.setAlarm _ 2))) fun _ => ?_
  exact forall_mem_some (.inr (.inr rfl))

def Handled (m : Modules) (R : G → G → Prop) (type : Ptype) (p : Prid) (s : Sid) (w w' : World) :
    Prop :=
  (type = tStart ∨ type = tStop) ∧ Works m R serviceScope s w w' ∨
    type = tDaemon ∧ Works m R daemonScope s w w' ∨
    (type ≠ tStart ∧ type ≠ tStop ∧ type ≠ tDaemon) ∧ w' = w.freeProcess p

lemma handled_killHandler (env : Env) {p : Prid} (hp : p ∈ w.processes.processes s) :
    Handled m R (w.processes.process p).pt p s w
      (killHandler env (w.processes.process p).pt s p w) := by
  unfold killHandler
  split_ifs with hstart hstop hdaemon
  · exact .inl ⟨.inl hstart, (works_handleKilledStart env hp hstart).quiet.launching.service⟩
  · exact .inl ⟨.inr hstop, works_handleKilledStop (by decide) (by decide) hp hstop⟩
  · exact .inr (.inl ⟨hdaemon, (works_handleKilledDaemon env hp hdaemon).launching.daemon⟩)
  · exact .inr (.inr ⟨⟨hstart, hstop, hdaemon⟩, rfl⟩)

end

end Initng
