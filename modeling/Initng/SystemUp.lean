import Initng.ServiceRuns

namespace Initng

open StepRun

section
variable (m : Loaded) {s t : Sid} {g g' : G} {w w' : World}

lemma ModuleAct.sysState_apply (a : ModuleAct) (g : G) : (a.apply g).sysState = g.sysState := by
  cases a with
  | mark t state =>
    rw [ModuleAct.apply]
    split
    · exact (OwnChange.mark state).sysState
    · rfl
  | setup t type state data =>
    rw [ModuleAct.apply]
    split <;> rfl
  | register t =>
    rw [ModuleAct.apply]
    split
    · rcases activeDbRegister_cases t g with he | ⟨-, he⟩ <;> rw [he]
      rfl
    · rfl
  | _ => rfl

lemma Meddled.sysState (h : Meddled g g') : g'.sysState = g.sysState := by
  obtain ⟨acts, rfl⟩ := h
  exact invariant (I := fun g' => g'.sysState = g.sysState)
    (fun g' a h => (a.sysState_apply g').trans h) acts rfl

lemma sysState_turnHook {waiting back marked : AState} :
    (turnHook waiting back marked t g).2.sysState = g.sysState := turnHook_ownChange.sysState

lemma sysState_start {type : Stype} {hook : Sid → G → Bool × G}
    (h : allTypes.start type = some hook) : (hook t g).2.sysState = g.sysState := by
  simp only [allTypes, typeModules] at h
  split_ifs at h <;> cases h
  · unfold startTask
    split
    · exact (OwnChange.mark .taskRunMarked).sysState
    · rfl
  · rfl
  all_goals exact sysState_turnHook

lemma Asked.sysState (h : Asked m.toModules Meddled g g') : g'.sysState = g.sysState := by
  induction h with
  | refl g => rfl
  | trans _ _ ih ih' => exact ih'.trans ih
  | other h => exact h.sysState
  | start htype hhook =>
    rw [m.start_eq] at hhook
    exact sysState_start hhook
  | stop htype hhook hstate =>
    simp only [m.stop_eq, allTypes, typeModules] at hhook
    split_ifs at hhook <;> cases hhook
    · rfl
    all_goals exact sysState_turnHook
  | restart htype hhook =>
    rw [m.restart_eq] at hhook
    rw [allTypes_restart hhook]
  | missing g t => exact (OwnChange.mark .reqNotFound).sysState
  | cache g t count => rfl
  | flag g t => exact set_sysState ..
  | unflag g t => rfl

lemma Works.sysState {scope : Scope} (h : Works m.toModules Meddled scope t w w') :
    w'.g.sysState = w.g.sysState := by
  induction h with
  | trans _ _ ih ih' => exact ih'.trans ih
  | asked h => exact h.sysState m
  | mark w hst => exact (OwnChange.mark _).sysState
  | setInt w type value => exact set_sysState ..
  | _ => rfl

lemma Hooked.sysState {state : AState} (h : Hooked m.toModules Meddled state t w w') :
    w'.g.sysState = w.g.sysState := by
  rcases h with ⟨-, h⟩ | ⟨-, h⟩ | rfl
  · exact h.sysState m
  · exact h.sysState m
  · rfl

lemma Handled.sysState {type : Ptype} {p : Prid}
    (h : Handled m.toModules Meddled type p t w w') : w'.g.sysState = w.g.sysState := by
  rcases h with ⟨-, h⟩ | ⟨-, h⟩ | ⟨-, rfl⟩
  · exact h.sysState m
  · exact h.sysState m
  · rfl

lemma sysState_killedByPid (env : Env) (kpid rCode : Int) :
    (w.killedByPid env kpid rCode).g.sysState = w.g.sysState := by
  rcases killedByPid_cases w env kpid rCode with he | ⟨t, p, -, hget, he | ⟨-, he⟩⟩
  · rw [he]
  · rw [he]
  · rw [he]
    exact (handled_died bareModules env rCode hget).sysState bareModules

lemma sysState_afterIsChange {fuel : ℕ} (h : afterIsChange m.toModules fuel t g = some g') :
    g'.sysState = g.sysState ∨ g'.sysState = .stateUp := by
  rcases afterIsChange_cases m h with rfl | hasked
  · rw [checkSysStateUp]
    split <;> simp
  · exact .inl (hasked.sysState m)

variable {c c' : Sys}

lemma Advanced.sysState (h : Advanced m t c c') :
    c'.w.g.sysState = c.w.g.sysState ∨ c'.w.g.sysState = .stateUp := by
  cases h with
  | abort hlock hnext => exact .inl OwnChange.interrupt.sysState
  | announce | quiet => exact .inl rfl
  | check hstage => exact .inl (m.isChange_meddled t c.w.g).sysState
  | settle hstage hnext hafter => simpa [unlockedAt] using sysState_afterIsChange m hafter
  | init hstage hinit => exact .inl ((hooked_stateInit m.hooksDo _ _ hinit).sysState m)

def Restated (old new : HSysState) : Prop :=
  new = old ∨ new ≠ .stateNull ∧ (new = .stateStarting → old = .stateNull)

lemma SysStep.restated (hok : c.Ok) (step : SysStep) :
    Restated c.w.g.sysState (step.apply m c).w.g.sysState := by
  have hperformed := step.performed m hok
  generalize step.apply m c = c' at hperformed ⊢
  cases hperformed with
  | act a => exact .inl (a.sysState_apply _)
  | asked hasked => exact .inl (hasked.sysState m)
  | stopAll =>
    have hstopping : (handlerStopAll m.toModules c.w.g).sysState = .stateStopping :=
      (asked_stopEach (R := Meddled) _ _).sysState m
    rw [hstopping]
    exact .inr ⟨by decide, fun hst => (by cases hst)⟩
  | setSysState hset =>
    exact .inr ⟨hset.1, fun hst => hset.2.resolve_right fun hno => hno.1 hst⟩
  | setInt type t value => exact .inl (set_sysState ..)
  | advance hhandles hadv =>
    refine (hadv.sysState m).imp id fun hup => ?_
    rw [hup]
    exact ⟨by decide, fun hst => (by cases hst)⟩
  | interrupt hidle hs hint => exact .inl ((hooked_stateInterrupt m.hooksDo _ hint).sysState m)
  | alarm hidle hs hset hdue hal =>
    exact .inl ((hookedQuietly_stateAlarm m.hooksDo _ _ hal).hooked.sysState m)
  | killed hidle => exact .inl (sysState_killedByPid _ _ _)
  | free hfree => exact .inl (OwnChange.mark .freeing).sysState
  | _ => exact .inl rfl

end

def Finished (g : G) (s : Sid) : Prop := getState g s = .isUp ∨ getState g s = .isFailed

def Due (g : G) (s : Sid) : Prop := Finished g s ∧ (g.svc s).lastRoughtState ≠ getState g s

/-- A service that start-up waits for: it starts, or it will be announced as up or failed. -/
def Awaited (c : Sys) (s : Sid) : Prop :=
  getState c.w.g s = .isStarting ∨ Due c.w.g s ∧ (s ∈ c.w.g.interrupt ∨ c.stage.locks s = true)

/-- While the system starts, a service that start-up waits for stays registered, and it goes on
starting or comes up or fails; and no service is up or failed that was not registered before, or
that will not be announced. -/
def GoesOn (c c' : Sys) : Prop :=
  c.w.g.sysState = .stateStarting →
    (∀ s ∈ c.w.g.activeDb, Awaited c s →
      s ∈ c'.w.g.activeDb ∧ (getState c'.w.g s = .isStarting ∨ Due c'.w.g s)) ∧
    ∀ s ∈ c'.w.g.activeDb, Finished c'.w.g s →
      s ∈ c.w.g.activeDb ∧ (Finished c.w.g s ∨ Due c'.w.g s)

def StartupWaits (c : Sys) : Prop :=
  c.w.g.sysState = .stateStarting →
    (∃ s ∈ c.w.g.activeDb, Awaited c s) ∨ ∀ s ∈ c.w.g.activeDb, ¬ Finished c.w.g s

section
variable (m : Loaded) {s : Sid} {c c' : Sys}

instance (g : G) (s : Sid) : Decidable (Finished g s) := inferInstanceAs (Decidable (_ ∨ _))

instance (g : G) (s : Sid) : Decidable (Due g s) := inferInstanceAs (Decidable (_ ∧ _))

instance (c : Sys) (s : Sid) : Decidable (Awaited c s) := inferInstanceAs (Decidable (_ ∨ _))

instance (c c' : Sys) : Decidable (GoesOn c c') := inferInstanceAs (Decidable (_ → _))

lemma StepFor.awaited_of_due {step : SysStep} (hok : OkFor c s)
    (hstep : StepFor m step s c c') (hs : s ∈ c.w.g.activeDb) (hs' : s ∈ c'.w.g.activeDb)
    (hold : ¬ Finished c.w.g s) (hdue : Due c'.w.g s) : Awaited c' s := by
  rcases hstep.listed m hok hs hs' with hlist | hcur
  · exact .inr ⟨hdue, .inl hlist⟩
  · refine absurd ?_ hold
    rw [Finished, getState, ← hcur]
    exact hdue.1

lemma checkSysStateUp_starting {g : G} (h : (checkSysStateUp g).sysState = .stateStarting) :
    ∃ s ∈ g.activeDb, getState g s = .isStarting := by
  rw [checkSysStateUp] at h
  split at h
  · cases h
  next hno =>
    have hsome : ¬ g.activeDb.all (fun s => getState g s ≠ .isStarting) = true := fun hall =>
      hno ⟨h, hall⟩
    simpa using hsome

lemma Staged.checked (hok : c.Ok) (hstaged : Staged m c c') (hlock : c.stage.locks s = true)
    (hinit : c'.stage = .init s) (hdue : Due c.w.g s)
    (hsys : c'.w.g.sysState = .stateStarting) :
    ∃ t ∈ c'.w.g.activeDb, getState c'.w.g t = .isStarting := by
  cases hstaged with
  | same h =>
    rw [← h, hinit] at hlock
    cases hlock
  | take hidle h => cases h.symm.trans hinit
  | advanced _ hadv =>
    cases hadv with
    | quiet hstage hnext hrough =>
      cases hinit
      refine absurd ?_ hdue.2
      rw [hrough, getState, (hok.each s).state _ hstage]
    | @settle fuel g hstage hnext hafter =>
      cases hinit
      have hstate : getState (unlockedAt s c.w.g) s = getState c.w.g s := by
        simp [getState, unlockedAt]
      obtain rfl : checkSysStateUp (unlockedAt s c.w.g) = g := by
        rw [afterIsChange, hstate] at hafter
        rcases hdue.1 with hup | hfailed
        · rw [hup] at hafter
          exact Option.some.inj hafter
        · rw [hfailed] at hafter
          exact Option.some.inj hafter
      simpa [getState] using checkSysStateUp_starting hsys
    | _ => cases hinit

lemma StepFor.awaited {step : SysStep} (hok : c.Ok) (hstep : StepFor m step s c c')
    (hstaged : Staged m c c') (hs : s ∈ c.w.g.activeDb) (hs' : s ∈ c'.w.g.activeDb)
    (hold : Awaited c s) (hnew : getState c'.w.g s = .isStarting ∨ Due c'.w.g s)
    (hsys : c'.w.g.sysState = .stateStarting) : ∃ t ∈ c'.w.g.activeDb, Awaited c' t := by
  rcases hnew with hstarting | hdue'
  · exact ⟨s, hs', .inl hstarting⟩
  rcases hold with hstarting | ⟨hdue, hwait⟩
  · refine ⟨s, hs', hstep.awaited_of_due m (hok.each s) hs hs' ?_ hdue'⟩
    simp [Finished, hstarting]
  have hlisted (hlist : s ∈ c'.w.g.interrupt) : ∃ t ∈ c'.w.g.activeDb, Awaited c' t :=
    ⟨s, hs', .inr ⟨hdue', .inl hlist⟩⟩
  have hlocked (hlock : c'.stage.locks s = true) : ∃ t ∈ c'.w.g.activeDb, Awaited c' t :=
    ⟨s, hs', .inr ⟨hdue', .inr hlock⟩⟩
  rcases hwait with hlist | hlock
  · rcases hstep.stays_listed m (hok.each s) hs hs' hlist with hlist' | ⟨state, hstage⟩
    · exact hlisted hlist'
    · exact hlocked (by simp [hstage, Stage.locks])
  cases hstep with
  | beside hb => exact hlocked (hb.locks.trans hlock)
  | take hidle hlist hlt => exact hlocked (by simp [Stage.locks])
  | abort hlock hnext => exact hlisted (by simp [unlockedInto, mem_setInterrupt])
  | settle hlock hnext hmoves =>
    obtain ⟨t, ht, hstarting⟩ := hstaged.checked m hok hlock rfl hdue hsys
    exact ⟨t, ht, .inl hstarting⟩
  | called hcalls =>
    have hone := (hok.each s).locked
    rw [hlock, show (c.w.g.svc s).stateLock = 0 from (hcalls.idle m (hok.each s)).1.locked] at hone
    cases hone
  | free hfree => simp [World.free, activeDbFree] at hs'

lemma StartupWaits.apply (hok : c.Ok) (step : SysStep) (h0 : c.w.g.sysState ≠ .stateNull)
    (h : StartupWaits c) (hgoes : GoesOn c (step.apply m c)) : StartupWaits (step.apply m c) := by
  intro hsys
  have hold : c.w.g.sysState = .stateStarting := by
    rcases step.restated m hok with hsame | ⟨-, hnull⟩
    · exact hsame.symm.trans hsys
    · exact absurd (hnull hsys) h0
  obtain ⟨hawaited, harrived⟩ := hgoes hold
  have hsteps := (step.stepsFor m hok).2
  rcases h hold with ⟨s, hs, hwaits⟩ | hnone
  · obtain ⟨hs', hnew⟩ := hawaited s hs hwaits
    exact .inl ((hsteps s).awaited m hok (step.staged m hok) hs hs' hwaits hnew hsys)
  · by_cases hsome : ∃ s ∈ (step.apply m c).w.g.activeDb, Finished (step.apply m c).w.g s
    · obtain ⟨s, hs', hfinished⟩ := hsome
      obtain ⟨hs, hnew⟩ := harrived s hs' hfinished
      have hdue := hnew.resolve_left (hnone s hs)
      exact .inl ⟨s, hs', (hsteps s).awaited_of_due m (hok.each s) hs hs' (hnone s hs) hdue⟩
    · exact .inr fun s hs' hfinished => hsome ⟨s, hs', hfinished⟩

end

def Sys.starting (now : Timeval) : Sys :=
  ⟨.idle, { (Sys.start now).w with
    g := { (Sys.start now).w.g with sysState := .stateStarting } }⟩

def SysStep.stopsAll : SysStep → Bool
  | stopAll => true
  | _ => false

lemma Sys.starting_ok (now : Timeval) : (Sys.starting now).Ok :=
  (Sys.start_ok now).apply bareModules (.setSysState .stateStarting)

/-- In a run from `STATE_STARTING` in which start-up goes on until the system is up, whenever no
interrupt is left and no service starts, but one is up or has failed, the system is not starting
any more. -/
theorem startup_over (m : Loaded) (now : Timeval) (steps : List SysStep)
    (hgoes : Along (SysStep.apply m) (fun c step => GoesOn c (step.apply m c))
      (Sys.starting now) steps) :
    let c := run (SysStep.apply m) steps (Sys.starting now)
    c.stage = .idle → c.w.g.interrupt = [] →
      (∀ s ∈ c.w.g.activeDb, getState c.w.g s ≠ .isStarting) →
      (∃ s ∈ c.w.g.activeDb, getState c.w.g s = .isUp ∨ getState c.w.g s = .isFailed) →
        c.w.g.sysState ≠ .stateStarting := by
  intro c hidle hempty hnone hsome hsys
  have hstart : (Sys.starting now).Ok ∧ (Sys.starting now).w.g.sysState ≠ .stateNull ∧
      StartupWaits (Sys.starting now) :=
    ⟨Sys.starting_ok now, show HSysState.stateStarting ≠ .stateNull by decide,
      fun _ => .inr fun s hs => (by cases hs)⟩
  have hc : c.Ok ∧ c.w.g.sysState ≠ .stateNull ∧ StartupWaits c := by
    refine hgoes.invariant (I := fun c => c.Ok ∧ c.w.g.sysState ≠ .stateNull ∧ StartupWaits c)
      (fun c step h hstep => ⟨h.1.apply m step, ?_, h.2.2.apply m h.1 step h.2.1 hstep⟩) hstart
    rcases step.restated m h.1 with hsame | ⟨hnull, -⟩
    · exact hsame ▸ h.2.1
    · exact hnull
  rcases hc.2.2 hsys with ⟨s, hs, hstarting | ⟨-, hwait⟩⟩ | hno
  · exact hnone s hs hstarting
  · simp [hempty, hidle, Stage.locks] at hwait
  · obtain ⟨s, hs, hfinished⟩ := hsome
    exact hno s hs hfinished

theorem startup_over_oneService :
    let c := run (SysStep.apply bareModules) serviceIsUp (Sys.starting ⟨1, 0⟩)
    getState c.w.g 0 = .isUp ∧ c.w.g.sysState ≠ .stateStarting := by
  refine ⟨?_, startup_over bareModules ⟨1, 0⟩ serviceIsUp ?_ ?_ ?_ ?_ ?_⟩
  all_goals decide +kernel

/-- Of two services that start, one fails, and the other one is asked to stop while its start
process runs. -/
def stoppedLast : List SysStep :=
  [.act (.new "net"), .act (.setup 0 (some ⟨"service"⟩) .new []), .act (.register 0),
    .act (.new "sshd"), .act (.setup 1 (some ⟨"service"⟩) .new []), .act (.register 1),
    .start 3 0, .start 3 1] ++
  handled notForking 0 ++ handled notForking 1 ++ handledQuietly notForking 0 ++
  handledQuietly notForking 1 ++ [.interrupt 3 0, .interrupt 3 1] ++
  handledQuietly notForking 0 ++ handledQuietly (forking 100) 1 ++ handled notForking 0 ++
  handledQuietly notForking 1 ++ .stop 1 :: handled notForking 1 ++
  handledQuietly notForking 1 ++ [.interrupt 3 1] ++ handledQuietly notForking 1 ++
  handled notForking 1

/-- The other service is stopped at the end, and the system still starts. -/
theorem startup_not_over :
    ¬ ∀ (m : Loaded) (now : Timeval) (steps : List SysStep),
      (∀ step ∈ steps, step.stopsAll = false) →
      let c := run (SysStep.apply m) steps (Sys.starting now)
      c.stage = .idle → c.w.g.interrupt = [] →
        (∀ s ∈ c.w.g.activeDb, getState c.w.g s ≠ .isStarting) →
        (∃ s ∈ c.w.g.activeDb, getState c.w.g s = .isUp ∨ getState c.w.g s = .isFailed) →
          c.w.g.sysState ≠ .stateStarting := by
  intro h
  refine h bareModules ⟨1, 0⟩ stoppedLast ?_ ?_ ?_ ?_ ?_ ?_
  all_goals decide +kernel

end Initng
