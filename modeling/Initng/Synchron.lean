import Initng.ServiceRuns

namespace Initng

open StepRun List

def SEntry.syncron : SEntry := .other "syncron"

def syncron (g : G) (s : Sid) : Option String := (strings .syncron g s).head?.join

def checkSyncroniclyService (service : Sid) (g : G) : EventStatus :=
  match syncron g service with
  | none => .waiting
  | some serviceSyncron =>
    if g.activeDb.any fun current => current ≠ service ∧
        (g.svc current).currentState = .serviceStartRun ∧ syncron g current = some serviceSyncron
    then .failed
    else .waiting

/-- The state of the service itself is tested. -/
def checkSyncronicly (service : Sid) (g : G) : EventStatus :=
  if g.activeDb.any fun current => current ≠ service ∧
      (g.svc service).currentState = .serviceStartRun
  then .failed
  else .waiting

def synchronHook (synchronously : Bool) : DepMetHook where
  run s g := (if synchronously then checkSyncronicly s g else checkSyncroniclyService s g, g)
  quiet _ _ _ := rfl

def isSynchronously (argv : List String) : Bool := argv.any fun arg => strstr arg "synchronously"

def synchronModuleInit (argv : List String) : DepMetHook := synchronHook (isSynchronously argv)

/-- The module is loaded, and no hook that is asked before it ends the event. -/
def SynchronLoaded (argv : List String) (m : Loaded) : Prop :=
  ∃ before after, m.startDepMet = before ++ synchronModuleInit argv :: after ∧
    ∀ hook ∈ before, ∀ s g, (hook.run s g).1 ≠ .handled

def Exclude (argv : List String) (g : G) (s t : Sid) : Prop :=
  isSynchronously argv = true ∨ (syncron g s).isSome = true ∧ syncron g s = syncron g t

instance (argv : List String) (g : G) (s t : Sid) : Decidable (Exclude argv g s t) :=
  inferInstanceAs (Decidable (_ ∨ _))

def NoOverlap (argv : List String) (g : G) : Prop :=
  ∀ s t, s ≠ t → (g.svc s).currentState = .serviceStartRun →
    (g.svc t).currentState = .serviceStartRun → ¬ Exclude argv g s t

def launchStates : List AState := [.serviceStartDepsMet, .serviceStartRun]

/-- When a service comes to have its dependencies, no other one that it excludes has come so far
and not yet gone on, and with the option none runs its start script; and the strings of
services that have come so far are left. -/
@[mk_iff]
structure OneByOne (argv : List String) (g g' : G) : Prop where
  alone : ∀ s ∈ g'.activeDb, (g'.svc s).currentState = .serviceStartDepsMet →
    (g.svc s).currentState ≠ .serviceStartDepsMet → ∀ t ∈ g'.activeDb, t ≠ s →
      (g'.svc t).currentState = .serviceStartDepsMet ∨
        isSynchronously argv = true ∧ (g'.svc t).currentState = .serviceStartRun →
      ¬ Exclude argv g' s t
  kept : ∀ s ∈ g.activeDb, (g.svc s).currentState ∈ launchStates → syncron g' s = syncron g s

instance (argv : List String) (g g' : G) : Decidable (OneByOne argv g g') :=
  decidable_of_iff' _ (oneByOne_iff argv g g')

section
variable {argv : List String} {m : Loaded} {s t : Sid} {g : G}

lemma not_failed_of_askDepMet {before after : List DepMetHook} {hook : DepMetHook}
    (hbefore : ∀ hook ∈ before, ∀ s g, (hook.run s g).1 ≠ .handled)
    (h : (askDepMet (before ++ hook :: after) s g).1 ≠ .failed) : (hook.run s g).1 ≠ .failed := by
  induction before with
  | nil =>
    intro hfailed
    rcases hr : hook.run s g with ⟨status, g'⟩
    obtain rfl : status = .failed := by rwa [hr] at hfailed
    exact h (by simp [askDepMet, eventSend, hr])
  | cons first before ih =>
    have hquiet := first.quiet s g
    have hhandled := hbefore first (.head _) s g
    refine ih (fun hook hmem => hbefore hook (.tail _ hmem)) ?_
    simp only [askDepMet, cons_append, map_cons, eventSend] at h ⊢
    rcases hr : first.run s g with ⟨status, g'⟩
    rw [hr] at h hquiet hhandled
    cases status with
    | failed => exact absurd rfl h
    | handled => exact absurd rfl hhandled
    | unknown | waiting =>
      obtain rfl : g' = g := by simpa using hquiet
      simpa using h

lemma not_exclude_of_askDepMet (hm : SynchronLoaded argv m) (hsync : isSynchronously argv = false)
    (h : (askDepMet m.startDepMet s g).1 ≠ .failed) (ht : t ∈ g.activeDb) (hts : t ≠ s)
    (hrun : (g.svc t).currentState = .serviceStartRun) : ¬ Exclude argv g s t := by
  obtain ⟨before, after, hhooks, hbefore⟩ := hm
  rw [hhooks] at h
  have hcheck : checkSyncroniclyService s g ≠ .failed := by
    simpa [synchronModuleInit, synchronHook, hsync] using not_failed_of_askDepMet hbefore h
  rintro (hopt | ⟨hsome, hsame⟩)
  · rw [hsync] at hopt
    cases hopt
  · obtain ⟨string, hstring⟩ := Option.isSome_iff_exists.mp hsome
    refine hcheck ?_
    rw [checkSyncroniclyService, hstring]
    refine if_pos (any_eq_true.mpr ⟨t, ht, ?_⟩)
    simp [hts, hrun, ← hsame, hstring]

structure Passed (m : Modules) (s : Sid) (g g' : G) : Prop where
  asked : startRefused m g s = false
  marked : g' = (commonMarkService s .serviceStartDepsMet (setDependCache s 0 g)).2

variable {g' : G}

lemma exclude_congr (hs : syncron g' s = syncron g s) (ht : syncron g' t = syncron g t) :
    Exclude argv g' s t ↔ Exclude argv g s t := by
  rw [Exclude, Exclude, hs, ht]

lemma Exclude.symm (h : Exclude argv g s t) : Exclude argv g t s := by
  rcases h with hopt | ⟨hsome, hsame⟩
  · exact .inl hopt
  · exact .inr ⟨hsame ▸ hsome, hsame.symm⟩

lemma OwnChange.syncron (h : OwnChange s g g') (t : Sid) : syncron g' t = syncron g t := by
  have hdata : (g'.svc t).data = (g.svc t).data := by
    by_cases hts : t = s
    · rw [hts]
      exact h.data
    · rw [h.other t hts]
  rw [Initng.syncron, Initng.syncron, strings, strings, hdata]

lemma Passed.ownChange {m : Modules} (h : Passed m s g g') : OwnChange s g g' := by
  have hcache : OwnChange s g (setDependCache s 0 g) := OwnChange.modify _ fun _ => ⟨rfl, rfl, rfl⟩
  rw [h.marked]
  exact hcache.trans (.mark _)

lemma Passed.not_exclude (hm : SynchronLoaded argv m) (h : Passed m.toModules s g g')
    (hone : OneByOne argv g g') (hlock : (g.svc s).stateLock = 0)
    (hold : (g.svc s).currentState ∉ launchStates) (hs : s ∈ g'.activeDb) (ht : t ∈ g'.activeDb)
    (hts : t ≠ s) (hlaunch : (g'.svc t).currentState ∈ launchStates) : ¬ Exclude argv g' s t := by
  have hmet : (g'.svc s).currentState = .serviceStartDepsMet := by
    rw [h.marked]
    refine (commonMarkService_shows ?_ (.inl rfl)).symm ▸ rfl
    simpa [setDependCache] using hlock
  have halone := hone.alone s hs hmet (fun he => hold (by simp [he, launchStates])) t ht hts
  rcases mem_pair.mp hlaunch with hmet' | hrun
  · exact halone (.inl hmet')
  · cases hsync : isSynchronously argv with
    | true => exact halone (.inr ⟨hsync, hrun⟩)
    | false =>
      rw [exclude_congr (h.ownChange.syncron s) (h.ownChange.syncron t)]
      have hasked := of_decide_eq_false h.asked
      rw [h.ownChange.activeDb] at ht
      rw [h.ownChange.other t hts] at hrun
      have hnot := not_exclude_of_askDepMet hm hsync hasked ht hts (by simpa using hrun)
      rwa [exclude_congr] at hnot
      all_goals simp [syncron, strings]

end

def outside : Scope where
  marks := (serviceScope.marks ++ daemonScope.marks).filter (· ∉ launchStates)
  types := serviceScope.types ++ daemonScope.types
  begins := true

section
variable {m : Modules} {R : G → G → Prop} {s : Sid} {w w' : World} {fuel : ℕ} {state : AState}

lemma Works.daemonOutside (h : Works m R daemonScope s w w') : Works m R outside s w w' :=
  h.mono (by decide) (by decide) fun _ => rfl

lemma HookedQuietly.outside (h : HookedQuietly m R state s w w') : Works m R outside s w w' := by
  rcases h with ⟨-, hworks⟩ | ⟨-, hworks⟩ | rfl
  · exact hworks.mono (by decide) (by decide) fun _ => rfl
  · exact hworks.launching.daemon.daemonOutside
  · exact .refl w'

lemma outside_stateInit (hm : HooksDo m R) (env : Env) (hstate : state ∉ launchStates) :
    ∀ w' ∈ stateInit m fuel env state s w, Works m R outside s w w' := by
  intro w' hw'
  cases initHooked_stateInit (R := R) env w' hw' with
  | startMarked h => exact works_initServiceStartMarked hm (by decide) h
  | startDepsMet => exact absurd (by decide) hstate
  | daemonMarked h => exact (works_initDaemonStartMarked hm h).daemonOutside
  | daemonDepsMet => exact (works_initDaemonStartDepsMet env).daemon.daemonOutside
  | quiet h => exact h.outside

lemma outside_killHandler (env : Env) {p : Prid} (hp : p ∈ w.processes.processes s) :
    Works m R outside s w (killHandler env (w.processes.process p).pt s p w) ∨
      killHandler env (w.processes.process p).pt s p w = w.freeProcess p := by
  unfold killHandler
  split_ifs with hstart hstop hdaemon
  · exact .inl ((works_handleKilledStart env hp hstart).mono (by decide) (by decide) fun _ => rfl)
  · exact .inl (works_handleKilledStop (by decide) (by decide) hp hstop)
  · exact .inl (works_handleKilledDaemon env hp hdaemon).launching.daemon.daemonOutside
  · exact .inr rfl

lemma outside_stateInterrupt (hm : HooksDo m R) :
    ∀ w' ∈ stateInterrupt m fuel state s w, Works m R outside s w w' ∨ Passed m s w.g w'.g := by
  rw [stateInterrupt]
  refine forall_mem_ite (fun _ w' hw' => ?_) fun _ => ?_
  · obtain ⟨⟨ret, g⟩, hr, rfl⟩ := Option.map_eq_some_iff.mp hw'
    have hdeps : Works m R outside s w { w with g := g } := .asked (asked_dependStartDepMet hm hr)
    cases ret with
    | false => exact .inl hdeps
    | fail => exact .inl (hdeps.then_mark (by decide))
    | true =>
      obtain ⟨-, hasked, hg⟩ := dependStartDepMet_true_iff.mp hr
      dsimp only
      split
      · exact .inl (hdeps.then_mark (by decide))
      · exact .inr ⟨hasked, by rw [← hg]; rfl⟩
  refine forall_mem_row (fun _ => .inl (works_waitingForStopDep hm (by decide))) fun _ => ?_
  refine forall_mem_ite (fun _ w' hw' => .inl
    (works_waitingForStartDep hm (by decide) (by decide) (by decide) hw')) fun _ => ?_
  refine forall_mem_row (fun _ => .inl (works_waitingForStopDep hm (by decide))) fun _ => ?_
  exact forall_mem_some (.inl (.refl w))

end

section
variable {m : Loaded} {step : SysStep} {s : Sid} {c c' : Sys} {w w' : World}

lemma launching_owner : ∀ st ∈ launchStates, st.owner ≠ none := by decide

lemma turnings_launching : ∀ f ∈ turnings, f.up ∉ launchStates ∧ f.startMarked ∉ launchStates ∧
    f.down ∉ launchStates ∧ f.stopMarked ∉ launchStates := by decide

lemma launching_turnable {P : Prop} : Turnable fun _ st => st ∈ launchStates → P where
  foreign _ st h hst := absurd (owner_of_foreign h) (launching_owner st hst)
  up f hf _ hst := absurd hst (turnings_launching f hf).1
  startMarked f hf hst := absurd hst (turnings_launching f hf).2.1
  down f hf _ hst := absurd hst (turnings_launching f hf).2.2.1
  stopMarked f hf hst := absurd hst (turnings_launching f hf).2.2.2

lemma launching_recordable : Recordable fun _ st => st ∉ launchStates where
  foreign _ st h hst := launching_owner st hst h
  up f hf := (turnings_launching f hf).1
  startMarked f hf _ := (turnings_launching f hf).2.1
  down f hf := (turnings_launching f hf).2.2.1
  stopMarked f hf _ _ := (turnings_launching f hf).2.2.2

lemma not_launching_of_works (h : Works m.toModules Meddled outside s w w') (hs : s < w.g.brk)
    (hknown : (w.g.svc s).Known) (hcur : (w.g.svc s).currentState ∉ launchStates)
    (hnext : (w.g.svc s).nextState = none) : (w'.g.svc s).currentState ∉ launchStates := by
  have hmarks : ∀ st ∈ outside.marks, st ∈ launchStates → False := by decide
  have hbefore : Meets s (fun _ st => st ∈ launchStates → False) w.g := by
    rintro st (rfl | hst)
    · exact hcur
    · rw [hnext] at hst
      cases hst
  exact h.meets m launching_turnable hs hknown hmarks hbefore _ (.inl rfl)

lemma Calls.passed (hok : OkFor c s) (hapart : c.w.processes.Apart)
    (hcalls : Calls m step s c w') (hold : (c.w.g.svc s).currentState ∉ launchStates)
    (hnew : (w'.g.svc s).currentState ∈ launchStates) :
    s ∈ c.w.g.activeDb ∧ Passed m.toModules s c.w.g w'.g := by
  have hready := hcalls.ready m hok hapart
  have hknown : (c.w.g.svc s).Known := by
    obtain ⟨w₁, hprep, hworked⟩ := hcalls.worked m hok
    obtain ⟨alarm, hself⟩ := hprep.svc
    cases hworked with
    | works hfam htype hworks => exact hfam.known (by rwa [hself] at htype)
    | nothing he =>
      rw [he, hself] at hnew
      exact absurd hnew hold
    | freed p he =>
      rw [he] at hnew
      change (w₁.g.svc s).currentState ∈ launchStates at hnew
      rw [hself] at hnew
      exact absurd hnew hold
  have hout (hworks : Works m.toModules Meddled outside s c.w w') : False :=
    not_launching_of_works hworks hready.below hknown hold hready.settled hnew
  cases hcalls with
  | init hstage hinit => exact (hout (outside_stateInit m.hooksDo _ hold w' hinit)).elim
  | interrupt hidle hs hint =>
    rcases outside_stateInterrupt m.hooksDo w' hint with hworks | hpassed
    · exact (hout hworks).elim
    · exact ⟨hs, hpassed⟩
  | alarm hstep hidle hs hset hdue hal =>
    have hworks := (hookedQuietly_stateAlarm m.hooksDo _ w' hal).outside
    exact (hout (.trans (.alarm c.w 0 c.w.nextAlarm) hworks)).elim
  | @killed env kpid rCode p hstep hidle hs hget htarget =>
    have hp := mem_of_find?_eq_some hget
    have hdied : Works m.toModules Meddled outside s c.w (c.w.dead p rCode) :=
      .record hp fun _ => ⟨rfl, rfl⟩
    have hkilled := outside_killHandler (m := m.toModules) (R := Meddled)
      (w := c.w.dead p rCode) env hp
    rw [dead_pt] at hkilled
    rcases hkilled with hworks | he
    · exact (hout (hdied.trans hworks)).elim
    · rw [he] at hnew
      exact absurd hnew hold

lemma StepFor.registered (hok : OkFor c s) (hstep : StepFor m step s c c')
    (hs : s ∈ c.w.g.activeDb) : s ∈ c'.w.g.activeDb ∨ c'.w = c.w.free s := by
  cases hstep with
  | beside hb => exact .inl (hb.moves.registered hs)
  | take hidle hlist hlt => exact .inl hs
  | abort hlock hnext => exact .inl (by simpa [unlockedInto] using hs)
  | settle hlock hnext hmoves => exact .inl (hmoves.registered hs)
  | called hcalls =>
    obtain ⟨w₁, hprep, hworked⟩ := hcalls.worked m hok
    obtain ⟨alarm, hg⟩ := hprep.g
    have hs₁ : s ∈ w₁.g.activeDb := by rwa [hg]
    cases hworked with
    | works hfam htype hworks => exact .inl ((hworks.ownLeft m).registered hs₁)
    | nothing he | freed p he => exact .inl (he ▸ hs₁)
  | free hfree => exact .inr rfl

lemma StepFor.launch_cases (hok : OkFor c s) (hapart : c.w.processes.Apart)
    (hstep : StepFor m step s c c') (hrec : Records s (fun _ st => st ∉ launchStates) c.w.g)
    (hnew : (c'.w.g.svc s).currentState ∈ launchStates) :
    (c.w.g.svc s).currentState ∈ launchStates ∨
      (c.w.g.svc s).currentState ∉ launchStates ∧ (c.w.g.svc s).stateLock = 0 ∧
        s ∈ c.w.g.activeDb ∧ Passed m.toModules s c.w.g c'.w.g := by
  by_cases hold : (c.w.g.svc s).currentState ∈ launchStates
  · exact .inl hold
  rcases hstep.passive_or_calls m hok hapart with hp | hfree | ⟨hready, -, hcall⟩
  · have hbefore : Meets s (fun _ st => st ∈ launchStates → False) c.w.g := by
      rintro st (rfl | hst)
      · exact hold
      · exact hrec st hst
    exact (hp.meets _ launching_turnable hbefore _ (.inl rfl) hnew).elim
  · rw [hfree, free_shows (.inl rfl)] at hnew
    exact absurd hnew (by decide)
  · obtain ⟨hs, hpassed⟩ := hcall.passed hok hapart hold hnew
    exact .inr ⟨hold, hready.unlocked, hs, hpassed⟩

end

/-- Services that have come to their launch are registered and exclude no other one that has, and
none is recorded for it. -/
structure Launches (argv : List String) (c : Sys) : Prop where
  registered : ∀ s, (c.w.g.svc s).currentState ∈ launchStates → s ∈ c.w.g.activeDb
  recorded : ∀ s, Records s (fun _ st => st ∉ launchStates) c.w.g
  apart : ∀ s t, s ≠ t → (c.w.g.svc s).currentState ∈ launchStates →
    (c.w.g.svc t).currentState ∈ launchStates → ¬ Exclude argv c.w.g s t

section
variable {argv : List String} {m : Loaded} {c : Sys}

lemma Launches.start (argv : List String) (now : Timeval) : Launches argv (Sys.start now) := by
  have hcur (s : Sid) : ((Sys.start now).w.g.svc s).currentState ∉ launchStates := by
    have hshows : ((Sys.start now).w.g.svc s).Shows _ := .inl rfl
    rw [shows_start hshows]
    decide
  exact ⟨fun s hs => absurd hs (hcur s), fun s st hst => (by cases hst),
    fun s t _ hs => absurd hs (hcur s)⟩

lemma Launches.recorded_apply (h : Launches argv c) (hok : c.Ok) (step : SysStep) (s : Sid) :
    Records s (fun _ st => st ∉ launchStates) (step.apply m c).w.g := by
  rcases ((step.stepsFor m hok).2 s).passive_or_calls m (hok.each s) hok.apart with
    hp | hfree | ⟨-, hidle, -⟩
  · exact hp.records _ launching_recordable (h.recorded s)
  · intro st hst
    rw [hfree] at hst
    obtain rfl := free_shows (.inr hst)
    decide
  · have hok' := (hok.apply m step).each s
    have hunlocked : ((step.apply m c).w.g.svc s).stateLock = 0 := by
      rw [hok'.locked, hidle]
      rfl
    intro st hst
    rw [hok'.settled hunlocked] at hst
    cases hst

lemma Launches.registered_apply (h : Launches argv c) (hok : c.Ok) (step : SysStep) (s : Sid)
    (hs : ((step.apply m c).w.g.svc s).currentState ∈ launchStates) :
    s ∈ (step.apply m c).w.g.activeDb := by
  have hstep := (step.stepsFor m hok).2 s
  have hreg : s ∈ c.w.g.activeDb := by
    rcases hstep.launch_cases (hok.each s) hok.apart (h.recorded s) hs with hold | ⟨-, -, hreg, -⟩
    · exact h.registered s hold
    · exact hreg
  rcases hstep.registered (hok.each s) hreg with hreg' | hfree
  · exact hreg'
  · rw [hfree, free_shows (.inl rfl)] at hs
    exact absurd hs (by decide)

lemma Launches.apply (hm : SynchronLoaded argv m) (hok : c.Ok) (h : Launches argv c)
    (step : SysStep) (hone : OneByOne argv c.w.g (step.apply m c).w.g) :
    Launches argv (step.apply m c) := by
  have hreg := h.registered_apply (m := m) hok step
  refine ⟨hreg, h.recorded_apply hok step, fun s t hst hs ht => ?_⟩
  have hcases (x : Sid) := ((step.stepsFor m hok).2 x).launch_cases (hok.each x) hok.apart
    (h.recorded x)
  rcases hcases s hs with hold | ⟨hold, hlock, -, hpassed⟩
  · rcases hcases t ht with hold' | ⟨hold', hlock', -, hpassed⟩
    · -- both had come so far before, with the same strings
      rw [exclude_congr (hone.kept s (h.registered s hold) hold)
        (hone.kept t (h.registered t hold') hold')]
      exact h.apart s t hst hold hold'
    · have hnot := hpassed.not_exclude hm hone hlock' hold' (hreg t ht) (hreg s hs) hst hs
      exact fun hex => hnot hex.symm
  · exact hpassed.not_exclude hm hone hlock hold (hreg s hs) (hreg t ht) hst.symm ht

/-- Start scripts do not overlap in runs where services come to their launch one by one. -/
theorem synchron_noOverlap (argv : List String) (m : Loaded) (hm : SynchronLoaded argv m)
    (now : Timeval) (steps : List SysStep)
    (h : Along (SysStep.apply m) (fun c step => OneByOne argv c.w.g (step.apply m c).w.g)
      (Sys.start now) steps) :
    NoOverlap argv (run (SysStep.apply m) steps (Sys.start now)).w.g := by
  have hrun := Sys.run_invariant m now (Launches.start argv now)
    (fun c step hok hl hone => hl.apply hm hok step hone) h
  intro s t hst hs ht
  exact hrun.2.apart s t hst (by simp [hs, launchStates]) (by simp [ht, launchStates])

end

def synchronModules (argv : List String) : Loaded where
  toModules := { allTypes with startDepMet := [synchronModuleInit argv] }
  start_eq := repoModules.start_eq
  stop_eq := repoModules.stop_eq
  restart_eq := repoModules.restart_eq
  hooksDo := by
    refine ⟨fun _ hmem => absurd hmem not_mem_nil, fun _ hmem s g => ?_,
      fun _ hmem => absurd hmem not_mem_nil⟩
    obtain rfl := mem_singleton.mp hmem
    exact .refl g
  isChange _ g := g
  isChange_meddled _ := .refl

lemma synchronLoaded (argv : List String) : SynchronLoaded argv (synchronModules argv) :=
  ⟨[], [], rfl, fun _ hmem => absurd hmem not_mem_nil⟩

def twoWaiting : List SysStep :=
  [.act (.new "disk"), .act (.setup 0 (some ⟨"service"⟩) .new [⟨.syncron, some "modprobe", none⟩]),
    .act (.register 0), .act (.new "net"),
    .act (.setup 1 (some ⟨"service"⟩) .new [⟨.syncron, some "modprobe", none⟩]),
    .act (.register 1), .setSysState .stateStarting, .start 3 0, .start 3 1] ++
    handled (forking 100) 0 ++ handled (forking 100) 1 ++
    handledQuietly (forking 100) 0 ++ handledQuietly (forking 100) 1

def bothLaunched : List SysStep :=
  twoWaiting ++ [.interrupt 3 0, .interrupt 3 1] ++
    handledQuietly (forking 100) 0 ++ handledQuietly (forking 101) 1

def oneAfterAnother : List SysStep :=
  twoWaiting ++ [.interrupt 3 0] ++ handledQuietly (forking 100) 0 ++ [.interrupt 3 1] ++
    .killed (forking 100) 100 0 :: handled (forking 100) 0 ++ [.interrupt 3 1] ++
    handledQuietly (forking 101) 1

theorem synchron_noOverlap_oneAfterAnother :
    NoOverlap [] (run (SysStep.apply (synchronModules [])) oneAfterAnother (Sys.start ⟨1, 0⟩)).w.g := by
  exact synchron_noOverlap [] _ (synchronLoaded []) ⟨1, 0⟩ oneAfterAnother (by decide +kernel)

/-- Both interrupt hooks are called in one walk, and with the option too both services are let
through. -/
theorem synchron_overlap :
    (¬ ∀ (m : Loaded) (now : Timeval) (steps : List SysStep), SynchronLoaded ["initng"] m →
      NoOverlap ["initng"] (run (SysStep.apply m) steps (Sys.start now)).w.g) ∧
    ¬ ∀ (m : Loaded) (now : Timeval) (steps : List SysStep),
      SynchronLoaded ["initng", "synchronously"] m →
      NoOverlap ["initng", "synchronously"] (run (SysStep.apply m) steps (Sys.start now)).w.g := by
  refine ⟨fun h => ?_, fun h => ?_⟩
  all_goals
    exact absurd (h (synchronModules _) ⟨1, 0⟩ bothLaunched (synchronLoaded _) 0 1) (by decide +kernel)

end Initng
