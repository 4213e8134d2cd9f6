import Initng.ServiceRuns

/-! `modules/conflict/initng_conflict.c`. -/

namespace Initng

open StepRun

def SEntry.conflict : SEntry := .other "conflict"

def AState.conflicting : AState := ⟨"FAILED_BY_CONFLICT", .isFailed⟩

def inTheWay (g : G) (entry : String) : Bool :=
  match activeDbFindByName g entry with
  | none => false
  | some s => getState g s = .isUp ∨ getState g s = .isStarting

def checkConflict (service : Sid) (g : G) : G :=
  if getState g service ≠ .isStarting then g
  else if (untilNull (strings .conflict g service)).any (inTheWay g) then
    (commonMarkService service .conflicting g).2
  else g

lemma checkConflict_meddled (s : Sid) (g : G) : Meddled g (checkConflict s g) := by
  rw [checkConflict]
  split
  · exact .refl g
  · split
    · refine ⟨[.mark s .conflicting], ?_⟩
      have howner : AState.conflicting.owner = none := by decide
      have hfailed : AState.conflicting.is = .isFailed := rfl
      simp [ModuleAct.apply, AState.foreignTo, howner, hfailed]
    · exact .refl g

def IsUp (g : G) (s : Sid) : Prop := s ∈ g.activeDb ∧ getState g s = .isUp

def Starts (g : G) (s : Sid) : Prop := s ∈ g.activeDb ∧ getState g s = .isStarting

def Stage.before (s : Sid) : Stage → Bool
  | stateChange t _ => t = s
  | isChange t false => t = s
  | _ => false

def Unchecked (c : Sys) (s : Sid) : Prop :=
  Starts c.w.g s ∧ (c.w.g.svc s).lastRoughtState ≠ .isStarting ∧
    (s ∈ c.w.g.interrupt ∨ c.stage.before s = true ∨
      c.stage = .isChange s true ∧ (c.w.g.svc s).nextState ≠ none)

def Cleared (c : Sys) (s : Sid) : Prop := IsUp c.w.g s ∨ Starts c.w.g s ∧ ¬ Unchecked c s

/-- The service comes up only while it starts, it begins to start only to be announced, and until
then it stays in its state or does not start any more. -/
def StartsChecked (s : Sid) (c c' : Sys) : Prop :=
  (IsUp c'.w.g s → IsUp c.w.g s ∨ Starts c.w.g s) ∧
  (Starts c'.w.g s → IsUp c.w.g s ∨ Starts c.w.g s ∨ Unchecked c' s) ∧
  (Unchecked c s → IsUp c'.w.g s ∨ Starts c'.w.g s →
    (c'.w.g.svc s).currentState = (c.w.g.svc s).currentState ∧
      (c'.w.g.svc s).lastRoughtState = (c.w.g.svc s).lastRoughtState)

def Lists (g : G) (a b : Sid) : Prop :=
  some b ∈ (untilNull (strings .conflict g a)).map (activeDbFindByName g)

def EachLists (a b : Sid) (g : G) : Prop :=
  a ∈ g.activeDb → b ∈ g.activeDb → Lists g a b ∧ Lists g b a

section
variable (m : Loaded) {a b s t : Sid} {c c' : Sys} {g : G}

instance (g : G) (s : Sid) : Decidable (IsUp g s) := inferInstanceAs (Decidable (_ ∧ _))

instance (g : G) (s : Sid) : Decidable (Starts g s) := inferInstanceAs (Decidable (_ ∧ _))

instance (c : Sys) (s : Sid) : Decidable (Unchecked c s) := inferInstanceAs (Decidable (_ ∧ _))

instance (s : Sid) (c c' : Sys) : Decidable (StartsChecked s c c') :=
  inferInstanceAs (Decidable (_ ∧ _))

instance (g : G) (a b : Sid) : Decidable (Lists g a b) := inferInstanceAs (Decidable (_ ∈ _))

instance (a b : Sid) (g : G) : Decidable (EachLists a b g) := inferInstanceAs (Decidable (_ → _))

lemma Starts.not_up (h : Starts g s) : ¬ IsUp g s := fun hup => by
  rw [IsUp, h.2] at hup
  cases hup.2

lemma Lists.any_inTheWay (h : Lists g a b) (hb : IsUp g b ∨ Starts g b) :
    (untilNull (strings .conflict g a)).any (inTheWay g) = true := by
  obtain ⟨entry, hentry, hfind⟩ := List.mem_map.mp h
  refine List.any_eq_true.mpr ⟨entry, hentry, ?_⟩
  rw [inTheWay, hfind]
  exact decide_eq_true (hb.imp And.right And.right)

lemma checkConflict_of_locked (hlock : (g.svc s).stateLock ≠ 0) :
    ∃ next, checkConflict s g = g.modify s fun a => { a with nextState := next } := by
  have hsame : ∃ next, g = g.modify s fun a => { a with nextState := next } :=
    ⟨(g.svc s).nextState, (G.modify_eq_self rfl).symm⟩
  rw [checkConflict]
  split
  · exact hsame
  · split
    · exact commonMarkService_of_locked _ hlock
    · exact hsame

lemma checkConflict_records (hlock : (g.svc s).stateLock ≠ 0) (hs : getState g s = .isStarting)
    (hany : (untilNull (strings .conflict g s)).any (inTheWay g) = true) :
    ((checkConflict s g).svc s).nextState ≠ none := by
  have hpos : 0 < (g.svc s).stateLock := Nat.pos_of_ne_zero hlock
  rw [checkConflict, if_neg (not_not.mpr hs), if_pos hany]
  cases hnext : (g.svc s).nextState with
  | some next =>
    rw [commonMarkService_refused g s _ hpos (by simp [hnext]), hnext]
    exact Option.some_ne_none next
  | none =>
    have hcur : (g.svc s).currentState ≠ .conflicting := fun he => by
      rw [getState, he] at hs
      cases hs
    rw [commonMarkService_locked g s _ hpos hnext hcur]
    simp

structure Checked (m : Loaded) (s : Sid) (c c' : Sys) : Prop where
  before : c.stage = .isChange s false
  behind : c'.stage = .isChange s true
  w : c'.w = { c.w with g := m.isChange s c.w.g }

variable {stage : Stage} {step : SysStep}

lemma Stage.handles_of_before (h : stage.before s = true) : stage.handles s = true := by
  cases stage with
  | isChange t called => cases called <;> simp_all [before, handles]
  | _ => simp_all [before, handles]

lemma Stage.eq_of_handles (h : stage.handles s = true) (h' : stage.handles t = true) : t = s := by
  by_contra hne
  rw [handles_ne h hne] at h'
  cases h'

lemma Staged.unchecked (hok : c.Ok) (hstaged : Staged m c c')
    (hbefore : c.stage.before s = true) (hs : getState c.w.g s = .isStarting)
    (hlast : (c.w.g.svc s).lastRoughtState ≠ .isStarting) :
    s ∈ c'.w.g.interrupt ∨ c'.stage.before s = true ∨ Checked m s c c' := by
  have hhandles := Stage.handles_of_before hbefore
  cases hstaged with
  | same h => exact .inr (.inl (h ▸ hbefore))
  | take hidle h => simp [hidle, Stage.before] at hbefore
  | advanced ht hadv =>
    obtain rfl := Stage.eq_of_handles hhandles ht
    cases hadv with
    | abort hlock hnext => exact .inl (by simp [unlockedInto, mem_setInterrupt])
    | announce hstage hnext hrough => exact .inr (.inl (by simp [Stage.before]))
    | quiet hstage hnext hrough =>
      refine absurd ?_ hlast
      rw [hrough, ← hs, getState, (hok.each _).state _ hstage]
    | check hstage => exact .inr (.inr ⟨hstage, rfl, rfl⟩)
    | settle hstage | init hstage => simp [hstage, Stage.before] at hbefore

lemma StepFor.recorded (hok : OkFor c s) (hstep : StepFor m step s c c')
    (hstage : c.stage = .isChange s true) (hnext : (c.w.g.svc s).nextState ≠ none) :
    s ∈ c'.w.g.interrupt ∨ (c'.w.g.svc s).nextState ≠ none := by
  have hlock : c.stage.locks s = true := by simp [hstage, Stage.locks]
  have hone : (c.w.g.svc s).stateLock ≠ 0 := by simp [hok.locked, hlock]
  have hlt := hok.handled (Stage.handles_of_locks hlock)
  cases hstep with
  | beside hb => exact .inr (hb.moves.recorded hlt hone hnext)
  | take hidle hlist hlt => simp [hstage] at hidle
  | abort hlock hnext' => exact .inl (by simp [unlockedInto, mem_setInterrupt])
  | settle hlock hnext' hmoves => exact absurd hnext' hnext
  | called hcalls => exact absurd (hcalls.idle m hok).1.locked hone
  | free hfree => simp [hstage, Stage.handles] at hfree

lemma Unchecked.step_for (hok : c.Ok) (hun : Unchecked c s) (hstep : StepFor m step s c c')
    (hstaged : Staged m c c') (hstarts : Starts c'.w.g s)
    (hlast : (c'.w.g.svc s).lastRoughtState = (c.w.g.svc s).lastRoughtState) :
    Unchecked c' s ∨ Checked m s c c' := by
  obtain ⟨hold, hrough, hwait⟩ := hun
  have hun' (hwait' : s ∈ c'.w.g.interrupt ∨ c'.stage.before s = true ∨
      c'.stage = .isChange s true ∧ (c'.w.g.svc s).nextState ≠ none) : Unchecked c' s :=
    ⟨hstarts, by rwa [hlast], hwait'⟩
  rcases hwait with hlist | hbefore | ⟨hstage, hnext⟩
  · refine .inl (hun' ?_)
    rcases hstep.stays_listed m (hok.each s) hold.1 hstarts.1 hlist with hlist' | ⟨state, hstage⟩
    · exact .inl hlist'
    · exact .inr (.inl (by simp [hstage, Stage.before]))
  · rcases hstaged.unchecked m hok hbefore hold.2 hrough with hlist' | hbefore' | hchecked
    · exact .inl (hun' (.inl hlist'))
    · exact .inl (hun' (.inr (.inl hbefore')))
    · exact .inr hchecked
  · refine .inl (hun' ?_)
    cases hstaged with
    | same h =>
      exact (hstep.recorded m (hok.each s) hstage hnext).imp id fun hnext' =>
        .inr ⟨h.trans hstage, hnext'⟩
    | take hidle h => simp [hstage] at hidle
    | advanced ht hadv =>
      have hhandles : c.stage.handles s = true := by simp [hstage, Stage.handles]
      obtain rfl := Stage.eq_of_handles hhandles ht
      cases hadv with
      | abort hlock hnext' => exact .inl (by simp [unlockedInto, mem_setInterrupt])
      | settle _ hnext' hafter => exact absurd hnext' hnext
      | announce hstage' | quiet hstage' | check hstage' | init hstage' => simp [hstage] at hstage'

lemma Cleared.step_for (hok : c.Ok) (hstep : StepFor m step s c c') (hstaged : Staged m c c')
    (hchecked : StartsChecked s c c') (h : Cleared c' s) :
    Cleared c s ∨ Unchecked c s ∧ Checked m s c c' := by
  obtain ⟨hup, hstart, hstays⟩ := hchecked
  by_cases hold : Cleared c s
  · exact .inl hold
  have hnot : ¬ IsUp c.w.g s := fun hup => hold (.inl hup)
  have hunchecked (hs : Starts c.w.g s) : Unchecked c s :=
    not_not.mp fun hno => hold (.inr ⟨hs, hno⟩)
  rcases h with hup' | ⟨hstarts, hno⟩
  · have hs := (hup hup').resolve_left hnot
    have hcur := (hstays (hunchecked hs) (.inl hup')).1
    refine absurd ⟨hs.1, ?_⟩ hnot
    rw [getState, ← hcur]
    exact hup'.2
  · rcases hstart hstarts with hup | hs | hun'
    · exact absurd hup hnot
    · have hun := hunchecked hs
      have hlast := (hstays hun (.inr hstarts)).2
      have hcases := hun.step_for m hok hstep hstaged hstarts hlast
      exact .inr ⟨hun, hcases.resolve_left hno⟩
    · exact absurd hun' hno

lemma Checked.not_cleared (hm : m.isChange = checkConflict) (hok : c.Ok)
    (hlists : s ∈ c.w.g.activeDb → t ∈ c.w.g.activeDb → Lists c.w.g s t) (ht : Cleared c t)
    (hun : Unchecked c s) (hchecked : Checked m s c c') : ¬ Cleared c' s := by
  have hlocked : c.stage.locks s = true := by simp [hchecked.before, Stage.locks]
  have hlock : (c.w.g.svc s).stateLock ≠ 0 := by simp [(hok.each s).locked, hlocked]
  have hway : IsUp c.w.g t ∨ Starts c.w.g t := ht.imp id And.left
  have htdb : t ∈ c.w.g.activeDb := hway.elim And.left And.left
  have hlist : Lists c.w.g s t := hlists hun.1.1 htdb
  have hg : c'.w.g = checkConflict s c.w.g := by rw [hchecked.w, hm]
  have hnext : (c'.w.g.svc s).nextState ≠ none := by
    rw [hg]
    exact checkConflict_records hlock hun.1.2 (hlist.any_inTheWay hway)
  obtain ⟨next, he⟩ := checkConflict_of_locked (s := s) hlock
  have hstarts : Starts c'.w.g s := by
    rw [hg, he]
    simpa [Starts, getState] using hun.1
  have hlast : (c'.w.g.svc s).lastRoughtState ≠ .isStarting := by
    rw [hg, he]
    simpa using hun.2.1
  rintro (hup | ⟨-, hno⟩)
  · exact hstarts.not_up hup
  · exact hno ⟨hstarts, hlast, .inr (.inr ⟨hchecked.behind, hnext⟩)⟩

lemma exclude_apply (hm : m.isChange = checkConflict) (hok : c.Ok) (hne : a ≠ b)
    (step : SysStep) (hlists : EachLists a b c.w.g) (ha : StartsChecked a c (step.apply m c))
    (hb : StartsChecked b c (step.apply m c)) (h : ¬ (Cleared c a ∧ Cleared c b)) :
    ¬ (Cleared (step.apply m c) a ∧ Cleared (step.apply m c) b) := by
  rintro ⟨hca', hcb'⟩
  have hsteps := (step.stepsFor m hok).2
  have hstaged := step.staged m hok
  rcases hca'.step_for m hok (hsteps a) hstaged ha with hca | ⟨huna, hchecka⟩
  · rcases hcb'.step_for m hok (hsteps b) hstaged hb with hcb | ⟨hunb, hcheckb⟩
    · exact h ⟨hca, hcb⟩
    · exact hcheckb.not_cleared m hm hok (fun hb ha => (hlists ha hb).2) hca hunb hcb'
  · rcases hcb'.step_for m hok (hsteps b) hstaged hb with hcb | ⟨hunb, hcheckb⟩
    · exact hchecka.not_cleared m hm hok (fun ha hb => (hlists ha hb).1) hcb huna hca'
    · have hstage := hchecka.before.symm.trans hcheckb.before
      simp [hne] at hstage

end

/-- With the module `conflict` loaded, two services that list each other are not both up, in a run
in which both come up only once they have been announced as starting. -/
theorem conflicting_exclude (m : Loaded) (hm : m.isChange = checkConflict) (now : Timeval)
    (a b : Sid) (hne : a ≠ b) (steps : List SysStep)
    (hlists : Along (SysStep.apply m) (fun c _ => EachLists a b c.w.g) (Sys.start now) steps)
    (hchecked : Along (SysStep.apply m) (fun c step =>
      StartsChecked a c (step.apply m c) ∧ StartsChecked b c (step.apply m c))
      (Sys.start now) steps) :
    let c := run (SysStep.apply m) steps (Sys.start now)
    ¬ (IsUp c.w.g a ∧ IsUp c.w.g b) := by
  intro c hup
  have hc := (Sys.run_invariant m (I := fun c => ¬ (Cleared c a ∧ Cleared c b)) now
    (fun h => ?_) (fun c step hok h hstep => ?_) (hlists.and hchecked)).2
  · exact hc ⟨.inl hup.1, .inl hup.2⟩
  · rcases h.1 with hup | ⟨hstarts, -⟩
    · cases hup.1
    · cases hstarts.1
  · exact exclude_apply m hm hok hne step hstep.1 hstep.2.1 hstep.2.2 h

def refusesStop : DepMetHook where
  run _ g := (.failed, g)
  quiet _ _ _ := rfl

lemma refusesStop_hooksDo : HooksDo { allTypes with stopDepMet := [refusesStop] } Meddled where
  newActive _ hmem := absurd hmem List.not_mem_nil
  startDepMet _ hmem := absurd hmem List.not_mem_nil
  stopDepMet hook hmem _ g := by
    rw [List.mem_singleton.mp hmem]
    exact .refl g

def conflictModules : Loaded where
  toModules := { allTypes with stopDepMet := [refusesStop] }
  start_eq := rfl
  stop_eq := rfl
  restart_eq := rfl
  hooksDo := refusesStop_hooksDo
  isChange := checkConflict
  isChange_meddled := checkConflict_meddled

def webServers : List SysStep :=
  [.act (.new "apache"),
    .act (.setup 0 (some ⟨"service"⟩) .new [⟨.conflict, some "lighttpd", none⟩]),
    .act (.register 0), .act (.new "lighttpd"),
    .act (.setup 1 (some ⟨"service"⟩) .new [⟨.conflict, some "apache", none⟩]),
    .act (.register 1), .setSysState .stateStarting]

def comesUp (pid : Int) (s : Sid) : List SysStep :=
  .start 3 s :: handled (forking pid) s ++ handledQuietly (forking pid) s ++ .interrupt 3 s ::
    handledQuietly (forking pid) s ++ handledQuietly (forking pid) s ++
    .killed (forking pid) pid 0 :: handled (forking pid) s

def secondRefused : List SysStep :=
  webServers ++ comesUp 100 0 ++ .start 3 1 :: handled (forking 200) 1 ++ handled (forking 200) 1

theorem conflicting_exclude_second :
    let c := run (SysStep.apply conflictModules) secondRefused (Sys.start ⟨1, 0⟩)
    (IsUp c.w.g 0 ∧ (c.w.g.svc 1).currentState = .conflicting) ∧
      ¬ (IsUp c.w.g 0 ∧ IsUp c.w.g 1) := by
  refine ⟨?_, conflicting_exclude conflictModules rfl ⟨1, 0⟩ 0 1 (by decide) secondRefused ?_ ?_⟩
  all_goals decide +kernel

/-- The first one is asked to stop and waits for those that need it, the second one comes up, and
the first one is asked to start again. -/
def startedMeanwhile : List SysStep :=
  webServers ++ comesUp 100 0 ++ .stop 0 :: handled (forking 100) 0 ++
    handledQuietly (forking 100) 0 ++ .interrupt 3 0 :: comesUp 200 1 ++ .interrupt 3 0 ::
    .start 3 0 :: handled (forking 100) 0

theorem conflicting_both_up :
    ¬ ∀ (m : Loaded), m.isChange = checkConflict → ∀ (now : Timeval) (a b : Sid), a ≠ b →
      ∀ steps : List SysStep,
      Along (SysStep.apply m) (fun c _ => EachLists a b c.w.g) (Sys.start now) steps →
      let c := run (SysStep.apply m) steps (Sys.start now)
      (c.w.g.svc a).Known → (c.w.g.svc b).Known → c.stage = .idle → c.w.g.interrupt = [] →
        ¬ (IsUp c.w.g a ∧ IsUp c.w.g b) := by
  intro h
  refine h conflictModules rfl ⟨1, 0⟩ 0 1 (by decide) startedMeanwhile ?_ ?_ ?_ ?_ ?_ ?_
  all_goals decide +kernel

end Initng
