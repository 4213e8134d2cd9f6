import Initng.Requests
import Initng.Start

/-! `modules/service`, `modules/daemon`, `modules/runlevel`, `modules/task`, `modules/provide` and
`modules/netdev`. -/

namespace Initng

namespace AState

def taskWaiting : AState := ⟨"TASK_WAITING", .isDown⟩
def taskRunMarked : AState := ⟨"TASK_RUN_MARKED", .isStarting⟩
def redyForStart : AState := ⟨"REDY_TO_START", .isDown⟩

end AState

def startTask (task : Sid) (g : G) : Bool × G :=
  -- only mark it if it's waiting
  if (g.svc task).currentState = .taskWaiting then (true, (commonMarkService task .taskRunMarked g).2)
  else (true, g)

def dontTryToStopStart (_ : Sid) (g : G) : Bool × G := (false, g)

def allTypes : Modules where
  start type :=
    if type = ⟨"task"⟩ then some startTask
    else if type = ⟨"provided"⟩ then some dontTryToStopStart
    else typeModules.start type
  stop type := if type = ⟨"provided"⟩ then some dontTryToStopStart else typeModules.stop type
  restart type := if type = ⟨"provided"⟩ then some dontTryToStopStart else none

structure Undisturbed (g g' : G) : Prop where
  brk : g.brk ≤ g'.brk
  type : ∀ s < g.brk, (g'.svc s).type = (g.svc s).type
  stateLock : ∀ s < g.brk, (g'.svc s).stateLock = (g.svc s).stateLock

/-- All service types, with hooks of other modules that leave types and locks alone. -/
structure RepoModules extends Modules where
  start_eq : toModules.start = allTypes.start
  stop_eq : toModules.stop = allTypes.stop
  restart_eq : toModules.restart = allTypes.restart
  hooksDo : HooksDo toModules Undisturbed

def StartTook (g : G) (s : Sid) : Prop :=
  getState g s = .isStarting ∨ getState g s = .isUp ∨ getState g s = .isNew ∨
    getState g s = .isWaiting

def StopTook (g : G) (s : Sid) : Prop :=
  getState g s = .isStopping ∨ getState g s = .isDown ∨ getState g s = .isFailed

def Effective (m : Modules) (fuel : ℕ) (s : Sid) (g : G) : Prop :=
  (∀ g', handlerStartService m fuel s g = some (true, g') → StartTook g' s) ∧
    ∀ g', handlerStopService m s g = (true, g') → StopTook g' s

/-- The request reaches `start_task`, and finds the task neither waiting for its trigger nor on
its way. -/
def TaskIgnored (m : Modules) (fuel : ℕ) (s : Sid) (g : G) : Prop :=
  (g.svc s).type = some ⟨"task"⟩ ∧ canStart g s = true ∧ atRest g s = true ∧
    ∃ g', dependStartDeps (handlerStartService m fuel) m s (g.svc s).data g = some (true, g') ∧
      (g'.svc s).currentState ≠ .taskWaiting ∧ ¬ StartTook g' s

lemma commonMarkService_stateLock (g : G) (s t : Sid) (st : AState) :
    ((commonMarkService s st g).2.svc t).stateLock = (g.svc t).stateLock := by
  by_cases hts : t = s
  · subst hts
    rcases commonMarkService_records_or_enters g t st with ⟨next, -, he⟩ | ⟨-, he⟩
    · simp [he]
    · simp [he, ActiveType.enter]
  · rw [commonMarkService_svc_ne _ _ hts]

namespace Undisturbed

variable {g g' g'' : G}

lemma refl (g : G) : Undisturbed g g := ⟨le_rfl, fun _ _ => rfl, fun _ _ => rfl⟩

lemma trans (h : Undisturbed g g') (h' : Undisturbed g' g'') : Undisturbed g g'' where
  brk := le_trans h.brk h'.brk
  type s hs := (h'.type s (lt_of_lt_of_le hs h.brk)).trans (h.type s hs)
  stateLock s hs := (h'.stateLock s (lt_of_lt_of_le hs h.brk)).trans (h.stateLock s hs)

lemma observe (o : Obs) : Undisturbed g (g.observe o) :=
  ⟨le_rfl, fun _ _ => rfl, fun _ _ => rfl⟩

lemma mark (s : Sid) (st : AState) : Undisturbed g (commonMarkService s st g).2 where
  brk := Nat.le_of_eq (commonMarkService_brk ..).symm
  type t _ := (OwnChange.mark st).svc_type t
  stateLock t _ := commonMarkService_stateLock g s t st

lemma modify (s : Sid) {f : ActiveType → ActiveType}
    (hf : ∀ a, (f a).type = a.type ∧ (f a).stateLock = a.stateLock) :
    Undisturbed g (g.modify s f) := by
  refine ⟨le_rfl, fun t _ => ?_, fun t _ => ?_⟩ <;>
  · by_cases hts : t = s
    · subst hts
      simp [hf]
    · simp [hts]

lemma turnHook (waiting back marked : AState) (s : Sid) :
    Undisturbed g (turnHook waiting back marked s g).2 := by
  unfold Initng.turnHook
  split
  · exact .mark s back
  · exact .mark s marked

end Undisturbed

variable {type : Stype} {hook : Sid → G → Bool × G} {g g' : G} {waiting back marked : AState}
  {s : Sid}

lemma undisturbed_allTypes_start (h : allTypes.start type = some hook) (s : Sid) (g : G) :
    Undisturbed g (hook s g).2 := by
  simp only [allTypes, typeModules] at h
  split_ifs at h <;> cases h
  · unfold startTask
    split
    · exact .mark s .taskRunMarked
    · exact .refl g
  · exact .refl g
  all_goals exact .turnHook _ _ _ s

lemma undisturbed_allTypes_stop (h : allTypes.stop type = some hook) (s : Sid) (g : G) :
    Undisturbed g (hook s g).2 := by
  simp only [allTypes, typeModules] at h
  split_ifs at h <;> cases h
  · exact .refl g
  all_goals exact .turnHook _ _ _ s

lemma allTypes_restart (h : allTypes.restart type = some hook) : (hook s g).2 = g := by
  simp only [allTypes] at h
  split_ifs at h
  cases h
  rfl

lemma Undisturbed.of_asked (m : RepoModules) (h : Asked m.toModules Undisturbed g g') :
    Undisturbed g g' := by
  induction h with
  | refl g => exact .refl g
  | trans _ _ ih ih' => exact ih.trans ih'
  | other h => exact h
  | start _ hhook =>
    rw [m.start_eq] at hhook
    exact (Undisturbed.observe _).trans (undisturbed_allTypes_start hhook _ _)
  | stop _ hhook _ =>
    rw [m.stop_eq] at hhook
    exact (Undisturbed.observe _).trans (undisturbed_allTypes_stop hhook _ _)
  | @restart g _ _ _ _ hhook =>
    rw [m.restart_eq] at hhook
    exact allTypes_restart hhook ▸ .refl g
  | missing g s => exact .mark s _
  | cache g s count => exact .modify s fun _ => ⟨rfl, rfl⟩
  | flag g s =>
    unfold set
    split
    · exact .refl g
    · exact .modify s fun _ => ⟨rfl, rfl⟩
  | unflag g s => exact .modify s fun _ => ⟨rfl, rfl⟩

lemma turnHook_getState (hlock : (g.svc s).stateLock = 0) :
    getState (turnHook waiting back marked s g).2 s = back.is ∨
      getState (turnHook waiting back marked s g).2 s = marked.is := by
  by_cases hw : (g.svc s).currentState = waiting
  · left
    by_cases hb : waiting = back
    · rw [turnHook, if_pos hw, commonMarkService_same g s back (.inl hlock) (hw.trans hb)]
      simp [getState, hw, hb]
    · rw [turnHook, if_pos hw, commonMarkService_unlocked g s back hlock (hw ▸ hb)]
      simp [getState, ActiveType.enter]
  · right
    rw [getState, turnHook_currentState hlock hw]

lemma turnHook_lands (hlock : (g.svc s).stateLock = 0)
    (h : turnHook waiting back marked s g = (true, g')) :
    getState g' s = marked.is ∨ getState g' s = back.is := by
  obtain rfl : (turnHook waiting back marked s g).2 = g' := congrArg Prod.snd h
  exact (turnHook_getState hlock).symm

lemma startTook_of_start (hhook : allTypes.start type = some hook)
    (hlock : (g.svc s).stateLock = 0) (h : hook s g = (true, g')) :
    StartTook g' s ∨ type = ⟨"task"⟩ ∧ (g.svc s).currentState ≠ .taskWaiting ∧ g' = g := by
  have hturn {waiting back marked : AState} (hback : back.is = .isUp)
      (hmarked : marked.is = .isStarting) (h : turnHook waiting back marked s g = (true, g')) :
      StartTook g' s :=
    (turnHook_lands hlock h).imp (·.trans hmarked) fun hst => .inl (hst.trans hback)
  simp only [allTypes, typeModules] at hhook
  split_ifs at hhook with htask <;> cases hhook
  · unfold startTask at h
    split at h
    next hw =>
      obtain rfl : (commonMarkService s .taskRunMarked g).2 = g' := congrArg Prod.snd h
      rw [commonMarkService_unlocked g s _ hlock (by rw [hw]; decide)]
      exact .inl (.inl (by simp [getState, ActiveType.enter, AState.taskRunMarked]))
    next hw =>
      cases h
      exact .inr ⟨htask, hw, rfl⟩
  · cases h
  all_goals exact .inl (hturn rfl rfl h)

lemma stopTook_of_stop (hhook : allTypes.stop type = some hook) (hlock : (g.svc s).stateLock = 0)
    (h : hook s g = (true, g')) : StopTook g' s := by
  have hturn {waiting back marked : AState} (hback : back.is = .isDown)
      (hmarked : marked.is = .isStopping) (h : turnHook waiting back marked s g = (true, g')) :
      StopTook g' s :=
    (turnHook_lands hlock h).imp (·.trans hmarked) fun hst => .inl (hst.trans hback)
  simp only [allTypes, typeModules] at hhook
  split_ifs at hhook <;> cases hhook
  · cases h
  all_goals exact hturn rfl rfl h

section
variable {m : Modules} {fuel : ℕ} {s : Sid} {g g' : G}

lemma handlerStartService_true (h : handlerStartService m (fuel + 1) s g = some (true, g')) :
    StartTook g s ∧ g' = g ∨ canStart g s = true ∧ atRest g s = true ∧
      ∃ g₁, dependStartDeps (handlerStartService m fuel) m s (g.svc s).data g = some (true, g₁) ∧
        runStart m s g₁ = (true, g') := by
  by_cases hgo : canStart g s = true ∧ atRest g s = true
  · by_cases htype : (g.svc s).type.isSome
    · rw [handlerStartService_enter htype hgo.1 hgo.2] at h
      obtain ⟨⟨b, g₁⟩, hdeps, hrun⟩ := Option.map_eq_some_iff.mp h
      cases b with
      | false => simp at hrun
      | true => exact .inr ⟨hgo.1, hgo.2, g₁, hdeps, hrun⟩
    · simp [handlerStartService, Option.not_isSome_iff_eq_none.mp htype] at h
  · left
    rw [handlerStartService] at h
    split_ifs at h with htype hsys hflag
    · cases h
    · cases h
    · cases h
    have hcan : canStart g s = true := by
      simp only [canStart]
      simp at hsys hflag ⊢
      grind
    have hrest : atRest g s = false := by simpa [hcan] using hgo
    cases hst : getState g s <;> simp [atRest, hst] at hrest h
    all_goals
      obtain rfl := h
      exact ⟨by simp [StartTook, hst], rfl⟩

lemma handlerStopService_true (h : handlerStopService m s g = (true, g')) :
    StopTook g s ∧ g' = g ∨ ∃ type stop, m.stop type = some stop ∧
      stop s (g.observe (.stop s)) = (true, g') := by
  unfold handlerStopService at h
  split at h
  · cases h
  next type htype =>
    split at h
    next hst =>
      cases h
      exact .inl ⟨.inr (.inr hst), rfl⟩
    next hst =>
      cases h
      exact .inl ⟨.inl hst, rfl⟩
    next hst =>
      cases h
      exact .inl ⟨.inr (.inl hst), rfl⟩
    -- IS_UP and IS_STARTING
    iterate 2
      split at h
      · cases h
      next stop hstop => exact .inr ⟨type, stop, hstop, h⟩
    · cases h

end

section
variable {m : RepoModules} {fuel : ℕ} {s : Sid} {g g' : G}

lemma stopTook_handlerStopService (hlock : (g.svc s).stateLock = 0)
    (h : handlerStopService m.toModules s g = (true, g')) : StopTook g' s := by
  rcases handlerStopService_true h with ⟨htook, rfl⟩ | ⟨type, stop, hstop, hrun⟩
  · exact htook
  · rw [m.stop_eq] at hstop
    exact stopTook_of_stop (g := g.observe (.stop s)) hstop hlock hrun

lemma undisturbed_dependStartDeps {g₁ : G}
    (h : dependStartDeps (handlerStartService m.toModules fuel) m.toModules s (g.svc s).data g =
      some (true, g₁)) : Undisturbed g g₁ :=
  .of_asked m (asked_dependStartDeps m.hooksDo (asks_handlerStartService m.hooksDo fuel) h)

lemma runStart_of_task {g₁ : G} (htype : (g₁.svc s).type = some ⟨"task"⟩)
    (hw : (g₁.svc s).currentState ≠ .taskWaiting) :
    runStart m.toModules s g₁ = (true, g₁.observe (.start s)) := by
  have hhook : m.start ⟨"task"⟩ = some startTask := by rw [m.start_eq]; rfl
  simp [runStart, htype, hhook, startTask, hw]

lemma startTook_handlerStartService (hs : s < g.brk) (hlock : (g.svc s).stateLock = 0)
    (htask : ¬ TaskIgnored m.toModules fuel s g)
    (h : handlerStartService m.toModules (fuel + 1) s g = some (true, g')) : StartTook g' s := by
  rcases handlerStartService_true h with ⟨htook, rfl⟩ | ⟨hcan, hrest, g₁, hdeps, hrun⟩
  · exact htook
  have hsame : Undisturbed g g₁ := undisturbed_dependStartDeps hdeps
  have hlock₁ : (g₁.svc s).stateLock = 0 := (hsame.stateLock s hs).trans hlock
  unfold runStart at hrun
  split at hrun
  · cases hrun
  next hook hbind =>
    obtain ⟨type, htype, hhook⟩ := Option.bind_eq_some_iff.mp hbind
    rw [m.start_eq] at hhook
    rcases startTook_of_start (g := g₁.observe (.start s)) hhook hlock₁ hrun with
      htook | ⟨rfl, hw, rfl⟩
    · exact htook
    · rw [hsame.type s hs] at htype
      by_contra hno
      exact htask ⟨htype, hcan, hrest, g₁, hdeps, hw, hno⟩

/-- **Requests that report success have taken effect**, but for a task that its start hook finds
neither waiting nor on its way. -/
theorem effective_iff_not_taskIgnored (hs : s < g.brk) (hlock : (g.svc s).stateLock = 0) :
    Effective m.toModules (fuel + 1) s g ↔ ¬ TaskIgnored m.toModules fuel s g := by
  constructor
  · rintro ⟨hstart, -⟩ ⟨htask, hcan, hrest, g₁, hdeps, hw, hno⟩
    have hsame : Undisturbed g g₁ := undisturbed_dependStartDeps hdeps
    have hrun : runStart m.toModules s g₁ = (true, g₁.observe (.start s)) :=
      runStart_of_task ((hsame.type s hs).trans htask) hw
    have hret : handlerStartService m.toModules (fuel + 1) s g =
        some (true, g₁.observe (.start s)) := by
      rw [handlerStartService_enter (by simp [htask]) hcan hrest, hdeps]
      simp [hrun]
    have htook : StartTook (g₁.observe (.start s)) s := hstart _ hret
    exact hno htook
  · intro htask
    exact ⟨fun g' h => startTook_handlerStartService hs hlock htask h,
      fun g' h => stopTook_handlerStopService hlock h⟩

end

def repoModules : RepoModules :=
  { allTypes with
    start_eq := rfl
    stop_eq := rfl
    restart_eq := rfl
    hooksDo := ⟨fun _ h => (by cases h), fun _ h => (by cases h), fun _ h => (by cases h)⟩ }

def parsedTask : G := G.ofServices .stateUp [.needing "cleanup" ⟨"task"⟩ .redyForStart []]

theorem effective_waiting_task :
    Effective repoModules.toModules 1 0
      (G.ofServices .stateUp [.needing "cleanup" ⟨"task"⟩ .taskWaiting []]) := by
  refine (effective_iff_not_taskIgnored (by decide) rfl).mpr ?_
  rintro ⟨-, -, -, g', hdeps, hw, -⟩
  cases hdeps
  exact hw rfl

/-- Starting the parsed task returns TRUE, and leaves it IS_DOWN. -/
theorem not_effective_parsedTask :
    ¬ ∀ (m : RepoModules) (fuel : ℕ) (s : Sid) (g : G), s < g.brk → (g.svc s).stateLock = 0 →
      Effective m.toModules (fuel + 1) s g := by
  intro h
  have hret : handlerStartService repoModules.toModules 1 0 parsedTask =
      some (true, parsedTask.observe (.start 0)) := rfl
  have htook := (h repoModules 0 0 parsedTask (by decide) rfl).1 _ hret
  simp [StartTook, getState, parsedTask, G.ofServices, ActiveType.needing, AState.redyForStart]
    at htook

end Initng
