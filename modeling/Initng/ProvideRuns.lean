import Initng.Provide

namespace Initng

open StepRun

/-- A service comes into a state, and `EVENT_IS_CHANGE` is sent for it. -/
structure ProviderStep where
  service : Sid
  state : AState

def World.enter (s : Sid) (state : AState) (w : World) : World :=
  { w with g := w.g.modify s fun a => a.enter state w.g.clock }

def ProviderStep.apply (step : ProviderStep) (w : World) : World :=
  serviceState step.service (w.enter step.service step.state)

def VirtualsMirror (w : World) : Prop :=
  ∀ vserv ∈ w.g.activeDb, (w.g.svc vserv).type = some .provided →
    w.getInt .pCount vserv =
        (providers [.isStarting, .isUp] (w.g.svc vserv).name w.g.activeDb w.g).length ∧
      (getState w.g vserv = .isUp ↔
        ∃ s ∈ w.g.activeDb, (w.g.svc vserv).name ∈ provides w.g s ∧ getState w.g s = .isUp) ∧
      (getState w.g vserv = .isDown ↔
        (providers [.isStarting, .isUp] (w.g.svc vserv).name w.g.activeDb w.g).length = 0)

instance (w : World) : Decidable (VirtualsMirror w) :=
  inferInstanceAs (Decidable (∀ vserv ∈ w.g.activeDb, _ → _ ∧ _ ∧ _))

def Mirrored (w : World) : Prop := Shows (tally w.g.activeDb w.g) w

def others (w : World) (s : Sid) (name : String) : Tally := tally (w.g.activeDb.erase s) w.g name

/-- A provider leaves a name in order: one that has been up while another one is, or while no other
is starting or up; one that has been starting while another one is up; and one that has left before
while none is starting or up. -/
def LeavesWell (was : EIs) (x : Tally) : Prop :=
  if was = .isUp then x.up = true ∨ x.running = 0
  else if was = .isStarting then x.up = true
  else x.running = 0

instance (was : EIs) (x : Tally) : Decidable (LeavesWell was x) :=
  inferInstanceAs (Decidable (ite _ _ _))

/-- A provider moves in order: it starts while it is neither starting nor up, and no other service
has one of its names; and it comes up from starting, with the names that others have up already
behind the rest. -/
def MovesWell (w : World) (step : ProviderStep) : Prop :=
  if step.state.is = .isStarting then
    getState w.g step.service ∉ [.isStarting, .isUp] ∧ ∀ v ∈ provides w.g step.service, Free v w.g
  else if step.state.is = .isUp then
    getState w.g step.service = .isStarting ∧
      (provides w.g step.service).Pairwise fun v v' =>
        (others w step.service v).up = true → (others w step.service v').up = true
  else
    ∀ v ∈ provides w.g step.service,
      LeavesWell (getState w.g step.service) (others w step.service v)

instance (name : String) (g : G) : Decidable (Free name g) :=
  inferInstanceAs (Decidable (∀ t ∈ g.activeDb, _ → _))

instance (w : World) (step : ProviderStep) : Decidable (MovesWell w step) :=
  inferInstanceAs (Decidable (ite _ _ _))

@[mk_iff]
structure Orderly (w : World) (step : ProviderStep) : Prop where
  mem : step.service ∈ w.g.activeDb
  type : (w.g.svc step.service).type ≠ some .provided
  distinct : (provides w.g step.service).Nodup
  moves : MovesWell w step

instance (w : World) (step : ProviderStep) : Decidable (Orderly w step) :=
  decidable_of_iff' _ (orderly_iff w step)

structure AtRest (w : World) : Prop where
  sysState : w.g.sysState ≠ .stateStopping
  nodup : w.g.activeDb.Nodup
  below : ∀ s ∈ w.g.activeDb, s < w.g.brk
  names : ∀ s ∈ w.g.activeDb, ∀ t ∈ w.g.activeDb, (w.g.svc s).name = (w.g.svc t).name → s = t
  type : ∀ s ∈ w.g.activeDb, (w.g.svc s).type ≠ some .provided
  state : ∀ s ∈ w.g.activeDb, getState w.g s ∉ [.isStarting, .isUp]

section
variable {T : String → Tally} {w w' : World} {s : Sid} {v : String} {st : AState}

lemma serviceState_else (hstate : getState w.g s ∉ [.isStarting, .isUp]) :
    serviceState s w =
      untilFalse (fun tmp w => (true, removeVirtualService tmp w)) (provides w.g s) w := by
  rw [← foldl_removeVirtualService, serviceState]
  split
  next h => simp [h] at hstate
  next h => simp [h] at hstate
  next => rfl

lemma enter_svc_ne {u : Sid} (h : u ≠ s) : (w.enter s st).g.svc u = w.g.svc u := by
  simp [World.enter, h]

lemma enter_svc_self : (w.enter s st).g.svc s = (w.g.svc s).enter st w.g.clock := by
  simp [World.enter]

lemma enter_svc (w : World) (s : Sid) (st : AState) (u : Sid) :
    ((w.enter s st).g.svc u).name = (w.g.svc u).name ∧
      ((w.enter s st).g.svc u).type = (w.g.svc u).type ∧
      ((w.enter s st).g.svc u).stateLock = (w.g.svc u).stateLock ∧
      ((w.enter s st).g.svc u).data = (w.g.svc u).data := by
  by_cases hu : u = s
  · rw [hu, enter_svc_self]
    exact ⟨rfl, rfl, rfl, rfl⟩
  · rw [enter_svc_ne hu]
    exact ⟨rfl, rfl, rfl, rfl⟩

lemma Shows.enter (h : Shows T w) (hs : (w.g.svc s).type ≠ some .provided) :
    Shows T (w.enter s st) where
  sysState := h.sysState
  nodup := h.nodup
  below := h.below
  names u hu t ht hname := by
    rw [(enter_svc w s st u).1, (enter_svc w s st t).1] at hname
    exact h.names u hu t ht hname
  unlocked t ht htype := by
    rw [(enter_svc w s st t).2.1] at htype
    rw [(enter_svc w s st t).2.2.1]
    exact h.unlocked t ht htype
  bare t ht htype := by
    rw [(enter_svc w s st t).2.1] at htype
    rw [provides_congr (enter_svc w s st t).2.2.2]
    exact h.bare t ht htype
  count t ht htype := by
    rw [(enter_svc w s st t).2.1] at htype
    rw [(enter_svc w s st t).1, ← h.count t ht htype]
    exact getInt_congr rfl (enter_svc w s st t).2.2.2
  state t ht htype := by
    rw [(enter_svc w s st t).2.1] at htype
    have hts : t ≠ s := by
      rintro rfl
      exact hs htype
    rw [getState, enter_svc_ne hts]
    exact h.state t ht htype
  has name hrunning := by
    obtain ⟨t, ht, htype, hname⟩ := h.has name hrunning
    rw [← (enter_svc w s st t).2.1] at htype
    rw [← (enter_svc w s st t).1] at hname
    exact ⟨t, ht, htype, hname⟩

lemma getState_enter : getState (w.enter s st).g s = st.is := by
  rw [getState, enter_svc_self]
  rfl

lemma provides_enter (u : Sid) : provides (w.enter s st).g u = provides w.g u :=
  provides_congr (enter_svc w s st u).2.2.2

lemma tally_eq_others (hs : s ∈ w.g.activeDb) : tally w.g.activeDb w.g v =
    if v ∈ provides w.g s then (others w s v).plus (getState w.g s) else others w s v := by
  rw [tally_perm (List.perm_cons_erase hs), tally_cons, others]

lemma others_enter (hnodup : w.g.activeDb.Nodup) : others (w.enter s st) s v = others w s v := by
  refine congrFun (tally_congr fun u hu => ?_) v
  have hus : u ≠ s := (hnodup.mem_erase_iff.mp hu).1
  rw [provides, strings, getState, enter_svc_ne hus]
  exact ⟨rfl, .inl rfl⟩

lemma mirrored_of_loop {op : Tally → Tally} (h : Mirrored w) (hs : s ∈ w.g.activeDb)
    (hop : ∀ v ∈ provides w.g s,
      op ((others w s v).plus (getState w.g s)) = (others w s v).plus st.is)
    (hshows : Shows (changeAt op (provides w.g s) (tally w.g.activeDb w.g)) w')
    (hkept : ProvidersKept (w.enter s st).g w'.g) : Mirrored w' := by
  have htally : changeAt op (provides w.g s) (tally w.g.activeDb w.g) =
      tally w'.g.activeDb w'.g := by
    rw [hkept.tally]
    funext v
    rw [changeAt, tally_eq_others hs, tally_eq_others (w := w.enter s st) hs, others_enter h.nodup,
      getState_enter, provides_enter]
    split
    next hv => exact hop v hv
    next => rfl
  rw [Mirrored, ← htally]
  exact hshows

lemma tally_of_mem (hs : s ∈ w.g.activeDb) (hv : v ∈ provides w.g s) :
    tally w.g.activeDb w.g v = (others w s v).plus (getState w.g s) := by
  rw [tally_eq_others hs, if_pos hv]

variable {step : ProviderStep}

lemma Mirrored.starting (h : Mirrored w) (hstep : Orderly w step)
    (hstarting : step.state.is = .isStarting) : Mirrored (step.apply w) := by
  have hmoves := hstep.moves
  rw [MovesWell, if_pos hstarting] at hmoves
  obtain ⟨hwas, hfree⟩ := hmoves
  have henter : Shows (tally w.g.activeDb w.g) (w.enter step.service step.state) :=
    Shows.enter h hstep.type
  have happly : step.apply w = untilFalse addVirtualService (provides w.g step.service)
      (w.enter step.service step.state) := by
    rw [ProviderStep.apply, serviceState, getState_enter, hstarting, provides_enter]
    exact if_neg henter.sysState
  have hfree' : ∀ v ∈ provides w.g step.service, Free v (w.enter step.service step.state).g := by
    intro v hv t ht hname
    rw [(enter_svc ..).1] at hname
    rw [(enter_svc ..).2.1]
    exact hfree v hv t ht hname
  obtain ⟨hshows, hkept⟩ := untilFalse_shows (p := fun v _ g => Free v g)
    (fun hkept hv => hkept.free _ hv) (fun h hv => addVirtualService_shows h hv)
    hstep.distinct henter hfree'
  rw [happly]
  refine mirrored_of_loop h hstep.mem (fun v _ => ?_) hshows hkept
  rw [Tally.plus_of_notMem hwas, hstarting, Tally.plus_isStarting]

lemma Mirrored.up (h : Mirrored w) (hstep : Orderly w step)
    (hup : step.state.is = .isUp) : Mirrored (step.apply w) := by
  have hmoves := hstep.moves
  rw [MovesWell, if_neg (by simp [hup]), if_pos hup] at hmoves
  obtain ⟨hwas, hlast⟩ := hmoves
  have henter : Shows (tally w.g.activeDb w.g) (w.enter step.service step.state) :=
    Shows.enter h hstep.type
  have happly : step.apply w = untilFalse virtualServiceSetUp (provides w.g step.service)
      (w.enter step.service step.state) := by
    rw [ProviderStep.apply, serviceState, getState_enter, hup, provides_enter]
    exact if_neg henter.sysState
  have htally {v : String} (hv : v ∈ provides w.g step.service) : tally w.g.activeDb w.g v =
      (others w step.service v).join := by
    rw [tally_of_mem hstep.mem hv, hwas, Tally.plus_isStarting]
  obtain ⟨hshows, hkept⟩ := untilFalse_setUp_shows hstep.distinct henter
    (fun v hv => by
      rw [htally hv]
      exact Nat.succ_ne_zero _)
    (hlast.imp_of_mem fun hv hv' himp => by
      rw [htally hv, htally hv']
      exact himp)
  rw [happly]
  refine mirrored_of_loop h hstep.mem (fun v _ => ?_) hshows hkept
  rw [hwas, hup, Tally.plus_isStarting, Tally.plus_isUp]

lemma leave_of_leavesWell {was : EIs} {x : Tally} (h : LeavesWell was x) :
    ((x.plus was).up = true ∨ (x.plus was).running = 0) ∧ (x.plus was).leave = x := by
  unfold LeavesWell at h
  split_ifs at h with hup hstarting
  · rw [hup, Tally.plus_isUp]
    exact ⟨.inl rfl, Tally.leave_join h⟩
  · rw [hstarting, Tally.plus_isStarting]
    exact ⟨.inl h, Tally.leave_join (.inl h)⟩
  · rw [Tally.plus_of_notMem (by simp [hup, hstarting])]
    exact ⟨.inr h, Tally.leave_eq_self h⟩

lemma Mirrored.leaving (h : Mirrored w) (hstep : Orderly w step)
    (hleaving : step.state.is ∉ [.isStarting, .isUp]) : Mirrored (step.apply w) := by
  have hmoves := hstep.moves
  rw [MovesWell, if_neg (by rintro he; simp [he] at hleaving),
    if_neg (by rintro he; simp [he] at hleaving)] at hmoves
  have henter : Shows (tally w.g.activeDb w.g) (w.enter step.service step.state) :=
    Shows.enter h hstep.type
  have happly : step.apply w = untilFalse (fun tmp w => (true, removeVirtualService tmp w))
      (provides w.g step.service) (w.enter step.service step.state) := by
    rw [ProviderStep.apply, serviceState_else (getState_enter (w := w) ▸ hleaving), provides_enter]
  -- the name has a provider up or none starting or up, and is left with those of the others
  have hname : ∀ v ∈ provides w.g step.service,
      ((tally w.g.activeDb w.g v).up = true ∨ (tally w.g.activeDb w.g v).running = 0) ∧
        (tally w.g.activeDb w.g v).leave = others w step.service v := by
    intro v hv
    rw [tally_of_mem hstep.mem hv]
    exact leave_of_leavesWell (hmoves v hv)
  have hloop : Shows (changeAt Tally.leave (provides w.g step.service) (tally w.g.activeDb w.g))
      (step.apply w) ∧ ProvidersKept (w.enter step.service step.state).g (step.apply w).g := by
    rw [happly]
    exact untilFalse_shows (p := fun _ x _ => x.up = true ∨ x.running = 0) (fun _ hv => hv)
      (fun h hv => ⟨rfl, removeVirtualService_shows h hv⟩) hstep.distinct henter
      fun v hv => (hname v hv).1
  refine mirrored_of_loop h hstep.mem (fun v hv => ?_) hloop.1 hloop.2
  rw [Tally.plus_of_notMem hleaving, ← tally_of_mem hstep.mem hv]
  exact (hname v hv).2

lemma Mirrored.apply (h : Mirrored w) (hstep : Orderly w step) : Mirrored (step.apply w) := by
  by_cases hstarting : step.state.is = .isStarting
  · exact h.starting hstep hstarting
  by_cases hup : step.state.is = .isUp
  · exact h.up hstep hup
  · exact h.leaving hstep (by simp [hstarting, hup])

lemma Mirrored.virtualsMirror (h : Mirrored w) : VirtualsMirror w := by
  intro t ht htype
  have hcount := h.count t ht htype
  have hstate := h.state t ht htype
  set x := tally w.g.activeDb w.g (w.g.svc t).name with hx
  have hup : x.up = true ↔
      ∃ s ∈ w.g.activeDb, (w.g.svc t).name ∈ provides w.g s ∧ getState w.g s = .isUp := by
    rw [hx, tally, decide_eq_true_eq, List.length_pos_iff_exists_mem]
    simp only [mem_providers, List.mem_singleton]
  refine ⟨hcount, ?_, ?_⟩
  · rw [← hup, hstate, Tally.state_eq_isUp]
  · rw [hstate, Tally.state_eq_isDown]
    rfl

lemma AtRest.mirrored (h : AtRest w) : Mirrored w where
  sysState := h.sysState
  nodup := h.nodup
  below := h.below
  names := h.names
  unlocked t ht htype := absurd htype (h.type t ht)
  bare t ht htype := absurd htype (h.type t ht)
  count t ht htype := absurd htype (h.type t ht)
  state t ht htype := absurd htype (h.type t ht)
  has name hrunning := by
    obtain ⟨s, hs⟩ := List.exists_mem_of_length_pos (Nat.pos_of_ne_zero hrunning)
    obtain ⟨hmem, -, hstate⟩ := mem_providers.mp hs
    exact absurd hstate (h.state s hmem)

end

/-- From virtual services that show their providers, as before the first event, every run of
orderly events leaves them mirroring their providers after each one. -/
theorem virtualsMirror_of_orderly (w : World) (steps : List ProviderStep) (hstart : Mirrored w)
    (horderly : Along ProviderStep.apply Orderly w steps) (k : ℕ) :
    VirtualsMirror (run ProviderStep.apply (steps.take k) w) := by
  have hmirrored : Mirrored (run ProviderStep.apply (steps.take k) w) :=
    (horderly.take k).invariant (fun _ _ h hstep => h.apply hstep) hstart
  exact hmirrored.virtualsMirror

def twoMtas : World where
  g := G.ofServices .stateUp (["postfix", "exim"].map fun name =>
    { ActiveType.ofName name ⟨0, 0⟩ with
      nameHash_eq := rfl
      type := some ⟨"daemon"⟩
      currentState := .daemonStopped
      data := [⟨.provide, some "smtp", none⟩] })
  processes := ⟨[], fun _ => [], fun _ => processDbNew tDaemon, 0, []⟩
  ints _ _ := 0
  now := 0
  nextAlarm := 0
  started := []

lemma twoMtas_atRest : AtRest twoMtas :=
  ⟨by decide, by decide, by decide, by decide, by decide, by decide⟩

def bothUp : List ProviderStep :=
  [⟨0, .daemonLaunch⟩, ⟨0, .daemonRunning⟩, ⟨1, .daemonLaunch⟩, ⟨1, .daemonRunning⟩]

def bothStop : List ProviderStep :=
  bothUp ++ [⟨0, .daemonStopMarked⟩, ⟨1, .daemonStopMarked⟩, ⟨0, .daemonStopped⟩,
    ⟨1, .daemonStopped⟩]

def firstStopped : List ProviderStep := bothUp ++ [⟨0, .daemonStopMarked⟩, ⟨0, .daemonStopped⟩]

theorem virtualsMirror_of_orderly_bothStop :
    getState (run ProviderStep.apply (bothStop.take 5) twoMtas).g 2 = .isUp ∧
      VirtualsMirror (run ProviderStep.apply (bothStop.take 5) twoMtas) := by
  refine ⟨?_, virtualsMirror_of_orderly twoMtas bothStop twoMtas_atRest.mirrored ?_ 5⟩
  all_goals decide +kernel

/-- A provider that is stopped is taken off the count twice, and the virtual service is down while
the other one is up. -/
theorem virtualsMirror_not_always :
    ¬ ∀ (w : World) (steps : List ProviderStep), AtRest w →
      (∀ step ∈ steps, step.service ∈ w.g.activeDb) →
      ∀ k, VirtualsMirror (run ProviderStep.apply (steps.take k) w) := by
  intro h
  have hmirror := h twoMtas firstStopped twoMtas_atRest (by decide) 6
  revert hmirror
  decide +kernel

end Initng
