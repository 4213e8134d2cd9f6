import Initng.PostorderWalk
import Initng.ServiceTypes

namespace Initng

open List Option PostorderWalk Relation

/-- Every service has a type with a start hook that changes its own service only and
moves it, when it is down, to a starting state. -/
def StartHooks (m : Modules) (g : G) : Prop :=
  ∀ s ∈ g.activeDb, ∃ hook, (g.svc s).type.bind m.start = some hook ∧
    (∀ g', OwnChange s g' (hook s g').2) ∧
    ∀ g', g'.svc s = g.svc s → getState g s = .isDown → getState (hook s g').2 s = .isStarting

variable {m : Modules} {s : Sid}

lemma StartHooks.type_isSome {g : G} (hooks : StartHooks m g) (hs : s ∈ g.activeDb) :
    (g.svc s).type.isSome := by
  obtain ⟨hook, hbind, -⟩ := hooks s hs
  obtain ⟨type, htype, -⟩ := bind_eq_some_iff.mp hbind
  simp [htype]

def isStartDep (d : SData) : Bool := d.type = .require ∨ d.type = .need

def startDepsOf (g : G) (entries : List SData) : List Sid :=
  entries.filterMap fun d => if isStartDep d then d.s.bind (activeDbFindByName g) else none

/-- What registered services need or require is registered. -/
def StartDepsRegistered (g : G) : Prop :=
  ∀ s ∈ g.activeDb, ∀ d ∈ (g.svc s).data, isStartDep d = true →
    ∀ name, d.s = some name → (activeDbFindByName g name).isSome

def canStart (g : G) (s : Sid) : Bool :=
  (g.sysState = .stateStarting ∨ g.sysState = .stateUp) ∧ is .restarting g s = false

def atRest (g : G) (s : Sid) : Bool := getState g s = .isDown ∨ getState g s = .isStopping

/-- `s` needs or requires `t`, and `t` is down and not being restarted. -/
def StartEdge (g : G) (s t : Sid) : Prop :=
  t ∈ startDepsOf g (g.svc s).data ∧ getState g t = .isDown ∧ is .restarting g t = false

lemma startDepsOf_mem {g : G} {entries : List SData} {t : Sid}
    (h : t ∈ startDepsOf g entries) : t ∈ g.activeDb := by
  obtain ⟨d, -, hd⟩ := mem_filterMap.mp h
  split at hd
  · obtain ⟨name, -, hfind⟩ := bind_eq_some_iff.mp hd
    exact (activeDbFindByName_mem hfind).1
  · cases hd

section
variable {m : Modules} {g₀ : G} {g : G} {start : Sid → G → Option (Bool × G)}

structure StartInv (g₀ g : G) : Prop where
  activeDb : g.activeDb = g₀.activeDb
  sysState : g.sysState = g₀.sysState
  name : ∀ t, (g.svc t).name = (g₀.svc t).name
  type : ∀ t, (g.svc t).type = (g₀.svc t).type
  data : ∀ t, (g.svc t).data = (g₀.svc t).data
  down : ∀ t, getState g t = .isDown → g.svc t = g₀.svc t

lemma StartInv.refl (g₀ : G) : StartInv g₀ g₀ :=
  ⟨rfl, rfl, fun _ => rfl, fun _ => rfl, fun _ => rfl, fun _ _ => rfl⟩

lemma StartInv.find (hi : StartInv g₀ g) :
    activeDbFindByName g = activeDbFindByName g₀ :=
  activeDbFindByName_congr hi.activeDb hi.name

lemma StartInv.canStart (hi : StartInv g₀ g) (t : Sid) : canStart g t = canStart g₀ t := by
  simp [Initng.canStart, is, hi.sysState, hi.data]

def startable (g₀ g : G) (t : Sid) : Bool :=
  t ∈ g₀.activeDb ∧ getState g t = .isDown ∧ canStart g₀ t

lemma startable_iff {t : Sid} : startable g₀ g t = true ↔
    t ∈ g₀.activeDb ∧ getState g t = .isDown ∧ canStart g₀ t = true := by
  simp [startable]

variable {s : Sid}

lemma runStart_spec (hooks : StartHooks m g₀) (hi : StartInv g₀ g)
    (hs : startable g₀ g s = true) :
    OwnChange s (g.observe (.start s)) (runStart m s g).2 ∧
      getState (runStart m s g).2 s = .isStarting := by
  obtain ⟨hmem, hdown, -⟩ := startable_iff.mp hs
  obtain ⟨hook, htype, hown, hmove⟩ := hooks s hmem
  have hrec : g.svc s = g₀.svc s := hi.down s hdown
  have hdown₀ : getState g₀ s = .isDown := by rw [← hdown, getState, getState, hrec]
  have hrun : runStart m s g = hook s (g.observe (.start s)) := by
    simp only [runStart, hi.type, htype]
  rw [hrun]
  exact ⟨hown _, hmove _ hrec hdown₀⟩

def startWalk (hooks : StartHooks m g₀) : Walk Sid G where
  Inv := StartInv g₀
  enterable := startable g₀
  succ s := startDepsOf g₀ (g₀.svc s).data
  leave s g := (runStart m s g).2
  inv_leave := by
    intro s g hi hs
    obtain ⟨hown, hstate⟩ := runStart_spec hooks hi hs
    refine ⟨hown.activeDb.trans hi.activeDb, hown.sysState.trans hi.sysState,
      fun t => (hown.svc_name t).trans (hi.name t), fun t => (hown.svc_type t).trans (hi.type t),
      fun t => (hown.svc_data t).trans (hi.data t), fun t ht => ?_⟩
    have hne : t ≠ s := by
      rintro rfl
      rw [hstate] at ht
      cases ht
    have hsame : (runStart m s g).2.svc t = g.svc t := hown.other t hne
    rw [getState, hsame] at ht
    rw [hsame, hi.down t ht]
  enterable_leave := by
    intro s g hi hs t
    obtain ⟨hown, hstate⟩ := runStart_spec hooks hi hs
    simp only [startable_iff]
    by_cases hne : t = s
    · subst hne
      simp [hstate]
    · have hsame : (runStart m s g).2.svc t = g.svc t := hown.other t hne
      simp [getState, hsame, hne]

lemma handlerStartService_enter {fuel : ℕ}
    (htype : (g.svc s).type.isSome) (hc : canStart g s = true) (hr : atRest g s = true) :
    handlerStartService m (fuel + 1) s g =
      (dependStartDeps (handlerStartService m fuel) m s (g.svc s).data g).map fun r =>
        if r.1 = false then (false, r.2) else runStart m s r.2 := by
  simp only [canStart, Bool.decide_and, Bool.decide_or, Bool.and_eq_true, Bool.or_eq_true,
    decide_eq_true_eq] at hc
  have hsys : ¬ (g.sysState ≠ .stateStarting ∧ g.sysState ≠ .stateUp) := by
    rcases hc.1 with h | h <;> simp [h]
  have htype' : (g.svc s).type.isNone = false := by
    rw [isNone_eq_false_iff]
    exact htype
  have hst : getState g s = .isDown ∨ getState g s = .isStopping := by simpa [atRest] using hr
  simp only [handlerStartService, htype', hsys, hc.2, Bool.false_eq_true, if_false]
  rcases hst with h | h <;> simp only [h]

lemma handlerStartService_turned (fuel : ℕ)
    (h : ¬ (canStart g s = true ∧ atRest g s = true)) :
    ∃ result, handlerStartService m (fuel + 1) s g = some (result, g) := by
  simp only [handlerStartService]
  split_ifs with htype hsys hflag
  · exact ⟨_, rfl⟩
  · exact ⟨_, rfl⟩
  · exact ⟨_, rfl⟩
  have hc : canStart g s = true := by
    simp only [canStart]
    simp at hsys hflag ⊢
    grind
  have hr : atRest g s = false := by simpa [hc] using h
  cases hst : getState g s <;> simp [atRest, hst] at hr ⊢

def startIfDown (start : Sid → G → Option (Bool × G)) (g : G) (t : Sid) : Option G :=
  if getState g t = .isDown then (start t g).map fun r => r.2 else some g

lemma dependStartDeps_eq
    (hstart : ∀ t ∈ g₀.activeDb, ∀ g r, StartInv g₀ g → getState g t = .isDown →
      start t g = some r → StartInv g₀ r.2)
    {entries : List SData}
    (hreg : ∀ d ∈ entries, isStartDep d = true → ∀ name, d.s = some name →
      (activeDbFindByName g₀ name).isSome) (hi : StartInv g₀ g) :
    dependStartDeps start m s entries g =
      ((startDepsOf g₀ entries).foldlM (startIfDown start) g).map fun g => (true, g) := by
  induction entries generalizing g with
  | nil => rfl
  | cons d entries ih =>
    have hreg' : ∀ d ∈ entries, isStartDep d = true → ∀ name, d.s = some name →
        (activeDbFindByName g₀ name).isSome := fun d hd => hreg d (.tail _ hd)
    by_cases hdep : isStartDep d = true
    · have htype : ¬ (d.type ≠ .require ∧ d.type ≠ .need) := by
        simp only [isStartDep, decide_eq_true_eq] at hdep
        tauto
      simp only [dependStartDeps, htype, if_false, startDepsOf, filterMap_cons, hdep, if_true]
      cases hname : d.s with
      | none => exact ih hreg' hi
      | some name =>
        obtain ⟨t, ht⟩ := isSome_iff_exists.mp (hreg d (by simp) hdep name hname)
        simp only [hi.find, ht, bind_some, foldlM_cons, startIfDown]
        by_cases hdown : getState g t = .isDown
        · simp only [hdown, if_true]
          cases hcall : start t g with
          | none => rfl
          | some r => exact ih hreg' (hstart t (activeDbFindByName_mem ht).1 g r hi hdown hcall)
        · simp only [hdown, if_false]
          exact ih hreg' hi
    · have htype : d.type ≠ .require ∧ d.type ≠ .need := by
        simp only [isStartDep, decide_eq_true_eq] at hdep
        tauto
      have hskip : startDepsOf g₀ (d :: entries) = startDepsOf g₀ entries := by
        simp [startDepsOf, hdep]
      rw [hskip, dependStartDeps, if_pos htype]
      exact ih hreg' hi

variable (hooks : StartHooks m g₀) {n : ℕ}

lemma visit_of_not_down {t : Sid} (h : getState g t ≠ .isDown) :
    (startWalk hooks).visit (n + 1) t g = some g :=
  Walk.visit_closed (by simp [startWalk, startable, h])

lemma foldlM_of_visitAll
    (hcall : ∀ t ∈ g₀.activeDb, ∀ g g', StartInv g₀ g → getState g t = .isDown →
      (startWalk hooks).visit n t g = some g' → (start t g).map (fun r => r.2) = some g')
    {l : List Sid} (hl : ∀ t ∈ l, t ∈ g₀.activeDb) {g g' : G} (hi : StartInv g₀ g)
    (h : (startWalk hooks).visitAll n l g = some g') :
    l.foldlM (startIfDown start) g = some g' := by
  refine foldlM_of_step (I := StartInv g₀) (fun t ht g g₁ hi h₁ => ?_) hi h
  obtain ⟨xs, hw⟩ := Walk.visit_walked n hi h₁
  refine ⟨?_, hw.inv hi⟩
  unfold startIfDown
  split
  next hdown => exact hcall t (hl t ht) g g₁ hi hdown h₁
  next hdown =>
    cases n with
    | zero => simp [Walk.visit] at h₁
    | succ n => rwa [visit_of_not_down hooks hdown] at h₁

lemma visitAll_of_foldlM
    (hcall : ∀ t ∈ g₀.activeDb, ∀ g r, StartInv g₀ g → getState g t = .isDown →
      start t g = some r → (startWalk hooks).visit (n + 1) t g = some r.2)
    {l : List Sid} (hl : ∀ t ∈ l, t ∈ g₀.activeDb) {g g' : G} (hi : StartInv g₀ g)
    (h : l.foldlM (startIfDown start) g = some g') :
    (startWalk hooks).visitAll (n + 1) l g = some g' := by
  refine foldlM_of_step (I := StartInv g₀) (fun t ht g g₁ hi h₁ => ?_) hi h
  have hstep : (startWalk hooks).visit (n + 1) t g = some g₁ := by
    unfold startIfDown at h₁
    split at h₁
    next hdown =>
      obtain ⟨r, hr, rfl⟩ := map_eq_some_iff.mp h₁
      exact hcall t (hl t ht) g r hi hdown hr
    next hdown => rw [visit_of_not_down hooks hdown, h₁]
  obtain ⟨xs, hw⟩ := Walk.visit_walked (n + 1) hi hstep
  exact ⟨hstep, hw.inv hi⟩

structure CallsFollow (n : ℕ) : Prop where
  call : ∀ t ∈ g₀.activeDb, ∀ g g', StartInv g₀ g → getState g t = .isDown →
    (startWalk hooks).visit n t g = some g' →
    (handlerStartService m n t g).map (fun r => r.2) = some g'
  visit : ∀ t ∈ g₀.activeDb, ∀ g r, StartInv g₀ g → getState g t = .isDown →
    handlerStartService m n t g = some r → (startWalk hooks).visit (n + 1) t g = some r.2

lemma CallsFollow.deps (hreg : StartDepsRegistered g₀) {hooks : StartHooks m g₀}
    (hf : CallsFollow hooks n) (hs : s ∈ g₀.activeDb) (hi : StartInv g₀ g) :
    (∀ g', (startWalk hooks).visitAll n ((startWalk hooks).succ s) g = some g' →
      dependStartDeps (handlerStartService m n) m s (g.svc s).data g = some (true, g')) ∧
    ∀ r, dependStartDeps (handlerStartService m n) m s (g.svc s).data g = some r →
      r.1 = true ∧ (startWalk hooks).visitAll (n + 1) ((startWalk hooks).succ s) g = some r.2 := by
  have hinv : ∀ t ∈ g₀.activeDb, ∀ g r, StartInv g₀ g → getState g t = .isDown →
      handlerStartService m n t g = some r → StartInv g₀ r.2 := by
    intro t ht g r hi hdown hcall
    obtain ⟨xs, hw⟩ := Walk.visit_walked (n + 1) hi (hf.visit t ht g r hi hdown hcall)
    exact hw.inv hi
  have hl : ∀ t ∈ (startWalk hooks).succ s, t ∈ g₀.activeDb := fun t ht => startDepsOf_mem ht
  rw [hi.data, dependStartDeps_eq hinv (hreg s hs) hi]
  constructor
  · intro g' h
    have hloop := foldlM_of_visitAll hooks hf.call hl hi h
    simp only [startWalk] at hloop
    rw [hloop]
    rfl
  · intro r h
    obtain ⟨g', hloop, rfl⟩ := map_eq_some_iff.mp h
    exact ⟨rfl, visitAll_of_foldlM hooks hf.visit hl hi hloop⟩

lemma callsFollow (hreg : StartDepsRegistered g₀) (n : ℕ) : CallsFollow hooks n := by
  induction n with
  | zero =>
    constructor
    · intro t _ g g' _ _ h
      simp [Walk.visit] at h
    · intro t _ g r _ _ h
      simp [handlerStartService] at h
  | succ n ih =>
    have htype : ∀ t ∈ g₀.activeDb, ∀ g, StartInv g₀ g → (g.svc t).type.isSome := by
      intro t ht g hi
      rw [hi.type]
      exact hooks.type_isSome ht
    constructor
    · intro t ht g g' hi hdown h
      by_cases hc : canStart g t = true
      · have hen : (startWalk hooks).enterable g t = true :=
          startable_iff.mpr ⟨ht, hdown, hi.canStart t ▸ hc⟩
        obtain ⟨g₁, h₁, rfl⟩ := (Walk.visit_succ_eq_some hen).mp h
        rw [handlerStartService_enter (htype t ht g hi) hc (by simp [atRest, hdown]),
          (CallsFollow.deps hreg ih ht hi).1 g₁ h₁]
        rfl
      · have hclosed : (startWalk hooks).enterable g t = false := by
          rw [hi.canStart] at hc
          simp [startWalk, startable, hc]
        rw [Walk.visit_closed hclosed] at h
        obtain ⟨b, hb⟩ := handlerStartService_turned (m := m) n (fun hh => hc hh.1)
        rw [hb, ← h]
        rfl
    · intro t ht g r hi hdown h
      by_cases hc : canStart g t = true
      · have hen : (startWalk hooks).enterable g t = true :=
          startable_iff.mpr ⟨ht, hdown, hi.canStart t ▸ hc⟩
        rw [handlerStartService_enter (htype t ht g hi) hc (by simp [atRest, hdown])] at h
        obtain ⟨r₁, h₁, rfl⟩ := map_eq_some_iff.mp h
        obtain ⟨htrue, hvisit⟩ := (CallsFollow.deps hreg ih ht hi).2 r₁ h₁
        refine (Walk.visit_succ_eq_some hen).mpr ⟨r₁.2, hvisit, ?_⟩
        simp [htrue, startWalk]
      · have hclosed : (startWalk hooks).enterable g t = false := by
          rw [hi.canStart] at hc
          simp [startWalk, startable, hc]
        obtain ⟨b, hb⟩ := handlerStartService_turned (m := m) n (fun hh => hc hh.1)
        rw [Walk.visit_closed hclosed]
        rw [hb] at h
        cases h
        rfl

end

lemma handlerStartService_returns_iff_acc {g : G} (hooks : StartHooks m g)
    (hreg : StartDepsRegistered g) (hs : s ∈ g.activeDb) (hc : canStart g s = true)
    (hr : atRest g s = true) :
    (∃ fuel r, handlerStartService m fuel s g = some r) ↔ Acc (fun t s => StartEdge g s t) s := by
  have hi : StartInv g g := StartInv.refl g
  have hedge : (startWalk hooks).Edge g = StartEdge g := by
    funext x y
    apply propext
    constructor
    · rintro ⟨hy, he⟩
      obtain ⟨-, hdown, hcan⟩ := startable_iff.mp he
      exact ⟨hy, hdown, by simp [canStart] at hcan; exact hcan.2⟩
    · rintro ⟨hy, hdown, hflag⟩
      refine ⟨hy, startable_iff.mpr ⟨startDepsOf_mem hy, hdown, ?_⟩⟩
      simp only [canStart, decide_eq_true_eq] at hc ⊢
      exact ⟨hc.1, hflag⟩
  rw [← hedge]
  refine Iff.trans ?_ (Walk.visitAll_succ_returns_iff (w := startWalk hooks) hi)
  constructor
  · rintro ⟨fuel, r, h⟩
    cases fuel with
    | zero => simp [handlerStartService] at h
    | succ n =>
      rw [handlerStartService_enter (hooks.type_isSome hs) hc hr] at h
      obtain ⟨r₁, h₁, -⟩ := map_eq_some_iff.mp h
      exact ⟨n + 1, r₁.2, ((callsFollow hooks hreg n).deps hreg hs hi).2 r₁ h₁ |>.2⟩
  · rintro ⟨n, g', h⟩
    refine ⟨n + 1, runStart m s g', ?_⟩
    rw [handlerStartService_enter (hooks.type_isSome hs) hc hr,
      ((callsFollow hooks hreg n).deps hreg hs hi).1 g' h]
    rfl

/-- A call of `initng_handler_start_service` returns exactly if it turns the service away,
or no cycle of services that are down and not restarting is in reach. -/
theorem handlerStartService_returns_iff (m : Modules) (g : G) (hooks : StartHooks m g)
    (hreg : StartDepsRegistered g) (s : Sid) (hs : s ∈ g.activeDb) :
    (∃ fuel r, handlerStartService m fuel s g = some r) ↔
      (canStart g s = true → atRest g s = true →
        ¬ ∃ t, ReflTransGen (StartEdge g) s t ∧ TransGen (StartEdge g) t t) := by
  have hcycle := acc_iff_no_cycle (r := StartEdge g) g.activeDb (fun e => startDepsOf_mem e.1) s
  by_cases h : canStart g s = true ∧ atRest g s = true
  · rw [handlerStartService_returns_iff_acc hooks hreg hs h.1 h.2, hcycle]
    simp [h]
  · obtain ⟨result, hresult⟩ := handlerStartService_turned (m := m) 0 h
    constructor
    · exact fun _ hc hr => absurd ⟨hc, hr⟩ h
    · exact fun _ => ⟨1, _, hresult⟩

lemma typeModules_startHooks {g : G}
    (h : ∀ s ∈ g.activeDb, (g.svc s).stateLock = 0 ∧ ∃ type, (g.svc s).type = some type ∧
      type.name ∈ typeNames) :
    StartHooks typeModules g := by
  intro s hs
  obtain ⟨hlock, type, htype, hname⟩ := h s hs
  obtain ⟨waiting, back, marked, hstart, hwait, hmark⟩ := typeModules_start hname
  refine ⟨turnHook waiting back marked, by simp [htype, hstart],
    fun g' => turnHook_ownChange, fun g' hrec hdown => ?_⟩
  have hne : (g'.svc s).currentState ≠ waiting := by
    intro heq
    rw [getState, ← hrec, heq, hwait] at hdown
    cases hdown
  rw [getState, turnHook_currentState (hrec ▸ hlock) hne, hmark]

theorem handlerStartService_returns_iff_chain :
    let g := pairDb .daemonStopped ["b"] []
    StartHooks typeModules g ∧ StartDepsRegistered g ∧ 0 ∈ g.activeDb ∧
      ((∃ fuel r, handlerStartService typeModules fuel 0 g = some r) ↔
        (canStart g 0 = true → atRest g 0 = true →
          ¬ ∃ t, ReflTransGen (StartEdge g) 0 t ∧ TransGen (StartEdge g) t t)) := by
  have hreg : StartDepsRegistered (pairDb .daemonStopped ["b"] []) := by
    unfold StartDepsRegistered
    decide
  exact ⟨typeModules_startHooks (pairDb_daemons _ _ _), hreg, by decide,
    handlerStartService_returns_iff _ _ (typeModules_startHooks (pairDb_daemons _ _ _)) hreg 0 (by decide)⟩

/-- Two stopped daemons that need each other: each call starts the other one first. -/
theorem handlerStartService_diverges_cycle :
    let g := pairDb .daemonStopped ["b"] ["a"]
    StartHooks typeModules g ∧ StartDepsRegistered g ∧ 0 ∈ g.activeDb ∧
      ¬ ∃ fuel r, handlerStartService typeModules fuel 0 g = some r := by
  have hreg : StartDepsRegistered (pairDb .daemonStopped ["b"] ["a"]) := by
    unfold StartDepsRegistered
    decide
  refine ⟨typeModules_startHooks (pairDb_daemons _ _ _), hreg, by decide, ?_⟩
  rw [handlerStartService_returns_iff_acc (typeModules_startHooks (pairDb_daemons _ _ _)) hreg (by decide) (by decide)
    (by decide)]
  intro hacc
  have hcycle : TransGen (StartEdge (pairDb .daemonStopped ["b"] ["a"])) 0 0 :=
    .tail (b := 1) (.single (by unfold StartEdge; decide)) (by unfold StartEdge; decide)
  exact acc_no_cycle hacc hcycle

end Initng
