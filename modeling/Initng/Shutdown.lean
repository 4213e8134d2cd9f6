import Initng.Interrupt
import Initng.QuietHooks

/-! `handler/stop_all.c`. -/

namespace Initng

open StepRun List

namespace World

def start (now : Timeval) : World where
  g := configGlobalNew now
  processes := ⟨[], fun _ => [], fun _ => processDbNew ⟨"", false⟩, 0, []⟩
  ints := fun _ _ => 0
  now := now.tvSec
  nextAlarm := 0
  started := []

def serve (r : Option G) (w : World) : World := r.elim w fun g => { w with g := g }

def killedByPid (env : Env) (kpid rCode : Int) (w : World) : World :=
  if kpid ≤ 1 then w
  else
    match { w.processes with services := w.g.activeDb }.findByPid kpid with
    | none => w
    | some service =>
      match w.processes.getByPid kpid service with
      | none => w
      | some process =>
        let w := { w with processes := w.processes.modify process (ProcessH.died rCode) }
        if env.handleKilled then w
        else killHandler env (w.processes.process process).pt service process w

/-- `initng_active_db_free`; memory that was given back holds no service. -/
def free (s : Sid) (w : World) : World :=
  let g := activeDbFree s w.g
  { w with
    g := g.modify s fun _ => .ofName "" g.clock
    processes := { w.processes with processes := Function.update w.processes.processes s [] } }

def restore (name : String) (type : Option Stype) (state : AState) (data : List SData)
    (w : World) : World :=
  let r := activeDbNew name w.g
  let g := r.2.modify r.1 fun a => { a with type := type, currentState := state, data := data }
  { w with g := { g with activeDb := g.activeDb ++ [r.1] } }

/-- The process has ended, and its handler has not run. -/
abbrev dead (p : Prid) (rCode : Int) (w : World) : World :=
  { w with processes := w.processes.modify p (ProcessH.died rCode) }

/-- The alarm has gone off, and its handler has not run. -/
abbrev alarmOff (s : Sid) (w : World) : World :=
  { w with g := w.g.modify s fun a => { a with alarm := 0 } }

end World

inductive RunStep
  | init (env : Env) (fuel : ℕ) (s : Sid)
  | interrupt (fuel : ℕ) (s : Sid)
  | alarm (env : Env) (fuel : ℕ) (s : Sid)
  | killed (env : Env) (kpid rCode : Int)
  | start (fuel : ℕ) (s : Sid)
  | startNew (fuel : ℕ) (name : String)
  | stop (s : Sid)
  | restart (fuel : ℕ) (s : Sid)
  | restartRestarting (fuel : ℕ)
  | lock (s : Sid)
  | unlock (s : Sid)
  | checkSysStateUp
  | stopAll
  | setSysState (state : HSysState)
  | mark (s : Sid) (state : AState)
  | new (name : String)
  | setup (s : Sid) (type : Option Stype) (state : AState) (data : List SData)
  | register (s : Sid)
  | free (s : Sid)
  | clearFreed (s : Sid)
  | setData (s : Sid) (data : List SData)
  | setInt (type : SEntry) (s : Sid) (value : Int)
  | restore (name : String) (type : Option Stype) (state : AState) (data : List SData)
  | tick (now : Timeval)

/-- A step that the code never makes in this state does nothing. -/
def RunStep.apply (m : Modules) : RunStep → World → World
  | init env fuel s, w => (stateInit m fuel env (w.g.svc s).currentState s w).getD w
  | interrupt fuel s, w =>
    if s ∈ w.g.activeDb then (stateInterrupt m fuel (w.g.svc s).currentState s w).getD w else w
  | alarm env fuel s, w =>
    if s ∈ w.g.activeDb ∧ (w.g.svc s).alarm ≠ 0 ∧ w.now ≥ (w.g.svc s).alarm then
      let w := { w with g := w.g.modify s fun a => { a with alarm := 0 } }
      (stateAlarm m fuel env (w.g.svc s).currentState s w).getD w
    else w
  | killed env kpid rCode, w => w.killedByPid env kpid rCode
  | start fuel s, w => w.serve ((handlerStartService m fuel s w.g).map Prod.snd)
  | startNew fuel name, w =>
    w.serve ((handlerStartNewServiceNamed (handlerStartService m fuel) m name w.g).map Prod.snd)
  | stop s, w => { w with g := (handlerStopService m s w.g).2 }
  | restart fuel s, w => w.serve ((handlerRestartService m fuel s w.g).map Prod.snd)
  | restartRestarting fuel, w => w.serve (handlerRestartRestarting m fuel w.g)
  | lock s, w => { w with g := commonStateLock s w.g }
  | unlock s, w => { w with g := (commonStateUnlock s w.g).2 }
  | checkSysStateUp, w => { w with g := Initng.checkSysStateUp w.g }
  | stopAll, w => { w with g := handlerStopAll m w.g }
  | setSysState state, w =>
    -- the system is starting or up in front of the main loop for the first time
    if state ≠ .stateNull ∧
        (w.g.sysState = .stateNull ∨ state ≠ .stateStarting ∧ state ≠ .stateUp) then
      { w with g := { w.g with sysState := state } }
    else w
  | mark s state, w =>
    -- the states on the way are marked by the hooks of their own module only
    if state.onTheWay then w else w.mark s state
  | new name, w => { w with g := (activeDbNew name w.g).2 }
  | setup s type state data, w =>
    -- a service gets its type before it can be started, and a state before it is registered
    if s < w.g.brk ∧ ¬ (w.g.svc s).OnTheWay ∧ state.onTheWay = false ∧
        (s ∈ w.g.activeDb → state = (w.g.svc s).currentState) then
      { w with g := w.g.modify s fun a =>
          { a with type := type, currentState := state, data := data } }
    else w
  | register s, w => { w with g := (activeDbRegister s w.g).2 }
  | free s, w => if s < w.g.brk then w.free s else w
  | clearFreed s, w => { w with processes := w.processes.clearFreed s }
  | setData s data, w => { w with g := w.g.modify s fun a => { a with data := data } }
  | setInt type s value, w => w.setInt type s value
  | restore name type state data, w =>
    -- the services are read back before the system is up, with the type they were saved with
    if w.g.sysState = .stateNull ∧ activeDbFindByName w.g name = none ∧
        (state.onTheWay = true → type = some ⟨"service"⟩ ∨ type = some ⟨"daemon"⟩) then
      w.restore name type state data
    else w
  | tick now, w => { w with g := { w.g with clock := now }, now := now.tvSec }

def RunStep.special : RunStep → Bool
  | init .. | interrupt .. | checkSysStateUp | stopAll | setSysState .. | setup .. => true
  | free .. | restore .. => true
  | _ => false

section
variable (m : CoreModules) {w : World} {s : Sid}

lemma quiet_getD {r : Option World} (h : ∀ w' ∈ r, Quiet w w') : Quiet w (r.getD w) := by
  cases r with
  | none => exact .refl w
  | some w' => exact h w' rfl

lemma quiet_serve {r : Option G} (h : ∀ g' ∈ r, KeepsOut w.g g') : Quiet w (w.serve r) := by
  cases r with
  | none => exact .refl w
  | some g' => exact .services (h g' rfl)

lemma quiet_serve_map {β : Type} {r : Option (β × G)} (h : ∀ x, r = some x → KeepsOut w.g x.2) :
    Quiet w (w.serve (r.map Prod.snd)) := by
  refine quiet_serve fun g' hg' => ?_
  obtain ⟨x, hx, rfl⟩ := Option.map_eq_some_iff.mp hg'
  exact h x hx

include m in
lemma quiet_killedByPid (env : Env) (kpid rCode : Int) :
    Quiet w (w.killedByPid env kpid rCode) := by
  unfold World.killedByPid
  split
  · exact .refl w
  split
  · exact .refl w
  split
  · exact .refl w
  next process hget =>
    have hp : process ∈ w.processes.processes _ := mem_of_find?_eq_some hget
    have hdied : Quiet w (w.dead process rCode) := .processes _
    dsimp only
    split
    · exact hdied
    · exact hdied.trans (quiet_killHandler m env hp)

lemma quiet_apply {step : RunStep} (h : step.special = false) :
    Quiet w (step.apply m.toModules w) := by
  cases step with
  | alarm env fuel s =>
    rw [RunStep.apply]
    split
    · have hreset : Quiet w (w.alarmOff s) := .services (.modify s fun _ => ⟨rfl, rfl, rfl, rfl⟩)
      refine hreset.trans (quiet_getD fun w' hw' => ?_)
      exact (hookedQuietly_stateAlarm m.hooksDo env w' hw').quiet m
    · exact .refl w
  | killed env kpid rCode => exact quiet_killedByPid m env kpid rCode
  | start fuel s =>
    exact quiet_serve_map fun _ hr => .of_asked m (asks_handlerStartService m.hooksDo fuel s w.g _ hr)
  | startNew fuel name =>
    exact quiet_serve_map fun _ hr => .of_asked m (asked_handlerStartNewServiceNamed m.hooksDo
      (asks_handlerStartService m.hooksDo fuel) hr)
  | stop s => exact .services (.of_asked m (asked_handlerStopService s w.g))
  | restart fuel s =>
    exact quiet_serve_map fun _ hr => .of_asked m (asks_handlerRestartService fuel s w.g _ hr)
  | restartRestarting fuel =>
    exact quiet_serve fun _ hr => .of_asked m (asked_handlerRestartRestarting m.hooksDo hr)
  | lock s => exact .services (.lock s)
  | unlock s => exact .services (.unlock s)
  | mark s state =>
    rw [RunStep.apply]
    split
    · exact .refl w
    next hst => exact .mark s (Bool.eq_false_iff.mpr hst)
  | new name => exact .services (.new name)
  | register s => exact .services (.register s)
  | clearFreed s => exact .processes _
  | setData s data => exact .services (.modify s fun _ => ⟨rfl, rfl, rfl, rfl⟩)
  | setInt type s value => exact .setInt type s value
  | tick now =>
    exact ⟨.of_views rfl rfl rfl (fun _ => rfl) (fun _ => rfl) (fun _ => rfl) fun _ => rfl, rfl⟩
  | _ => simp [RunStep.special] at h

/-- Before the shutdown: services on the way are of the two types, nothing is recorded for an
unlocked service, and whoever is past the test is registered. -/
structure Running (g : G) : Prop where
  typed : Typed g
  settled : ∀ s, Settled (g.svc s)
  registered : ∀ s, (g.svc s).PastTest → s ∈ g.activeDb

variable {g g' : G} {a : ActiveType} {state : AState} {t : Sid}

lemma Running.keepsOut (h : Running g) (hkeeps : KeepsOut g g') : Running g' where
  typed := hkeeps.typed h.typed
  settled := hkeeps.settled h.settled
  registered s hs := hkeeps.registered s (h.registered s (hkeeps.pastTest s hs))

lemma Running.of_sysState (h : Running g) (state : HSysState) :
    Running { g with sysState := state } :=
  ⟨⟨h.typed.onTheWay, h.typed.blank⟩, h.settled, h.registered⟩

lemma running_start (now : Timeval) : Running (World.start now).g where
  typed := ⟨fun _ hs => absurd hs (not_heads_ofName (by decide) _ _), fun _ _ => rfl⟩
  settled _ _ := rfl
  registered _ hs := absurd hs (not_heads_ofName (by decide) _ _)

lemma Running.mark (h : Running g) (hs : s ∈ g.activeDb) (hknown : (g.svc s).Known)
    (st : AState) : Running (commonMarkService s st g).2 where
  typed := by
    refine h.typed.of_types (commonMarkService_brk ..) (OwnChange.mark st).svc_type fun t ht => ?_
    rcases heads_mark ht with ht | ⟨rfl, -⟩
    · exact .inl ht
    · exact .inr hknown
  settled t := mark_settled g t s st (h.settled t)
  registered t ht := by
    rw [commonMarkService_activeDb]
    rcases heads_mark ht with ht | ⟨rfl, -⟩
    · exact h.registered t ht
    · exact hs

lemma Running.passesTest {w w' : World} (h : Running w.g) (hs : s ∈ w.g.activeDb)
    (hpass : PassesTest s w w') : Running w'.g := by
  obtain ⟨w₁, met, hquiet, rfl⟩ := hpass.marked
  have hknown : (w.g.svc s).Known := h.typed.onTheWay s (.inl hpass.onTheWay)
  exact (h.keepsOut hquiet.keeps).mark (hquiet.keeps.registered s hs)
    (hquiet.keeps.known h.typed s hknown) met

lemma Running.write (h : Running g) (s : Sid) (hother : ∀ t, t ≠ s → g'.svc t = g.svc t)
    (hbrk : g.brk ≤ g'.brk) (hs : s < g'.brk) (hdb : ∀ t ∈ g.activeDb, t ≠ s → t ∈ g'.activeDb)
    (hknown : (g'.svc s).OnTheWay → (g'.svc s).Known) (hsettled : Settled (g'.svc s))
    (hmem : (g'.svc s).PastTest → s ∈ g'.activeDb) : Running g' where
  typed := by
    refine ⟨fun t ht => ?_, fun t ht => ?_⟩
    · by_cases hts : t = s
      · rw [hts] at ht ⊢
        exact hknown ht
      · rw [hother t hts] at ht ⊢
        exact h.typed.onTheWay t ht
    · rw [hother t (Nat.ne_of_gt (Nat.lt_of_lt_of_le hs ht))]
      exact h.typed.blank t (Nat.le_trans hbrk ht)
  settled t := by
    by_cases hts : t = s
    · exact hts ▸ hsettled
    · rw [hother t hts]
      exact h.settled t
  registered t ht := by
    by_cases hts : t = s
    · rw [hts] at ht ⊢
      exact hmem ht
    · rw [hother t hts] at ht
      exact hdb t (h.registered t ht) hts

lemma not_onTheWay_setup (h : ¬ a.OnTheWay) (type : Option Stype)
    (hstate : state.onTheWay = false) (data : List SData) :
    ¬ { a with type := type, currentState := state, data := data }.OnTheWay := by
  rintro (hcur | hnext)
  · simp [hstate] at hcur
  · exact h (.inr hnext)

lemma not_heads_free {kind : AState → Bool} (hnew : kind .new = false) (s : Sid) :
    ¬ ((w.free s).g.svc s).Heads kind := by
  simpa [World.free] using not_heads_ofName hnew _ _

lemma free_svc_ne (hts : t ≠ s) : (w.free s).g.svc t = w.g.svc t := by
  simp [World.free, activeDbFree, hts, commonMarkService_svc_ne]

lemma Running.free (h : Running w.g) (hs : s < w.g.brk) : Running (w.free s).g := by
  have hbrk : (w.free s).g.brk = w.g.brk := by
    simp [World.free, activeDbFree, commonMarkService_brk]
  refine h.write s (fun t => free_svc_ne) (Nat.le_of_eq hbrk.symm) (hbrk ▸ hs) (fun t ht hts => ?_)
    (fun hway => absurd hway (not_heads_free (by decide) s)) ?_
    fun hpast => absurd hpast (not_heads_free (by decide) s)
  · simpa [World.free, activeDbFree, hts, commonMarkService_activeDb] using ht
  · simp [World.free, ActiveType.ofName, Settled]

lemma Running.restore (h : Running w.g) {type : Option Stype}
    (htype : state.onTheWay = true → type = some ⟨"service"⟩ ∨ type = some ⟨"daemon"⟩)
    (name : String) (data : List SData) : Running (w.restore name type state data).g := by
  have hself : (w.restore name type state data).g.svc w.g.brk =
      { ActiveType.ofName name w.g.clock with
        type := type, currentState := state, data := data } := by
    simp [World.restore, activeDbNew]
  refine h.write w.g.brk (fun t hts => ?_) (Nat.le_succ _) (Nat.lt_succ_self _) (fun t ht _ => ?_)
    (fun hway => ?_) ?_ fun _ => ?_
  · simp [World.restore, activeDbNew, hts]
  · exact mem_append_left _ ht
  · rw [hself] at hway ⊢
    rcases hway with hcur | ⟨st, hst, -⟩
    · exact htype hcur
    · cases hst
  · rw [hself]
    exact fun _ => rfl
  · exact mem_append_right _ (mem_singleton.mpr rfl)

lemma Running.setup (h : Running w.g) (hs : s < w.g.brk) (hway : ¬ (w.g.svc s).OnTheWay)
    (type : Option Stype) (hstate : state.onTheWay = false) (data : List SData) :
    Running (w.g.modify s fun a =>
      { a with type := type, currentState := state, data := data }) := by
  have hout := not_onTheWay_setup hway type hstate data
  refine h.write s (fun t hts => by simp [hts]) (Nat.le_refl _) hs (fun t ht _ => ht)
    (fun hon => ?_) ?_ fun hpast => ?_
  · rw [G.modify_svc_self] at hon
    exact absurd hon hout
  · rw [G.modify_svc_self]
    exact h.settled s
  · rw [G.modify_svc_self] at hpast
    exact absurd hpast.onTheWay hout

lemma running_apply (step : RunStep) (h : Running w.g) : Running (step.apply m.toModules w).g := by
  cases hspecial : step.special with
  | false => exact h.keepsOut (quiet_apply m hspecial).keeps
  | true =>
    cases step with
    | init env fuel s =>
      rw [RunStep.apply]
      cases hr : stateInit m.toModules fuel env (w.g.svc s).currentState s w with
      | none => exact h
      | some w' => exact h.keepsOut (stateInit_keeps m env rfl w' hr).1
    | interrupt fuel s =>
      rw [RunStep.apply]
      split
      next hs =>
        cases hr : stateInterrupt m.toModules fuel (w.g.svc s).currentState s w with
        | none => exact h
        | some w' =>
          rcases stateInterrupt_cases m rfl w' hr with hquiet | hpass
          · exact h.keepsOut hquiet.keeps
          · exact h.passesTest hs hpass
      · exact h
    | checkSysStateUp =>
      simp only [RunStep.apply, checkSysStateUp]
      split
      · exact h.of_sysState _
      · exact h
    | stopAll => exact (h.of_sysState .stateStopping).keepsOut (.of_asked m (asked_stopEach _ _))
    | setSysState state =>
      rw [RunStep.apply]
      split
      · exact h.of_sysState _
      · exact h
    | setup s type state data =>
      rw [RunStep.apply]
      split
      next hsetup =>
        obtain ⟨hs, hway, hstate, -⟩ := hsetup
        exact h.setup hs hway type hstate data
      · exact h
    | free s =>
      rw [RunStep.apply]
      split
      next hs => exact h.free hs
      · exact h
    | restore name type state data =>
      rw [RunStep.apply]
      split
      next hr => exact h.restore hr.2.2 name data
      · exact h
    | _ => simp [RunStep.special] at hspecial

/-- A stop request reaches the service: its type has a stop hook, and no lock keeps it in its
state. -/
structure ActiveType.Stoppable (a : ActiveType) : Prop where
  known : a.Known
  unlocked : a.stateLock = 0
  settled : a.nextState = none

lemma ActiveType.Stoppable.currentState (h : a.Stoppable) (hpast : a.PastTest) :
    a.currentState = .serviceStartDepsMet ∨ a.currentState = .daemonStartDepsMet := by
  rcases hpast with hcur | ⟨st, hst, -⟩
  · simpa [AState.isStartDepsMet] using hcur
  · simp [h.settled] at hst

lemma ActiveType.Stoppable.getState (h : (g.svc s).Stoppable)
    (hpast : (g.svc s).PastTest) : getState g s = .isStarting := by
  rcases h.currentState hpast with hcur | hcur <;> rw [Initng.getState, hcur] <;> rfl

lemma handlerStopService_not_pastTest (h : (g.svc s).Stoppable)
    (hpast : (g.svc s).PastTest) : ¬ ((handlerStopService m.toModules s g).2.svc s).PastTest := by
  have hout {waiting back marked : AState} (hwait : waiting.isStartDepsMet = false)
      (hmarked : marked.isStartDepsMet = false) :
      ¬ ((turnHook waiting back marked s (g.observe (.stop s))).2.svc s).PastTest := by
    have hne {st : AState} (hst : st.isStartDepsMet = false) : (g.svc s).currentState ≠ st := by
      rintro rfl
      rcases h.currentState hpast with hcur | hcur <;> simp [hcur, AState.isStartDepsMet] at hst
    rw [turnHook, if_neg (by exact hne hwait),
      commonMarkService_unlocked (g.observe (.stop s)) s marked h.unlocked (hne hmarked)]
    simp [ActiveType.PastTest, ActiveType.Heads, ActiveType.enter, hmarked]
  rcases h.known with htype | htype
  all_goals
    simp only [handlerStopService, htype, h.getState hpast, m.stop_eq]
    exact hout (by decide) (by decide)

lemma handlerStopService_svc_ne (hts : t ≠ s) :
    (handlerStopService m.toModules s g).2.svc t = g.svc t := by
  rcases handlerStopService_cases m.toModules s g with he | ⟨type, stop, -, hstop, -, he⟩
  · rw [he]
  · rw [m.stop_eq] at hstop
    obtain ⟨waiting, back, marked, rfl, -⟩ := typeModules_stop_turnHook hstop
    rw [he]
    exact turnHook_ownChange.other t hts

lemma stopEach_not_pastTest (l : List Sid) (g : G)
    (h : ∀ s, (g.svc s).PastTest → s ∈ l ∧ (g.svc s).Stoppable) (s : Sid) :
    ¬ ((stopEach m.toModules l g).svc s).PastTest := by
  induction l generalizing g with
  | nil =>
    intro hpast
    exact absurd (h s hpast).1 not_mem_nil
  | cons ser rest ih =>
    -- a service that is passed over is not past the test
    have hskip (hstate : getState g ser ≠ .isStarting) :
        ¬ ((stopEach m.toModules rest g).svc s).PastTest := by
      refine ih g fun t hpast => ?_
      obtain ⟨hmem, hstop⟩ := h t hpast
      have hts : t ≠ ser := by
        rintro rfl
        exact hstate (hstop.getState hpast)
      exact ⟨(mem_cons.mp hmem).resolve_left hts, hstop⟩
    have hcall : ¬ ((stopEach m.toModules rest
        (handlerStopService m.toModules ser g).2).svc s).PastTest := by
      refine ih _ fun t hpast => ?_
      have hkeeps : KeepsOut g _ := .of_asked m (asked_handlerStopService ser g)
      have hbefore := hkeeps.pastTest t hpast
      obtain ⟨hmem, hstop⟩ := h t hbefore
      have hts : t ≠ ser := by
        rintro rfl
        exact handlerStopService_not_pastTest m hstop hbefore hpast
      rw [handlerStopService_svc_ne m hts]
      exact ⟨(mem_cons.mp hmem).resolve_left hts, hstop⟩
    rw [stopEach]
    split
    next hstate => exact hskip (by simp [hstate])
    next hstate => exact hskip (by simp [hstate])
    next hstate => exact hskip (by simp [hstate])
    · exact hcall

structure Shut (g : G) : Prop where
  sysState : g.sysState ≠ .stateNull ∧ g.sysState ≠ .stateStarting ∧ g.sysState ≠ .stateUp
  out : ∀ s, ¬ (g.svc s).PastTest

lemma shut_handlerStopAll (h : Running g) (hlock : ∀ s ∈ g.activeDb, (g.svc s).stateLock = 0) :
    Shut (handlerStopAll m.toModules g) where
  sysState := by
    have hsys : (handlerStopAll m.toModules g).sysState = .stateStopping :=
      (KeepsOut.of_asked m (asked_stopEach _ _)).sysState
    simp [hsys]
  out := by
    refine stopEach_not_pastTest m _ _ fun s hpast => ?_
    have hmem : s ∈ g.activeDb := h.registered s hpast
    exact ⟨hmem, h.typed.onTheWay s hpast.onTheWay, hlock s hmem, h.settled s (hlock s hmem)⟩

lemma Shut.keepsOut (h : Shut g) (hkeeps : KeepsOut g g') : Shut g' where
  sysState := hkeeps.sysState ▸ h.sysState
  out s hs := h.out s (hkeeps.pastTest s hs)

lemma Shut.write (h : Shut g) (s : Sid) (hsys : g'.sysState = g.sysState)
    (hother : ∀ t, t ≠ s → g'.svc t = g.svc t) (hs : ¬ (g'.svc s).PastTest) : Shut g' where
  sysState := hsys ▸ h.sysState
  out t ht := by
    by_cases hts : t = s
    · exact hs (hts ▸ ht)
    · exact h.out t (hother t hts ▸ ht)

lemma shut_apply (step : RunStep) (h : Shut w.g) :
    Shut (step.apply m.toModules w).g ∧ (step.apply m.toModules w).started = w.started := by
  have hquiet {w' : World} (hq : Quiet w w') : Shut w'.g ∧ w'.started = w.started :=
    ⟨h.keepsOut hq.keeps, hq.started⟩
  have hsame : Shut w.g ∧ w.started = w.started := ⟨h, rfl⟩
  cases hspecial : step.special with
  | false => exact hquiet (quiet_apply m hspecial)
  | true =>
    cases step with
    | init env fuel s =>
      have hstate : (w.g.svc s).currentState.isStartDepsMet = false :=
        Bool.eq_false_iff.mpr fun hcur => h.out s (.inl hcur)
      rw [RunStep.apply]
      cases hr : stateInit m.toModules fuel env (w.g.svc s).currentState s w with
      | none => exact hsame
      | some w' =>
        obtain ⟨hkeeps, hstarted⟩ := stateInit_keeps m env rfl w' hr
        exact hquiet ⟨hkeeps, hstarted hstate⟩
    | interrupt fuel s =>
      rw [RunStep.apply]
      split
      · refine hquiet (quiet_getD fun w' hr => ?_)
        rcases stateInterrupt_cases m rfl w' hr with hq | hpass
        · exact hq
        · rcases hpass.sysState with hsys | hsys
          · exact absurd hsys h.sysState.2.1
          · exact absurd hsys h.sysState.2.2
      · exact hsame
    | checkSysStateUp =>
      rw [RunStep.apply, checkSysStateUp, if_neg fun hup => h.sysState.2.1 hup.1]
      exact hsame
    | stopAll =>
      have hstopping : Shut { w.g with sysState := .stateStopping } := ⟨by simp, h.out⟩
      exact ⟨hstopping.keepsOut (.of_asked m (asked_stopEach _ _)), rfl⟩
    | setSysState state =>
      rw [RunStep.apply]
      split
      next hset =>
        exact ⟨⟨⟨hset.1, hset.2.resolve_left h.sysState.1⟩, h.out⟩, rfl⟩
      · exact hsame
    | setup s type state data =>
      rw [RunStep.apply]
      split
      next hsetup =>
        refine ⟨h.write s rfl (fun t hts => by simp [hts]) fun hpast => ?_, rfl⟩
        rw [G.modify_svc_self] at hpast
        exact not_onTheWay_setup hsetup.2.1 type hsetup.2.2.1 data hpast.onTheWay
      · exact hsame
    | free s =>
      rw [RunStep.apply]
      split
      · have hsys : (w.free s).g.sysState = w.g.sysState := (OwnChange.mark .freeing).sysState
        exact ⟨h.write s hsys (fun t => free_svc_ne) (not_heads_free (by decide) s), rfl⟩
      · exact hsame
    | restore name type state data =>
      rw [RunStep.apply, if_neg fun hr => h.sysState.1 hr.1]
      exact hsame
    | _ => simp [RunStep.special] at hspecial

lemma shut_run (steps : List RunStep) (h : Shut w.g) :
    (run (RunStep.apply m.toModules) steps w).started = w.started := by
  have hstep (w' : World) (step : RunStep) (hw' : Shut w'.g ∧ w'.started = w.started) :
      Shut (step.apply m.toModules w').g ∧ (step.apply m.toModules w').started = w.started := by
    obtain ⟨hshut, hstarted⟩ := shut_apply m step hw'.1
    exact ⟨hshut, hstarted.trans hw'.2⟩
  exact (invariant (I := fun w' : World => Shut w'.g ∧ w'.started = w.started) hstep steps
    ⟨h, rfl⟩).2

/-- Shutdown starts nothing: whatever has happened before, if no service is locked when
`initng_handler_stop_all` is called, then neither this call nor anything behind it launches or
takes over a process in a `START_DEPS_MET` state. -/
theorem shutdown_starts_nothing (now : Timeval) (before after : List RunStep)
    (hunlocked : ∀ s ∈ (run (RunStep.apply m.toModules) before (.start now)).g.activeDb,
      ((run (RunStep.apply m.toModules) before (.start now)).g.svc s).stateLock = 0) :
    (run (RunStep.apply m.toModules) (before ++ .stopAll :: after) (.start now)).started =
      (run (RunStep.apply m.toModules) before (.start now)).started := by
  have hrunning : Running (run (RunStep.apply m.toModules) before (.start now)).g :=
    invariant (I := fun w : World => Running w.g) (fun _ step => running_apply m step) before
      (running_start now)
  rw [run_append, run_cons]
  generalize run (RunStep.apply m.toModules) before (.start now) = w at hunlocked hrunning
  exact shut_run m after (shut_handlerStopAll m hrunning hunlocked)

end

def coreModules : CoreModules where
  toModules := typeModules
  start_eq := rfl
  stop_eq := rfl
  restart_eq _ := rfl
  newActive_keeps _ h := by simp [typeModules] at h
  startDepMet_keeps _ h := by simp [typeModules] at h
  stopDepMet_keeps _ h := by simp [typeModules] at h

def forking (pid : Int) : Env where
  kill _ := .found
  pidOf _ := -1
  pidFromFile _ := -1
  launch := .handled [] pid
  upMet := .handled
  handleKilled := false

def twoDaemons : List RunStep :=
  [.new "syslogd", .setup 0 (some ⟨"daemon"⟩) .new [⟨.respawn, none, none⟩], .register 0,
    .new "crond", .setup 1 (some ⟨"daemon"⟩) .new [], .register 1,
    .setSysState .stateStarting,
    .start 3 0, .init (forking 100) 3 0, .interrupt 3 0, .init (forking 100) 3 0,
    .start 3 1, .init (forking 200) 3 1, .interrupt 3 1]

def startAgain : List RunStep :=
  [.init (forking 200) 3 1, .killed (forking 200) 100 0, .init (forking 200) 3 0,
    .interrupt 3 0, .start 3 0, .start 3 1, .init (forking 200) 3 0, .interrupt 3 1,
    .init (forking 200) 3 1]

theorem shutdown_starts_nothing_pending :
    ((run (RunStep.apply coreModules.toModules) twoDaemons (.start ⟨1, 0⟩)).g.svc 1).currentState =
        .daemonStartDepsMet ∧
      (run (RunStep.apply coreModules.toModules) twoDaemons (.start ⟨1, 0⟩)).started =
        [.launch 0 tDaemon] ∧
      (run (RunStep.apply coreModules.toModules) (twoDaemons ++ .stopAll :: startAgain)
        (.start ⟨1, 0⟩)).started = [.launch 0 tDaemon] := by
  refine ⟨?_, ?_, (shutdown_starts_nothing coreModules ⟨1, 0⟩ twoDaemons startAgain ?_).trans ?_⟩
  all_goals decide +kernel

end Initng
