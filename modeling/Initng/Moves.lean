import Initng.HookWork
import Initng.Interrupt
import Initng.RequestEffect
import Initng.StartDepsMet

namespace Initng

open StepRun

def AState.owner (st : AState) : Option Stype :=
  if st ∈ serviceScope.marks then some ⟨"service"⟩
  else if st ∈ daemonScope.marks then some ⟨"daemon"⟩
  else none

/-- A state that other modules may put a service of this type into: it is not one of the modules
`service` and `daemon`, and a service of these two types does not start or stop there. -/
def AState.foreignTo (type : Option Stype) (st : AState) : Bool :=
  st.owner = none ∧ (type = some ⟨"service"⟩ ∨ type = some ⟨"daemon"⟩ →
    st.is ≠ .isStarting ∧ st.is ≠ .isStopping)

/-- What other modules do to services: mark one, create one, set one up, register it, change its
data. -/
inductive ModuleAct
  | mark (s : Sid) (state : AState)
  | new (name : String)
  | setup (s : Sid) (type : Option Stype) (state : AState) (data : List SData)
  | register (s : Sid)
  | setData (s : Sid) (data : List SData)

instance (a : ActiveType) : Decidable a.Known :=
  inferInstanceAs (Decidable (a.type = some ⟨"service"⟩ ∨ a.type = some ⟨"daemon"⟩))

/-- A service is set up before its first start: it gets the type `service` or `daemon` once, and
another state only before it is registered. -/
@[mk_iff]
structure MaySetUp (g : G) (s : Sid) (type : Option Stype) (state : AState) : Prop where
  once : ¬ (g.svc s).Known ∨ (g.svc s).type = type
  current : (g.svc s).currentState.foreignTo type = true
  next : (g.svc s).nextState.all (AState.foreignTo type) = true
  given : state.foreignTo type = true
  early : state = (g.svc s).currentState ∨ s ∉ g.activeDb ∧ (g.svc s).stateLock = 0

instance (g : G) (s : Sid) (type : Option Stype) (state : AState) :
    Decidable (MaySetUp g s type state) := decidable_of_iff' _ (maySetUp_iff g s type state)

/-- An act that the code never makes in this state does nothing. -/
def ModuleAct.apply : ModuleAct → G → G
  | mark s state, g =>
    if state.foreignTo (g.svc s).type then (commonMarkService s state g).2 else g
  | new name, g => (activeDbNew name g).2
  | setup s type state data, g =>
    if MaySetUp g s type state then
      g.modify s fun a => { a with type := type, currentState := state, data := data }
    else g
  | register s, g => if s < g.brk then (activeDbRegister s g).2 else g
  | setData s data, g => g.modify s fun a => { a with data := data }

def Meddled (g g' : G) : Prop := ∃ acts, g' = run ModuleAct.apply acts g

lemma Meddled.refl (g : G) : Meddled g g := ⟨[], rfl⟩

/-- All service types, with hooks of other modules for the events that the core asks, and one for
`EVENT_IS_CHANGE`. -/
structure Loaded extends Modules where
  start_eq : toModules.start = allTypes.start
  stop_eq : toModules.stop = allTypes.stop
  restart_eq : toModules.restart = allTypes.restart
  hooksDo : HooksDo toModules Meddled
  isChange : Sid → G → G
  isChange_meddled : ∀ s g, Meddled g (isChange s g)

/-- The states between which the start and stop hooks of a type turn a service. -/
structure Turning where
  type : Stype
  waitingStart : AState
  waitingStop : AState
  startMarked : AState
  stopMarked : AState
  up : AState
  down : AState
  deriving DecidableEq

def serviceTurning : Turning where
  type := ⟨"service"⟩
  waitingStart := .serviceWaitingForStartDep
  waitingStop := .serviceWaitingForStopDep
  startMarked := .serviceStartMarked
  stopMarked := .serviceStopMarked
  up := .serviceDone
  down := .serviceStopped

def daemonTurning : Turning where
  type := ⟨"daemon"⟩
  waitingStart := .daemonWaitingForStartDep
  waitingStop := .daemonWaitingForStopDep
  startMarked := .daemonStartMarked
  stopMarked := .daemonStopMarked
  up := .daemonRunning
  down := .daemonStopped

def turnings : List Turning := [serviceTurning, daemonTurning]

inductive Turns (a : ActiveType) : AState → Prop
  | up {f : Turning} (hf : f ∈ turnings) (htype : a.type = some f.type)
    (hcur : a.currentState = f.waitingStop) : Turns a f.up
  | startMarked {f : Turning} (hf : f ∈ turnings) (htype : a.type = some f.type) :
    Turns a f.startMarked
  | down {f : Turning} (hf : f ∈ turnings) (htype : a.type = some f.type)
    (hcur : a.currentState = f.waitingStart) : Turns a f.down
  | stopMarked {f : Turning} (hf : f ∈ turnings) (htype : a.type = some f.type)
    (his : a.currentState.is = .isUp ∨ a.currentState.is = .isStarting) : Turns a f.stopMarked
  | foreign {st : AState} (h : st.foreignTo a.type = true) : Turns a st

structure Steady (s : Sid) (g g' : G) : Prop where
  brk : g.brk ≤ g'.brk
  registered : s ∈ g.activeDb → s ∈ g'.activeDb
  added : s ∈ g'.activeDb → s ∈ g.activeDb ∨ s < g'.brk
  interrupt : s ∈ g'.interrupt ↔ s ∈ g.interrupt
  type : (g'.svc s).type = (g.svc s).type
  currentState : (g'.svc s).currentState = (g.svc s).currentState
  nextState : (g'.svc s).nextState = (g.svc s).nextState
  stateLock : (g'.svc s).stateLock = (g.svc s).stateLock
  lastRoughtState : (g'.svc s).lastRoughtState = (g.svc s).lastRoughtState
  alarm : (g'.svc s).alarm = (g.svc s).alarm

inductive Moves (s : Sid) : G → G → Prop
  | trans {g g' g'' : G} : Moves s g g' → Moves s g' g'' → Moves s g g''
  | steady {g g' : G} (h : Steady s g g') : Moves s g g'
  | turn {g : G} {st : AState} (h : Turns (g.svc s) st) : Moves s g (commonMarkService s st g).2
  | setup {g : G} {type : Option Stype} {state : AState} (data : List SData)
    (h : MaySetUp g s type state) :
    Moves s g (g.modify s fun a => { a with type := type, currentState := state, data := data })
  | born {g : G} (name : String) (hs : s = g.brk) : Moves s g (activeDbNew name g).2

namespace Steady

variable {s t : Sid} {g g' : G}

lemma refl (s : Sid) (g : G) : Steady s g g :=
  ⟨le_rfl, id, .inl, Iff.rfl, rfl, rfl, rfl, rfl, rfl, rfl⟩

lemma of_svc (hbrk : g.brk ≤ g'.brk) (hdb : s ∈ g'.activeDb ↔ s ∈ g.activeDb)
    (hlist : s ∈ g'.interrupt ↔ s ∈ g.interrupt) (hsvc : g'.svc s = g.svc s) : Steady s g g' := by
  refine ⟨hbrk, hdb.mpr, fun hs => .inl (hdb.mp hs), hlist, ?_, ?_, ?_, ?_, ?_, ?_⟩
  all_goals rw [hsvc]

lemma modify_ne {f : ActiveType → ActiveType} (hts : s ≠ t) : Steady s g (g.modify t f) :=
  .of_svc le_rfl Iff.rfl Iff.rfl (G.modify_svc_ne _ _ _ _ hts)

lemma mark_ne (st : AState) (hts : s ≠ t) : Steady s g (commonMarkService t st g).2 :=
  .of_svc (Nat.le_of_eq (commonMarkService_brk ..).symm) (by rw [commonMarkService_activeDb])
    (mem_commonMarkService_interrupt _ _ _ hts) (commonMarkService_svc_ne _ _ hts)

lemma modify {f : ActiveType → ActiveType}
    (hf : ∀ a, (f a).type = a.type ∧ (f a).currentState = a.currentState ∧
      (f a).nextState = a.nextState ∧ (f a).stateLock = a.stateLock ∧
      (f a).lastRoughtState = a.lastRoughtState ∧ (f a).alarm = a.alarm) :
    Steady s g (g.modify t f) := by
  by_cases hts : s = t
  · subst hts
    obtain ⟨h₁, h₂, h₃, h₄, h₅, h₆⟩ := hf (g.svc s)
    refine ⟨le_rfl, id, .inl, Iff.rfl, ?_, ?_, ?_, ?_, ?_, ?_⟩ <;>
    · rw [G.modify_svc_self]
      assumption
  · exact .modify_ne hts

lemma observe (o : Obs) : Steady s g (g.observe o) := .of_svc le_rfl Iff.rfl Iff.rfl rfl

end Steady

namespace Moves

variable {s t : Sid} {g g' : G}

lemma refl (s : Sid) (g : G) : Moves s g g := .steady (.refl s g)

lemma mark {st : AState} (h : s = t → Turns (g.svc t) st) :
    Moves s g (commonMarkService t st g).2 := by
  by_cases hts : s = t
  · subst hts
    exact .turn (h rfl)
  · exact .steady (.mark_ne st hts)

lemma set (type : SEntry) : Moves s g (set type t g) := by
  unfold Initng.set
  split
  · exact .refl s g
  · exact .steady (.modify fun _ => ⟨rfl, rfl, rfl, rfl, rfl, rfl⟩)

lemma act (a : ModuleAct) : Moves s g (a.apply g) := by
  cases a with
  | mark t state =>
    rw [ModuleAct.apply]
    split
    next h => exact .mark fun _ => .foreign h
    · exact .refl s g
  | new name =>
    by_cases hs : s = g.brk
    · exact .born name hs
    · refine .steady (.of_svc (Nat.le_succ _) Iff.rfl Iff.rfl ?_)
      simp [ModuleAct.apply, activeDbNew, hs]
  | setup t type state data =>
    rw [ModuleAct.apply]
    split
    next h =>
      by_cases hts : s = t
      · subst hts
        exact .setup data h
      · exact .steady (.modify_ne hts)
    · exact .refl s g
  | register t =>
    rw [ModuleAct.apply]
    split
    next ht =>
      rcases activeDbRegister_cases t g with he | ⟨-, he⟩
      · rw [he]
        exact .refl s g
      · rw [he]
        refine .steady ⟨le_rfl, fun hs => List.mem_append_left _ hs, fun hs => ?_,
          Iff.rfl, rfl, rfl, rfl, rfl, rfl, rfl⟩
        rcases List.mem_append.mp hs with hs | hs
        · exact .inl hs
        · exact .inr (List.mem_singleton.mp hs ▸ ht)
    · exact .refl s g
  | setData t data =>
    exact .steady (.modify (f := fun a => { a with data := data })
      fun _ => ⟨rfl, rfl, rfl, rfl, rfl, rfl⟩)

lemma meddled (h : Meddled g g') : Moves s g g' := by
  obtain ⟨acts, rfl⟩ := h
  induction acts generalizing g with
  | nil => exact .refl s g
  | cons a acts ih => exact (Moves.act a).trans ih

end Moves

section
variable {s t : Sid} {g : G} {type : Stype} {hook : Sid → G → Bool × G}

lemma moves_turnHook {waiting back marked : AState}
    (hback : (g.svc t).currentState = waiting → Turns (g.svc t) back)
    (hmarked : Turns (g.svc t) marked) : Moves s g (turnHook waiting back marked t g).2 := by
  unfold turnHook
  split
  next hcur => exact .mark fun _ => hback hcur
  · exact .mark fun _ => hmarked

lemma turns_other (htype : (g.svc t).type = some type) (hservice : type ≠ ⟨"service"⟩)
    (hdaemon : type ≠ ⟨"daemon"⟩) {st : AState} (hst : st.owner = none) : Turns (g.svc t) st := by
  refine .foreign ?_
  simp [AState.foreignTo, hst, htype, hservice, hdaemon]

lemma moves_start (h : allTypes.start type = some hook) (htype : (g.svc t).type = some type) :
    Moves s g (hook t g).2 := by
  have hfamily (f : Turning) (hf : f ∈ turnings) (hft : type = f.type) :
      Moves s g (turnHook f.waitingStop f.up f.startMarked t g).2 :=
    moves_turnHook (.up hf (hft ▸ htype)) (.startMarked hf (hft ▸ htype))
  simp only [allTypes, typeModules] at h
  split_ifs at h with htask hprovided hdaemon hservice hrunlevel <;> cases h
  · have hrun : Turns (g.svc t) .taskRunMarked :=
      turns_other htype (by rw [htask]; decide) (by rw [htask]; decide) (by decide)
    unfold startTask
    split
    · exact .mark fun _ => hrun
    · exact .refl s g
  · exact .refl s g
  · exact hfamily daemonTurning (by decide) hdaemon
  · exact hfamily serviceTurning (by decide) hservice
  · exact moves_turnHook (fun _ => turns_other htype hservice hdaemon (by decide))
      (turns_other htype hservice hdaemon (by decide))

lemma moves_stop (h : allTypes.stop type = some hook) (htype : (g.svc t).type = some type)
    (hstate : getState g t = .isUp ∨ getState g t = .isStarting) : Moves s g (hook t g).2 := by
  have hfamily (f : Turning) (hf : f ∈ turnings) (hft : type = f.type) :
      Moves s g (turnHook f.waitingStart f.down f.stopMarked t g).2 :=
    moves_turnHook (.down hf (hft ▸ htype)) (.stopMarked hf (hft ▸ htype) hstate)
  simp only [allTypes, typeModules] at h
  split_ifs at h with hprovided hdaemon hservice hrunlevel <;> cases h
  · exact .refl s g
  · exact hfamily daemonTurning (by decide) hdaemon
  · exact hfamily serviceTurning (by decide) hservice
  · exact moves_turnHook (fun _ => turns_other htype hservice hdaemon (by decide))
      (turns_other htype hservice hdaemon (by decide))

end

variable {g g' : G} {t : Sid}

lemma Moves.asked (m : Loaded) (h : Asked m.toModules Meddled g g') (s : Sid) : Moves s g g' := by
  induction h with
  | refl g => exact .refl s g
  | trans _ _ ih ih' => exact ih.trans ih'
  | other h => exact .meddled h
  | start htype hhook =>
    rw [m.start_eq] at hhook
    exact (Moves.steady (.observe _)).trans (moves_start hhook htype)
  | stop htype hhook hstate =>
    rw [m.stop_eq] at hhook
    exact (Moves.steady (.observe _)).trans (moves_stop hhook htype hstate)
  | @restart g _ _ _ _ hhook =>
    rw [m.restart_eq] at hhook
    exact allTypes_restart hhook ▸ .refl s g
  | missing g t =>
    refine .mark fun _ => .foreign ?_
    have howner : AState.owner .reqNotFound = none := by decide
    have hfailed : AState.reqNotFound.is = .isFailed := rfl
    simp [AState.foreignTo, howner, hfailed]
  | cache g t count => exact .steady (.modify fun _ => ⟨rfl, rfl, rfl, rfl, rfl, rfl⟩)
  | flag g t => exact .set .restarting
  | unflag g t => exact .steady (.modify fun _ => ⟨rfl, rfl, rfl, rfl, rfl, rfl⟩)

lemma commonMarkService_of_locked {s : Sid} (st : AState) (hlock : (g.svc s).stateLock ≠ 0) :
    ∃ next, (commonMarkService s st g).2 = g.modify s fun a => { a with nextState := next } := by
  have hpos : 0 < (g.svc s).stateLock := Nat.pos_of_ne_zero hlock
  cases hnext : (g.svc s).nextState with
  | some next =>
    refine ⟨(g.svc s).nextState, ?_⟩
    rw [commonMarkService_refused g s st hpos (by simp [hnext])]
    exact (G.modify_eq_self rfl).symm
  | none =>
    by_cases hcur : (g.svc s).currentState = st
    · exact ⟨none, by rw [commonMarkService_same g s st (.inr hnext) hcur]⟩
    · exact ⟨some st, by rw [commonMarkService_locked g s st hpos hnext hcur]⟩

lemma listed_or_left (g : G) (s : Sid) (st : AState) :
    s ∈ (commonMarkService s st g).2.interrupt ∨
      ((commonMarkService s st g).2.svc s).type = (g.svc s).type ∧
      ((commonMarkService s st g).2.svc s).currentState = (g.svc s).currentState ∧
      ((commonMarkService s st g).2.svc s).alarm = (g.svc s).alarm := by
  rcases commonMarkService_records_or_enters g s st with ⟨next, -, he⟩ | ⟨-, he⟩
  · simp [he]
  · simp [he, mem_setInterrupt]

structure OwnLeft (t : Sid) (g g' : G) : Prop where
  brk : g.brk ≤ g'.brk
  registered : t ∈ g.activeDb → t ∈ g'.activeDb
  added : t ∈ g'.activeDb → t ∈ g.activeDb ∨ t < g'.brk
  interrupt : t ∈ g.interrupt → t ∈ g'.interrupt
  settled : Settled (g.svc t) → Settled (g'.svc t)
  stateLock : t < g.brk → (g'.svc t).stateLock = (g.svc t).stateLock
  known : t < g.brk → (g.svc t).Known → (g'.svc t).type = (g.svc t).type

lemma OwnLeft.trans {g'' : G} (h : OwnLeft t g g') (h' : OwnLeft t g' g'') : OwnLeft t g g'' where
  brk := le_trans h.brk h'.brk
  registered hs := h'.registered (h.registered hs)
  added hs := by
    rcases h'.added hs with hs | hs
    · exact (h.added hs).imp id fun hlt => lt_of_lt_of_le hlt h'.brk
    · exact .inr hs
  interrupt hs := h'.interrupt (h.interrupt hs)
  settled hs := h'.settled (h.settled hs)
  stateLock hs := (h'.stateLock (lt_of_lt_of_le hs h.brk)).trans (h.stateLock hs)
  known hs hk := by
    have htype := h.known hs hk
    refine (h'.known (lt_of_lt_of_le hs h.brk) ?_).trans htype
    rwa [ActiveType.Known, htype]

lemma OwnLeft.mark (g : G) (st : AState) : OwnLeft t g (commonMarkService t st g).2 where
  brk := Nat.le_of_eq (commonMarkService_brk ..).symm
  registered hs := by rwa [commonMarkService_activeDb]
  added hs := .inl (by rwa [commonMarkService_activeDb] at hs)
  interrupt hs := commonMarkService_interrupt_mono _ _ _ hs
  settled hs := mark_settled g t t st hs
  stateLock _ := commonMarkService_stateLock g t t st
  known _ _ := (OwnChange.mark st).svc_type t

namespace Moves

variable {s : Sid} {g g' : G}

section
variable (h : Moves s g g')
include h

lemma ownLeft : OwnLeft s g g' := by
  induction h with
  | trans _ _ ih ih' => exact ih.trans ih'
  | steady h =>
    exact ⟨h.brk, h.registered, h.added, h.interrupt.mpr,
      fun hs h0 => h.nextState.trans (hs (h.stateLock ▸ h0)), fun _ => h.stateLock,
      fun _ _ => h.type⟩
  | @turn g st h => exact .mark g st
  | setup data h =>
    refine ⟨le_rfl, id, .inl, id, ?_, fun _ => ?_, fun _ hk => ?_⟩ <;> rw [G.modify_svc_self]
    · exact id
    · exact (h.once.resolve_left (not_not_intro hk)).symm
  | @born g name hs =>
    have hnot {p : Prop} (hlt : s < g.brk) : p := absurd hlt (hs ▸ lt_irrefl _)
    refine ⟨Nat.le_succ _, id, .inl, id, fun _ => ?_, hnot, hnot⟩
    simp [hs, activeDbNew, ActiveType.ofName, Settled]

lemma brk : g.brk ≤ g'.brk := h.ownLeft.brk

lemma registered : s ∈ g.activeDb → s ∈ g'.activeDb := h.ownLeft.registered

lemma interrupt : s ∈ g.interrupt → s ∈ g'.interrupt := h.ownLeft.interrupt

lemma known (hs : s < g.brk) (hknown : (g.svc s).Known) :
    (g'.svc s).type = (g.svc s).type := h.ownLeft.known hs hknown

lemma stateLock (hs : s < g.brk ∨ (g.svc s).stateLock = 0) :
    (g'.svc s).stateLock = (g.svc s).stateLock := by
  induction h with
  | trans h _ ih ih' =>
    refine (ih' ?_).trans (ih hs)
    rcases hs with hlt | h0
    · exact .inl (lt_of_lt_of_le hlt h.brk)
    · exact .inr ((ih (.inr h0)).trans h0)
  | steady h => exact h.stateLock
  | turn h => exact commonMarkService_stateLock _ s s _
  | setup data h => rw [G.modify_svc_self]
  | born name hs' =>
    subst hs'
    have h0 := hs.resolve_left (lt_irrefl _)
    simpa [activeDbNew, ActiveType.ofName] using h0.symm

lemma locked (hs : s < g.brk) (hlock : (g.svc s).stateLock ≠ 0) :
    (g'.svc s).currentState = (g.svc s).currentState ∧
      (g'.svc s).lastRoughtState = (g.svc s).lastRoughtState ∧
      (s ∈ g'.interrupt → s ∈ g.interrupt) := by
  induction h with
  | trans h _ ih ih' =>
    obtain ⟨hcur, hlast, hlist⟩ := ih hs hlock
    obtain ⟨hcur', hlast', hlist'⟩ := ih' (lt_of_lt_of_le hs h.brk)
      (by rwa [h.stateLock (.inl hs)])
    exact ⟨hcur'.trans hcur, hlast'.trans hlast, hlist ∘ hlist'⟩
  | steady h => exact ⟨h.currentState, h.lastRoughtState, h.interrupt.mp⟩
  | @turn g st h =>
    obtain ⟨next, he⟩ := commonMarkService_of_locked st hlock
    rw [he]
    exact ⟨by simp, by simp, id⟩
  | setup data h =>
    rw [G.modify_svc_self]
    rcases h.early with he | ⟨-, h0⟩
    · exact ⟨he, rfl, id⟩
    · exact absurd h0 hlock
  | born name hs' => exact absurd hs (hs' ▸ lt_irrefl _)

lemma recorded (hs : s < g.brk) (hlock : (g.svc s).stateLock ≠ 0)
    (hnext : (g.svc s).nextState ≠ none) : (g'.svc s).nextState ≠ none := by
  induction h with
  | trans h _ ih ih' =>
    refine ih' (lt_of_lt_of_le hs h.brk) ?_ (ih hs hlock hnext)
    rwa [h.stateLock (.inl hs)]
  | steady h => rwa [h.nextState]
  | @turn g st h =>
    rwa [commonMarkService_refused g s st (Nat.pos_of_ne_zero hlock)
      (Option.isSome_iff_ne_none.mpr hnext)]
  | setup data h => rwa [G.modify_svc_self]
  | born name hs' => exact absurd hs (hs' ▸ lt_irrefl _)

lemma entered :
    s ∈ g'.interrupt ∨ ((g'.svc s).type = (g.svc s).type ∧
      (g'.svc s).currentState = (g.svc s).currentState ∧ (g'.svc s).alarm = (g.svc s).alarm) ∨
      (g'.svc s).currentState.foreignTo (g'.svc s).type = true := by
  induction h with
  | trans _ h' ih ih' =>
    rcases ih' with hlist' | ⟨htype', hcur', halarm'⟩ | hforeign'
    · exact .inl hlist'
    · rcases ih with hlist | ⟨htype, hcur, halarm⟩ | hforeign
      · exact .inl (h'.interrupt hlist)
      · exact .inr (.inl ⟨htype'.trans htype, hcur'.trans hcur, halarm'.trans halarm⟩)
      · exact .inr (.inr (by rwa [htype', hcur']))
    · exact .inr (.inr hforeign')
  | steady h => exact .inr (.inl ⟨h.type, h.currentState, h.alarm⟩)
  | @turn g st h => exact (listed_or_left g s st).imp id .inl
  | setup data h =>
    refine .inr (.inr ?_)
    rw [G.modify_svc_self]
    exact h.given
  | born name hs =>
    subst hs
    refine .inr (.inr ?_)
    simp only [activeDbNew, G.modify_svc_self, ActiveType.ofName]
    decide

lemma listed (hs : s ∈ g.activeDb) (hlt : s < g.brk) :
    s ∈ g'.interrupt ∨ (g'.svc s).currentState = (g.svc s).currentState := by
  induction h with
  | trans h h' ih ih' =>
    rcases ih' (h.registered hs) (lt_of_lt_of_le hlt h.brk) with hlist' | hcur'
    · exact .inl hlist'
    · exact (ih hs hlt).imp h'.interrupt hcur'.trans
  | steady h => exact .inr h.currentState
  | @turn g st h => exact (listed_or_left g s st).imp id fun hleft => hleft.2.1
  | setup data h =>
    rw [G.modify_svc_self]
    exact .inr (h.early.resolve_right fun hearly => hearly.1 hs)
  | born name hs' => exact absurd hlt (hs' ▸ lt_irrefl _)

end

end Moves

def ActiveType.Shows (a : ActiveType) (st : AState) : Prop :=
  a.currentState = st ∨ a.nextState = some st

instance (a : ActiveType) (st : AState) : Decidable (a.Shows st) :=
  inferInstanceAs (Decidable (_ ∨ _))

def Meets (s : Sid) (A : Option Stype → AState → Prop) (g : G) : Prop :=
  ∀ st, (g.svc s).Shows st → A (g.svc s).type st

structure Turnable (A : Option Stype → AState → Prop) : Prop where
  foreign : ∀ type st, st.foreignTo type = true → A type st
  up : ∀ f ∈ turnings, A (some f.type) f.waitingStop → A (some f.type) f.up
  startMarked : ∀ f ∈ turnings, A (some f.type) f.startMarked
  down : ∀ f ∈ turnings, A (some f.type) f.waitingStart → A (some f.type) f.down
  stopMarked : ∀ f ∈ turnings, A (some f.type) f.stopMarked

section
variable {s : Sid} {g g' : G} {A : Option Stype → AState → Prop}

variable {st x : AState}

lemma shows_mark (h : ((commonMarkService s st g).2.svc s).Shows x) :
    (g.svc s).Shows x ∨ x = st := by
  rcases commonMarkService_records_or_enters g s st with ⟨next, hnext, he⟩ | ⟨-, he⟩
  · rw [he, G.modify_svc_self] at h
    rcases h with hcur | hx
    · exact .inl (.inl hcur)
    · rcases hnext with hold | hnone | ⟨hnew, -⟩
      · exact .inl (.inr (hold ▸ hx))
      · simp [hnone] at hx
      · rw [hnew] at hx
        exact .inr (Option.some.inj hx).symm
  · rw [he] at h
    rcases h with hcur | hx
    · exact .inr (by simpa [ActiveType.enter] using hcur.symm)
    · simp [ActiveType.enter] at hx

lemma Meets.steady (h : Steady s g g') (hm : Meets s A g) : Meets s A g' := by
  intro st hst
  rw [h.type]
  refine hm st ?_
  rcases hst with hcur | hnext
  · exact .inl (h.currentState ▸ hcur)
  · exact .inr (h.nextState ▸ hnext)

lemma Meets.mark (hm : Meets s A g) (hst : A (g.svc s).type st) :
    Meets s A (commonMarkService s st g).2 := by
  intro x hx
  rw [(OwnChange.mark st).svc_type]
  rcases shows_mark hx with hx | rfl
  · exact hm x hx
  · exact hst

lemma commonMarkService_shows (hlock : (g.svc s).stateLock = 0)
    (h : ((commonMarkService s st g).2.svc s).Shows x) : x = st := by
  by_cases hcur : (g.svc s).currentState = st
  · rw [commonMarkService_same g s st (.inl hlock) hcur] at h
    rcases h with hx | hx
    · exact (by simpa [hcur] using hx.symm)
    · simp at hx
  · rw [commonMarkService_unlocked g s st hlock hcur] at h
    rcases h with hx | hx
    · exact (by simpa [ActiveType.enter] using hx.symm)
    · simp [ActiveType.enter] at hx

lemma Meets.enter (hlock : (g.svc s).stateLock = 0) (hst : A (g.svc s).type st) :
    Meets s A (commonMarkService s st g).2 := by
  intro x hx
  rw [(OwnChange.mark st).svc_type, commonMarkService_shows hlock hx]
  exact hst

lemma Meets.moves (hA : Turnable A) (h : Moves s g g') (hm : Meets s A g) : Meets s A g' := by
  induction h with
  | trans _ _ ih ih' => exact ih' (ih hm)
  | steady h => exact hm.steady h
  | @turn g st h =>
    refine hm.mark ?_
    have hcur := hm (g.svc s).currentState (.inl rfl)
    cases h with
    | up hf htype hwait =>
      rw [htype] at hcur ⊢
      exact hA.up _ hf (hwait ▸ hcur)
    | startMarked hf htype =>
      rw [htype]
      exact hA.startMarked _ hf
    | down hf htype hwait =>
      rw [htype] at hcur ⊢
      exact hA.down _ hf (hwait ▸ hcur)
    | stopMarked hf htype =>
      rw [htype]
      exact hA.stopMarked _ hf
    | foreign hforeign => exact hA.foreign _ _ hforeign
  | setup data h =>
    intro x hx
    rw [G.modify_svc_self] at hx ⊢
    refine hA.foreign _ _ ?_
    rcases hx with rfl | hx
    · exact h.given
    · have hnext := h.next
      rw [show _ = some x from hx] at hnext
      exact hnext
  | @born g name hs =>
    subst hs
    intro x hx
    have hview : ((activeDbNew name g).2.svc g.brk).type = none ∧ x = .new := by
      simp only [activeDbNew, G.modify_svc_self, ActiveType.ofName, ActiveType.Shows] at hx ⊢
      refine ⟨trivial, ?_⟩
      rcases hx with hx | hx
      · exact hx.symm
      · cases hx
    rw [hview.1, hview.2]
    exact hA.foreign _ _ (by decide)

def Records (s : Sid) (R : AState → AState → Prop) (g : G) : Prop :=
  ∀ st, (g.svc s).nextState = some st → R (g.svc s).currentState st

structure Recordable (R : AState → AState → Prop) : Prop where
  foreign : ∀ cur st, st.owner = none → R cur st
  up : ∀ f ∈ turnings, R f.waitingStop f.up
  startMarked : ∀ f ∈ turnings, ∀ cur, R cur f.startMarked
  down : ∀ f ∈ turnings, R f.waitingStart f.down
  stopMarked : ∀ f ∈ turnings, ∀ cur : AState, cur.is = .isUp ∨ cur.is = .isStarting →
    R cur f.stopMarked

lemma owner_of_foreign {type : Option Stype} (h : st.foreignTo type = true) : st.owner = none := by
  simp only [AState.foreignTo, decide_eq_true_eq] at h
  exact h.1

lemma Records.moves {R : AState → AState → Prop} (hR : Recordable R) (h : Moves s g g')
    (hr : Records s R g) : Records s R g' := by
  induction h with
  | trans _ _ ih ih' => exact ih' (ih hr)
  | steady h =>
    intro st hst
    rw [h.currentState]
    exact hr st (h.nextState ▸ hst)
  | @turn g st h =>
    intro x hx
    rcases commonMarkService_records_or_enters g s st with ⟨next, hnext, he⟩ | ⟨-, he⟩
    · rw [he, G.modify_svc_self] at hx ⊢
      rcases hnext with hold | hnone | ⟨hnew, -⟩
      · exact hr x (hold ▸ hx)
      · simp [hnone] at hx
      · obtain rfl : st = x := Option.some.inj (hnew.symm.trans hx)
        cases h with
        | up hf htype hcur => exact hcur ▸ hR.up _ hf
        | startMarked hf htype => exact hR.startMarked _ hf _
        | down hf htype hcur => exact hcur ▸ hR.down _ hf
        | stopMarked hf htype his => exact hR.stopMarked _ hf _ his
        | foreign h => exact hR.foreign _ _ (owner_of_foreign h)
    · rw [he] at hx
      simp [ActiveType.enter] at hx
  | setup data h =>
    intro x hx
    rw [G.modify_svc_self] at hx ⊢
    have hnext := h.next
    rw [show _ = some x from hx] at hnext
    exact hR.foreign _ _ (owner_of_foreign hnext)
  | @born g name hs =>
    subst hs
    intro x hx
    simp [activeDbNew, ActiveType.ofName] at hx

end

end Initng
