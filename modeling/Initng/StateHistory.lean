import Initng.StateLock

namespace Initng

open List Option

def LockOp.runAt : List (Timeval × LockOp) → G → G
  | [], g => g
  | (now, op) :: steps, g => runAt steps (op.apply { g with clock := now })

def stateChanges (s : Sid) : List (Timeval × LockOp) → G → List (AState × Timeval)
  | [], _ => []
  | (now, op) :: steps, g =>
    let g' := op.apply { g with clock := now }
    if (g'.svc s).currentState = (g.svc s).currentState then stateChanges s steps g'
    else ((g'.svc s).currentState, now) :: stateChanges s steps g'

/-- The time at which the last of these states was entered whose rough class is not that of the
state before; the first one comes after the class `r`. -/
def lastNew (r : EIs) : List (AState × Timeval) → Option Timeval
  | [] => none
  | (state, time) :: left =>
    (lastNew state.is left).or (if state.is ≠ r then some time else none)

def ActiveType.states (a : ActiveType) (cs : List (AState × Timeval)) :
    List (AState × Timeval) :=
  (a.currentState, a.timeCurrentState) :: cs

/-- What the history of a service is to say when it has entered these states. -/
def HistoryExact (a : ActiveType) (cs : List (AState × Timeval)) (a' : ActiveType) : Prop :=
  ∀ left state time entered, a.states cs = left ++ [(state, time), entered] →
    a'.lastState = some state ∧ a'.timeLastState = time ∧ a'.lastRoughtState = state.is ∧
    ∀ t, lastNew a.lastRoughtState (left ++ [(state, time)]) = some t → a'.lastRoughtTime = t

structure SameHistory (a a' : ActiveType) : Prop where
  currentState : a'.currentState = a.currentState
  timeCurrentState : a'.timeCurrentState = a.timeCurrentState
  lastState : a'.lastState = a.lastState
  timeLastState : a'.timeLastState = a.timeLastState
  lastRoughtState : a'.lastRoughtState = a.lastRoughtState
  lastRoughtTime : a'.lastRoughtTime = a.lastRoughtTime

section
variable {a a' a'' : ActiveType}

lemma SameHistory.refl (a : ActiveType) : SameHistory a a := ⟨rfl, rfl, rfl, rfl, rfl, rfl⟩

lemma SameHistory.trans (h : SameHistory a a') (h' : SameHistory a' a'') : SameHistory a a'' :=
  ⟨h'.1.trans h.1, h'.2.trans h.2, h'.3.trans h.3, h'.4.trans h.4, h'.5.trans h.5, h'.6.trans h.6⟩

lemma SameHistory.enter (h : SameHistory a a') (next : AState) (now : Timeval) :
    SameHistory (a.enter next now) (a'.enter next now) := by
  constructor <;> simp only [ActiveType.enter, h.1, h.2, h.5, h.6]

lemma SameButLock.sameHistory (h : SameButLock a a') : SameHistory a a' := by
  rw [h]
  exact ⟨rfl, rfl, rfl, rfl, rfl, rfl⟩

end

inductive Unlocks (now : Timeval) (a a' : ActiveType) : Prop
  | same (h : SameHistory a a') (hn : a'.nextState = a.nextState)
  | enter (next : AState) (hw : a.nextState = some next)
      (h : SameHistory (a.enter next now) a') (hn : a'.nextState = none)

section
variable (g : G) (s t : Sid) (st : AState)

lemma unlock_unlocks : Unlocks g.clock (g.svc s) ((commonStateUnlock t g).2.svc s) := by
  rcases unlock_svc_cases g s t with ⟨n, -, -, he⟩ | ⟨next, hn, he⟩ <;> rw [he]
  · exact .same ⟨rfl, rfl, rfl, rfl, rfl, rfl⟩ rfl
  · exact .enter next hn ⟨rfl, rfl, rfl, rfl, rfl, rfl⟩ rfl

lemma commonStateUnlock_clock : (commonStateUnlock s g).2.clock = g.clock := by
  unfold commonStateUnlock
  dsimp only
  split
  · rfl
  split
  · rfl
  · unfold setInterrupt
    split <;> rfl

/-- Nothing waits any more once a state was entered, so the loop enters one at most. -/
lemma unlockLoop_unlocks (l : List Sid) (r : Bool × G) :
    Unlocks r.2.clock (r.2.svc s) ((unlockLoop l r).2.svc s) := by
  induction l generalizing r with
  | nil => exact .same (.refl _) rfl
  | cons t l ih =>
    have hrest := ih (r.1 || (commonStateUnlock t r.2).1, (commonStateUnlock t r.2).2)
    rw [commonStateUnlock_clock] at hrest
    cases unlock_unlocks r.2 s t with
    | same h hn =>
      cases hrest with
      | same h' hn' => exact .same (h.trans h') (hn'.trans hn)
      | enter next hw h' hn' => exact .enter next (hn ▸ hw) ((h.enter _ _).trans h') hn'
    | enter next hw h hn =>
      cases hrest with
      | same h' hn' => exact .enter next hw (h.trans h') (hn'.trans hn)
      | enter next' hw' => simp [hn] at hw'

end

def AwaitsOther (a : ActiveType) : Prop := a.nextState ≠ some a.currentState

instance (a : ActiveType) : Decidable (AwaitsOther a) := inferInstanceAs (Decidable (_ ≠ _))

inductive StateMoves (now : Timeval) (a a' : ActiveType) : Prop
  | same (h : SameHistory a a')
  | enter (next : AState) (hne : next ≠ a.currentState) (h : SameHistory (a.enter next now) a')

variable {a a' : ActiveType}

lemma Unlocks.moves {now : Timeval} (h : Unlocks now a a') (ht : AwaitsOther a) :
    StateMoves now a a' ∧ AwaitsOther a' := by
  cases h with
  | same h hn => exact ⟨.same h, by rwa [AwaitsOther, hn, h.currentState]⟩
  | enter next hw h hn =>
    refine ⟨.enter next (fun heq => ht (heq ▸ hw)) h, ?_⟩
    rw [AwaitsOther, hn]
    exact some_ne_none _ |>.symm

section
variable {g : G} {s : Sid}

lemma lock_moves {now : Timeval} {a a' : ActiveType} (h : SameButLock a a') (ht : AwaitsOther a) :
    StateMoves now a a' ∧ AwaitsOther a' :=
  ⟨.same h.sameHistory, by rwa [AwaitsOther, h.nextState, h.currentState]⟩

lemma mark_moves (t : Sid) (st : AState) (ht : AwaitsOther (g.svc s)) :
    StateMoves g.clock (g.svc s) ((commonMarkService t st g).2.svc s) ∧
      AwaitsOther ((commonMarkService t st g).2.svc s) := by
  by_cases h : s = t
  · subst h
    rcases commonMarkService_records_or_enters g s st with ⟨next, hnext, he⟩ | ⟨hc, he⟩
    · rw [he, G.modify_svc_self]
      refine ⟨.same ⟨rfl, rfl, rfl, rfl, rfl, rfl⟩, ?_⟩
      rcases hnext with rfl | rfl | ⟨rfl, hc⟩
      · exact ht
      · simp [AwaitsOther]
      · simpa [AwaitsOther] using Ne.symm hc
    · rw [he, setInterrupt_svc, G.modify_svc_self]
      exact ⟨.enter st (Ne.symm hc) (.refl _), by simp [AwaitsOther, ActiveType.enter]⟩
  · rw [commonMarkService_svc_ne g st h]
    exact ⟨.same (.refl _), ht⟩

lemma LockOp.apply_moves (op : LockOp) (ht : AwaitsOther (g.svc s)) :
    StateMoves g.clock (g.svc s) ((op.apply g).svc s) ∧ AwaitsOther ((op.apply g).svc s) := by
  cases op with
  | mark t st => exact mark_moves t st ht
  | lock t => exact lock_moves (lock_sameButLock g s t) ht
  | unlock t => exact (unlock_unlocks g s t).moves ht
  | lockAll => exact lock_moves (lockAll_sameButLock g s g.activeDb) ht
  | unlockAll => exact (unlockLoop_unlocks s g.activeDb (false, g)).moves ht

end

def ActiveType.enterAll (a : ActiveType) (cs : List (AState × Timeval)) : ActiveType :=
  cs.foldl (fun a c => a.enter c.1 c.2) a

lemma SameHistory.enterAll (h : SameHistory a a') (cs : List (AState × Timeval)) :
    SameHistory (a.enterAll cs) (a'.enterAll cs) := by
  induction cs generalizing a a' with
  | nil => exact h
  | cons c cs ih => exact ih (h.enter c.1 c.2)

lemma runAt_sameHistory (s : Sid) (steps : List (Timeval × LockOp)) {g : G}
    (ht : AwaitsOther (g.svc s)) :
    SameHistory ((g.svc s).enterAll (stateChanges s steps g)) ((LockOp.runAt steps g).svc s) := by
  induction steps generalizing g with
  | nil => exact .refl _
  | cons step steps ih =>
    obtain ⟨now, op⟩ := step
    have hmoves := LockOp.apply_moves (g := { g with clock := now }) (s := s) op ht
    have hrest := ih hmoves.2
    rw [stateChanges, LockOp.runAt]
    cases hmoves.1 with
    | same h =>
      rw [if_pos h.currentState]
      exact (h.enterAll _).trans hrest
    | enter next hne h =>
      have hcur : ((op.apply { g with clock := now }).svc s).currentState = next := h.currentState
      rw [if_neg (hcur ▸ hne), hcur]
      exact (h.enterAll _).trans hrest

lemma Timeval.copyByte_copyByte (t u v : Timeval) : (t.copyByte u).copyByte v = t.copyByte v := by
  simp only [Timeval.copyByte, Timeval.mk.injEq, and_true]
  omega

lemma Timeval.copyByte_eq_iff (t u : Timeval) :
    t.copyByte u = u ↔ u.tvUsec = t.tvUsec ∧ u.tvSec / 256 = t.tvSec / 256 := by
  obtain ⟨sec, usec⟩ := u
  simp only [Timeval.copyByte, Timeval.mk.injEq]
  omega

section
variable (a : ActiveType) (cs : List (AState × Timeval))

/-- Of the times of the changes of the rough class, one byte gets there. -/
lemma enterAll_lastRoughtTime :
    (a.enterAll cs).lastRoughtTime =
      (lastNew a.lastRoughtState (a.states cs).dropLast).elim
        a.lastRoughtTime a.lastRoughtTime.copyByte := by
  induction cs generalizing a with
  | nil => rfl
  | cons c cs ih =>
    have hrest : (a.enterAll (c :: cs)).lastRoughtTime =
        (lastNew a.currentState.is (c :: cs).dropLast).elim (a.enter c.1 c.2).lastRoughtTime
          (a.enter c.1 c.2).lastRoughtTime.copyByte := ih (a.enter c.1 c.2)
    rw [hrest, ActiveType.states, dropLast_cons_of_ne_nil (cons_ne_nil c cs), lastNew]
    by_cases hr : a.lastRoughtState = a.currentState.is
    · have htime : (a.enter c.1 c.2).lastRoughtTime = a.lastRoughtTime := by
        simp [ActiveType.enter, hr]
      simp [htime, hr]
    · have htime : (a.enter c.1 c.2).lastRoughtTime =
          a.lastRoughtTime.copyByte a.timeCurrentState := by
        simp [ActiveType.enter, hr]
      rw [htime, if_pos (Ne.symm hr)]
      cases lastNew a.currentState.is (c :: cs).dropLast with
      | none => rfl
      | some t => exact Timeval.copyByte_copyByte ..

lemma enterAll_append (c : AState × Timeval) :
    a.enterAll (cs ++ [c]) = (a.enterAll cs).enter c.1 c.2 := by
  simp [ActiveType.enterAll]

lemma states_append (c : AState × Timeval) : a.states (cs ++ [c]) = a.states cs ++ [c] := rfl

lemma getLast_states : (a.states cs).getLast? =
    some ((a.enterAll cs).currentState, (a.enterAll cs).timeCurrentState) := by
  rcases eq_nil_or_concat cs with rfl | ⟨cs, c, rfl⟩
  · rfl
  · rw [concat_eq_append, states_append, getLast?_concat, enterAll_append]
    rfl

end

lemma enterAll_last {cs left : List (AState × Timeval)} {state : AState} {time : Timeval}
    {entered : AState × Timeval} (h : a.states cs = left ++ [(state, time), entered]) :
    (a.enterAll cs).lastState = some state ∧ (a.enterAll cs).timeLastState = time ∧
      (a.enterAll cs).lastRoughtState = state.is := by
  rcases eq_nil_or_concat cs with rfl | ⟨cs, c, rfl⟩
  · have hlen := congrArg length h
    simp [ActiveType.states] at hlen
  · rw [concat_eq_append, states_append, append_cons left] at h
    have hleft := getLast_states a cs
    rw [(append_inj' h rfl).1, getLast?_concat] at hleft
    obtain ⟨rfl, rfl⟩ := Prod.mk.inj (some.inj hleft)
    rw [concat_eq_append, enterAll_append]
    exact ⟨rfl, rfl, rfl⟩

/-- The history is exact if and only if the last change of the rough class was at a time that
differs from the one recorded before all these in the lowest byte of the seconds only. -/
theorem history_exact_iff (g : G) (s : Sid) (hs : AwaitsOther (g.svc s))
    (steps : List (Timeval × LockOp)) :
    HistoryExact (g.svc s) (stateChanges s steps g) ((LockOp.runAt steps g).svc s) ↔
      ∀ t, lastNew (g.svc s).lastRoughtState ((g.svc s).states (stateChanges s steps g)).dropLast =
          some t →
        t.tvUsec = (g.svc s).lastRoughtTime.tvUsec ∧
        t.tvSec / 256 = (g.svc s).lastRoughtTime.tvSec / 256 := by
  have hsame := runAt_sameHistory s steps hs
  generalize (LockOp.runAt steps g).svc s = a' at hsame
  generalize stateChanges s steps g = cs at hsame
  have hrough : ∀ t, lastNew (g.svc s).lastRoughtState ((g.svc s).states cs).dropLast = some t →
      a'.lastRoughtTime = (g.svc s).lastRoughtTime.copyByte t := fun t ht => by
    rw [hsame.lastRoughtTime, enterAll_lastRoughtTime, ht, elim_some]
  constructor
  · intro h t ht
    rw [← Timeval.copyByte_eq_iff, ← hrough t ht]
    -- a class was left, so there is a change
    rcases eq_nil_or_concat cs with rfl | ⟨before, entered, rfl⟩
    · simp [ActiveType.states, lastNew] at ht
    obtain ⟨left, ⟨state, time⟩, hleft⟩ : ∃ left c, (g.svc s).states before = left ++ [c] :=
      ⟨_, _, (dropLast_append_getLast (cons_ne_nil _ before)).symm⟩
    rw [concat_eq_append, states_append, dropLast_concat, hleft] at ht
    refine (h left state time entered ?_).2.2.2 t ht
    rw [concat_eq_append, states_append, hleft, append_assoc, singleton_append]
  · intro h left state time entered hstates
    obtain ⟨hlast, htime, hstate⟩ := enterAll_last hstates
    refine ⟨hsame.lastState.trans hlast, hsame.timeLastState.trans htime,
      hsame.lastRoughtState.trans hstate, fun t ht => ?_⟩
    have hleft : ((g.svc s).states cs).dropLast = left ++ [(state, time)] := by
      rw [hstates, append_cons, dropLast_concat]
    rw [← hleft] at ht
    rw [hrough t ht, Timeval.copyByte_eq_iff]
    exact h t ht

def restarted : List (Timeval × LockOp) :=
  [(⟨1030, 0⟩, .mark 0 ⟨"STARTING", .isStarting⟩), (⟨1040, 0⟩, .mark 0 ⟨"FAIL", .isFailed⟩),
    (⟨1050, 0⟩, .lock 0), (⟨1050, 0⟩, .mark 0 ⟨"STARTING", .isStarting⟩), (⟨1060, 0⟩, .unlock 0)]

/-- All changes are within 256 seconds and at full seconds. -/
theorem history_exact_restarted :
    let g := (activeDbNew "net/eth0" (configGlobalNew ⟨1024, 0⟩)).2
    AwaitsOther (g.svc 0) ∧
      HistoryExact (g.svc 0) (stateChanges 0 restarted g) ((LockOp.runAt restarted g).svc 0) := by
  intro g
  have htracked : AwaitsOther (g.svc 0) := by decide
  have hlast : lastNew (g.svc 0).lastRoughtState
      ((g.svc 0).states (stateChanges 0 restarted g)).dropLast = some ⟨1040, 0⟩ := by decide
  refine ⟨htracked, (history_exact_iff g 0 htracked restarted).mpr fun t ht => ?_⟩
  obtain rfl : ⟨1040, 0⟩ = t := some.inj (hlast.symm.trans ht)
  decide

/-- A service is started and is up within a second.  Its start was at five microseconds past the
second, the time recorded is that of its creation. -/
theorem history_not_always_exact :
    ¬ ∀ (g : G) (s : Sid) (steps : List (Timeval × LockOp)), AwaitsOther (g.svc s) →
      HistoryExact (g.svc s) (stateChanges s steps g) ((LockOp.runAt steps g).svc s) := by
  intro hall
  have hexact := hall (activeDbNew "net/eth0" (configGlobalNew ⟨1024, 0⟩)).2 0
    [(⟨1024, 5⟩, .mark 0 ⟨"STARTING", .isStarting⟩), (⟨1024, 9⟩, .mark 0 ⟨"UP", .isUp⟩)]
    (by decide)
  have hrough := (hexact [(.new, ⟨1024, 0⟩)] ⟨"STARTING", .isStarting⟩ ⟨1024, 5⟩
    (⟨"UP", .isUp⟩, ⟨1024, 9⟩) (by decide)).2.2.2 ⟨1024, 5⟩ (by decide)
  revert hrough
  decide

end Initng
