import Initng.Interrupt
import Initng.ServiceTypes

namespace Initng

open List

def Phase.rest : Phase → List Sid
  | restarting rest _ => rest
  | _ => []

def Pending (ph : Phase) (g : G) (s : Sid) : Prop := s ∈ g.interrupt ∨ ph.locks s = true

/-- The service is going to bring about the restart of all that have stopped: it is stopping
and, as far as is known, will be down after that, or it has just gone down and `handle` has
not seen that yet. -/
def WillRestart (ph : Phase) (g : G) (s : Sid) : Prop :=
  is .restarting g s = true ∧
    ((getState g s = .isStopping ∧ ∀ st, (g.svc s).nextState = some st →
        st.is = .isStopping ∨ st.is = .isDown) ∨
      (getState g s = .isDown ∧ (g.svc s).lastRoughtState ≠ .isDown ∧
        (g.svc s).nextState = none ∧ s ∉ ph.rest ∧ Pending ph g s))

def Waits (g : G) (s : Sid) : Prop := is .restarting g s = true ∧ getState g s = .isDown

/-- No mark that takes effect turns the only service that will restart the others away from
going down while one of them waits. -/
def Act.keepsRestart (act : Act) (c : Core) : Prop :=
  match act with
  | .mark s state =>
    WillRestart c.phase c.g s → state ≠ (c.g.svc s).currentState → (c.g.svc s).nextState = none →
      (getState c.g s = .isStopping ∧
        (state.is = .isStopping ∨ (state.is = .isDown ∧ s ∉ c.phase.rest))) ∨
      (∃ z, z ≠ s ∧ WillRestart c.phase c.g z) ∨ ∀ y, ¬ Waits c.g y
  | _ => True

structure NoneLeft (ph : Phase) (g : G) : Prop where
  locks : LocksOk ph g
  allocated : ∀ s ∈ g.activeDb, s < g.brk
  registered : ∀ s, is .restarting g s = true → s ∈ g.activeDb
  waits : ∀ y, Waits g y → y ∈ ph.rest ∨ ∃ z, WillRestart ph g z

structure SameState (a a' : ActiveType) : Prop where
  currentState : a'.currentState = a.currentState
  nextState : a'.nextState = a.nextState
  lastRoughtState : a'.lastRoughtState = a.lastRoughtState

lemma SameView.sameState {a a' : ActiveType} (h : SameView a a') : SameState a a' :=
  ⟨h.currentState, h.nextState, h.lastRoughtState⟩

section
variable {ph ph' : Phase} {g g' : G} {s service : Sid}

variable {a a' : ActiveType} {f : ActiveType → ActiveType} {st : AState}

lemma SameState.of_eq (h : a' = a) : SameState a a' := (SameView.of_eq h).sameState

lemma SameState.modify (s t : Sid) (hf : ∀ a, SameState a (f a)) :
    SameState (g.svc t) ((g.modify s f).svc t) := by
  by_cases h : t = s
  · subst h
    simpa using hf (g.svc t)
  · exact .of_eq (by simp [h])

lemma SameState.trans {a'' : ActiveType} (h : SameState a a') (h' : SameState a' a'') :
    SameState a a'' :=
  ⟨h'.currentState.trans h.currentState, h'.nextState.trans h.nextState,
    h'.lastRoughtState.trans h.lastRoughtState⟩

lemma sameState_commonStateLock (t : Sid) :
    SameState (g.svc t) ((commonStateLock service g).svc t) := by
  apply SameState.modify
  exact fun _ => ⟨rfl, rfl, rfl⟩

lemma sameState_unlockedAt (t : Sid) : SameState (g.svc t) ((unlockedAt service g).svc t) := by
  apply SameState.modify
  exact fun _ => ⟨rfl, rfl, rfl⟩

lemma is_commonStateLock (e : SEntry) (t : Sid) :
    is e (commonStateLock service g) t = is e g t := is_modify e service t fun _ => rfl

/-- A mark of the service keeps the restart: it goes on stopping or goes down, or another one will
restart the others, or nobody waits. -/
def Spares (ph : Phase) (g : G) (s : Sid) (st : AState) : Prop :=
  (getState g s = .isStopping ∧ (st.is = .isStopping ∨ (st.is = .isDown ∧ s ∉ ph.rest))) ∨
    (∃ z, z ≠ s ∧ WillRestart ph g z) ∨ ∀ y, ¬ Waits g y

lemma WillRestart.frame (h : WillRestart ph g s) (hflag : is .restarting g' s = true)
    (hview : SameState (g.svc s) (g'.svc s)) (hrest : s ∈ ph'.rest → s ∈ ph.rest)
    (hpending : Pending ph g s → Pending ph' g' s) : WillRestart ph' g' s := by
  have his : getState g' s = getState g s := by rw [getState, getState, hview.currentState]
  refine ⟨hflag, ?_⟩
  rw [his, hview.nextState, hview.lastRoughtState]
  rcases h.2 with hstop | ⟨hdown, hrough, hnext, hnot, hpend⟩
  · exact .inl hstop
  · exact .inr ⟨hdown, hrough, hnext, fun hin => hnot (hrest hin), hpending hpend⟩

lemma NoneLeft.frame (h : NoneLeft ph g) (hlocks : LocksOk ph' g')
    (halloc : ∀ s ∈ g'.activeDb, s < g'.brk) (hreg : ∀ s ∈ g.activeDb, s ∈ g'.activeDb)
    (hview : ∀ s, SameState (g.svc s) (g'.svc s))
    (hflag : ∀ s, is .restarting g' s = is .restarting g s)
    (hrest : ph'.rest = ph.rest)
    (hpending : ∀ s, Pending ph g s → Pending ph' g' s) : NoneLeft ph' g' where
  locks := hlocks
  allocated := halloc
  registered s hs := hreg s (h.registered s (hflag s ▸ hs))
  waits y hy := by
    have his : getState g' y = getState g y := by
      rw [getState, getState, (hview y).currentState]
    have hy' : Waits g y := ⟨hflag y ▸ hy.1, his ▸ hy.2⟩
    rw [hrest]
    rcases h.waits y hy' with hin | ⟨z, hz⟩
    · exact .inl hin
    · right
      exact ⟨z, hz.frame (by rw [hflag]; exact hz.1) (hview z) (by rw [hrest]; exact id)
        (hpending z)⟩

structure Entered (s : Sid) (st : AState) (g g' : G) : Prop where
  currentState : (g'.svc s).currentState = st
  lastRoughtState : (g'.svc s).lastRoughtState = getState g s
  nextState : (g'.svc s).nextState = none
  other : ∀ t, t ≠ s → g'.svc t = g.svc t
  flag : ∀ t, is .restarting g' t = is .restarting g t
  listed : ∀ t, t ∈ g'.interrupt ↔ t ∈ g.interrupt ∨ t = s
  activeDb : g'.activeDb = g.activeDb
  brk : g'.brk = g.brk

lemma entered_setInterrupt {now : Timeval}
    (hf : ∀ a, ∃ lock, f a = { a.enter st now with stateLock := lock }) :
    Entered s st g (setInterrupt s (g.modify s f)) := by
  obtain ⟨lock, hlock⟩ := hf (g.svc s)
  have hself : (setInterrupt s (g.modify s f)).svc s =
      { (g.svc s).enter st now with stateLock := lock } := by simp [hlock]
  refine ⟨by simp [hself, ActiveType.enter], by simp [hself, ActiveType.enter, getState],
    by simp [hself, ActiveType.enter], fun t ht => by simp [ht], fun t => ?_,
    fun t => mem_setInterrupt _ _ _, by simp, by simp⟩
  by_cases ht : t = s
  · simp only [ht, is, hself]
    rfl
  · simp [is, ht]

section
variable {st : AState}

lemma WillRestart.entered_down (he : Entered s st g g') (hflag : is .restarting g s = true)
    (hst : st.is = .isDown) (hwas : getState g s ≠ .isDown) (hnot : s ∉ ph.rest) :
    WillRestart ph g' s := by
  refine ⟨by rw [he.flag]; exact hflag, .inr ⟨?_, ?_, he.nextState, hnot, .inl ?_⟩⟩
  · rw [getState, he.currentState, hst]
  · rw [he.lastRoughtState]
    exact hwas
  · exact (he.listed s).mpr (.inr rfl)

lemma WillRestart.entered_other {z : Sid} (hz : WillRestart ph g z)
    (he : Entered s st g g') (hne : z ≠ s) (hrest : ph'.rest = ph.rest)
    (hl : ph.locks z = true → ph'.locks z = true) : WillRestart ph' g' z := by
  refine hz.frame (by rw [he.flag]; exact hz.1) (.of_eq (he.other z hne))
    (by rw [hrest]; exact id) ?_
  rintro (hin | hlock)
  · exact .inl ((he.listed z).mpr (.inl hin))
  · exact .inr (hl hlock)

lemma Entered.waits (he : Entered s st g g') (hy : Waits g' service)
    (hne : service = s → getState g s = .isDown) : Waits g service := by
  refine ⟨he.flag service ▸ hy.1, ?_⟩
  by_cases hys : service = s
  · rw [hys]
    exact hne hys
  · have hdown := hy.2
    rwa [getState, he.other service hys] at hdown

/-- The step keeps the invariant if the service that enters the state was not the one to
restart the others, or still is, or nobody waits. -/
lemma NoneLeft.entered (h : NoneLeft ph g) (he : Entered s st g g') (hlocks : LocksOk ph' g')
    (hrest : ph'.rest = ph.rest) (hl : ∀ t, t ≠ s → ph.locks t = true → ph'.locks t = true)
    (hkeeps : WillRestart ph g s → Spares ph g s st) : NoneLeft ph' g' := by
  have hnext (z : Sid) (hz : WillRestart ph g z) :
      (∃ z, WillRestart ph' g' z) ∨ ∀ y, ¬ Waits g y := by
    by_cases hzs : z = s
    · subst hzs
      rcases hkeeps hz with ⟨hwas, hst | ⟨hst, hnot⟩⟩ | ⟨w, hne, hw⟩ | hnone
      · refine .inl ⟨z, (he.flag z).trans hz.1, .inl ⟨?_, by simp [he.nextState]⟩⟩
        rw [getState, he.currentState, hst]
      · exact .inl ⟨z, .entered_down he hz.1 hst (by rw [hwas]; decide) (by rwa [hrest])⟩
      · exact .inl ⟨w, hw.entered_other he hne hrest (hl w hne)⟩
      · exact .inr hnone
    · exact .inl ⟨z, hz.entered_other he hzs hrest (hl z hzs)⟩
  refine ⟨hlocks, ?_, fun t ht => ?_, fun y hy => ?_⟩
  · rw [he.activeDb, he.brk]
    exact h.allocated
  · rw [he.activeDb]
    exact h.registered t (he.flag t ▸ ht)
  rw [hrest]
  by_cases hys : y = s ∧ getState g s ≠ .isDown
  · -- `s` has just gone down
    obtain ⟨rfl, hwas⟩ := hys
    by_cases hin : y ∈ ph.rest
    · exact .inl hin
    · have hst : st.is = .isDown := by rw [← hy.2, getState, he.currentState]
      exact .inr ⟨y, .entered_down he (he.flag y ▸ hy.1) hst hwas (by rwa [hrest])⟩
  · have hbefore : Waits g y := he.waits hy fun hys' => by
      by_contra hne
      exact hys ⟨hys', hne⟩
    rcases h.waits y hbefore with hin | ⟨z, hz⟩
    · exact .inl hin
    · rcases hnext z hz with hz' | hnone
      · exact .inr hz'
      · exact absurd hbefore (hnone y)

end

section
variable (h : NoneLeft ph g)
include h

lemma NoneLeft.recorded
    (hlocks : LocksOk ph (g.modify s fun a => { a with nextState := some st }))
    (hkeeps : WillRestart ph g s → Spares ph g s st) :
    NoneLeft ph (g.modify s fun a => { a with nextState := some st }) := by
  set g' := g.modify s fun a => { a with nextState := some st } with hg'
  have hstate (t : Sid) : getState g' t = getState g t := getState_modify s t fun _ => rfl
  have hflag (t : Sid) : is .restarting g' t = is .restarting g t :=
    is_modify .restarting s t fun _ => rfl
  have hkept (z : Sid) (hz : WillRestart ph g z) (hne : z ≠ s) : WillRestart ph g' z :=
    hz.frame (by rw [hflag]; exact hz.1) (.of_eq (by simp [hg', hne])) id id
  refine ⟨hlocks, h.allocated, fun t ht => h.registered t (hflag t ▸ ht), fun y hy => ?_⟩
  have hbefore : Waits g y := ⟨hflag y ▸ hy.1, hstate y ▸ hy.2⟩
  rcases h.waits y hbefore with hin | ⟨z, hz⟩
  · exact .inl hin
  by_cases hzs : z = s
  · subst hzs
    rcases hkeeps hz with ⟨hwas, hst⟩ | ⟨w, hne, hw⟩ | hnone
    · refine .inr ⟨z, by rw [hflag]; exact hz.1, .inl ⟨by rw [hstate, hwas], fun st' hst' => ?_⟩⟩
      obtain rfl : st = st' := by simpa [hg'] using hst'
      exact hst.imp_right fun hdown => hdown.1
    · exact .inr ⟨w, hkept w hw hne⟩
    · exact absurd hbefore (hnone y)
  · exact .inr ⟨z, hkept z hz hzs⟩

lemma NoneLeft.mark (hs : s < g.brk)
    (hk : (Act.mark s st).keepsRestart ⟨ph, g⟩) : NoneLeft ph (commonMarkService s st g).2 := by
  have hlocks := h.locks.mark hs st
  have hlock := h.locks.each s hs
  rcases commonMarkService_cases st hlock.settled with he | ⟨hl, hn, hc, he⟩ | ⟨hl, hc, he⟩
  · rwa [he]
  · rw [he] at hlocks ⊢
    exact h.recorded hlocks fun hw => hk hw (Ne.symm hc) hn
  · rw [he] at hlocks ⊢
    have hn : (g.svc s).nextState = none := hlock.settled hl
    exact h.entered (entered_setInterrupt fun a => ⟨_, rfl⟩) hlocks rfl (fun _ _ => id)
      fun hw => hk hw (Ne.symm hc) hn

lemma NoneLeft.new (name : String) : NoneLeft ph (activeDbNew name g).2 := by
  have hfresh : is .restarting g g.brk = false := by
    by_contra hflag
    have hmem := h.registered g.brk (by simpa using hflag)
    exact absurd (h.allocated _ hmem) (Nat.lt_irrefl _)
  have hflag (t : Sid) : is .restarting (activeDbNew name g).2 t = is .restarting g t := by
    by_cases ht : t = g.brk
    · rw [ht, hfresh]
      simp [is, activeDbNew, ActiveType.ofName]
    · simp [is, activeDbNew, ht]
  -- whoever is flagged is registered, so the new service is none of them
  have hother (t : Sid) (hf : is .restarting g t = true) :
      (activeDbNew name g).2.svc t = g.svc t := by
    have hne : t ≠ g.brk := by
      rintro rfl
      rw [hfresh] at hf
      cases hf
    simp [activeDbNew, hne]
  refine ⟨h.locks.new name, fun t ht => Nat.lt_succ_of_lt (h.allocated t ht),
    fun t ht => h.registered t (hflag t ▸ ht), fun y hy => ?_⟩
  have hf : is .restarting g y = true := hflag y ▸ hy.1
  have hbefore : Waits g y := by
    have hdown := hy.2
    rw [getState, hother y hf] at hdown
    exact ⟨hf, hdown⟩
  rcases h.waits y hbefore with hin | ⟨z, hz⟩
  · exact .inl hin
  · exact .inr ⟨z, hz.frame (by rw [hflag]; exact hz.1) (.of_eq (hother z hz.1)) id id⟩

lemma NoneLeft.flag (hs : s ∈ g.activeDb) (hne : getState g s ≠ .isDown) :
    NoneLeft ph (set .restarting s g) := by
  have hview (t : Sid) : SameView (g.svc t) ((set .restarting s g).svc t) := .set s t
  have hflag (t : Sid) (ht : t ≠ s) : is .restarting (set .restarting s g) t =
      is .restarting g t := by rw [is, set_svc_ne _ _ _ _ ht, is]
  have hbrk := set_brk .restarting s g
  have hlist := set_interrupt .restarting s g
  refine ⟨h.locks.sameViews hbrk hview hlist, by simpa [hbrk] using h.allocated,
    fun t ht => ?_, fun y hy => ?_⟩
  · rw [set_activeDb]
    by_cases hts : t = s
    · rwa [hts]
    · exact h.registered t (hflag t hts ▸ ht)
  · have hys : y ≠ s := by
      rintro rfl
      exact hne (getState_set .restarting y y g ▸ hy.2)
    have hbefore : Waits g y := ⟨hflag y hys ▸ hy.1, getState_set .restarting s y g ▸ hy.2⟩
    rcases h.waits y hbefore with hin | ⟨z, hz⟩
    · exact .inl hin
    · refine .inr ⟨z, hz.frame ?_ (hview z).sameState id ?_⟩
      · by_cases hzs : z = s
        · rw [hzs, is_set]
        · rw [hflag z hzs]
          exact hz.1
      · rw [Pending, Pending, hlist]
        exact id

lemma NoneLeft.applyG {act : Act} (hk : act.keepsRestart ⟨ph, g⟩) : NoneLeft ph (act.applyG g) := by
  have hlocks := h.locks.applyG act
  have hacted := act.acted g
  generalize act.applyG g = g' at hlocks hacted ⊢
  cases hacted with
  | same => exact h
  | mark s state hs => exact h.mark hs hk
  | new name => exact h.new name
  | setup s type data hs hdata =>
    -- neither before nor after is the service flagged
    have hbefore : is .restarting g s = false := by
      by_contra hflag
      exact hs (h.registered s (by simpa using hflag))
    refine h.frame hlocks h.allocated (fun _ => id)
      (fun t => .modify s t fun _ => ⟨rfl, rfl, rfl⟩) (fun t => ?_) rfl fun _ => id
    by_cases ht : t = s
    · rw [ht, hbefore]
      simpa [is] using hdata
    · simp [is, ht]
  | register s hs =>
    rcases activeDbRegister_cases s g with he | ⟨-, he⟩ <;> rw [he] at hlocks ⊢
    · exact h
    · refine h.frame hlocks (fun t ht => ?_) (fun t ht => mem_append_left _ ht)
        (fun _ => .of_eq rfl) (fun _ => rfl) rfl fun _ => id
      rcases mem_append.mp ht with ht | ht
      · exact h.allocated t ht
      · exact mem_singleton.mp ht ▸ hs
  | flag s hs hne => exact h.flag hs hne
  | start | stop =>
    exact h.frame hlocks h.allocated (fun _ => id) (fun _ => .of_eq rfl) (fun _ => rfl) rfl
      fun _ => id

lemma NoneLeft.rephase (hlocks : LocksOk ph' g)
    (hfree : ∀ s, ph.locks s = false) (hrest : ph'.rest = ph.rest) : NoneLeft ph' g := by
  refine h.frame hlocks h.allocated (fun _ => id) (fun _ => .of_eq rfl) (fun _ => rfl) hrest ?_
  rintro s (hin | hl)
  · exact .inl hin
  · simp [hfree] at hl

/-- `handle` lets the service go.  If this was the service to restart the others, it still
stops, or another one will restart them. -/
lemma NoneLeft.unlockedAt (hlocks : LocksOk ph' (unlockedAt service g))
    (hl : ph.locks service = true) (hrest : ph'.rest = ph.rest)
    (hseen : WillRestart ph g service →
      getState g service = .isStopping ∨ ∃ z, z ≠ service ∧ WillRestart ph g z) :
    NoneLeft ph' (unlockedAt service g) := by
  have hview (t : Sid) : SameState (g.svc t) ((Initng.unlockedAt service g).svc t) :=
    sameState_unlockedAt t
  have hkept (z : Sid) (hz : WillRestart ph g z) (hne : z ≠ service) :
      WillRestart ph' (Initng.unlockedAt service g) z := by
    refine hz.frame (by rw [is_unlockedAt]; exact hz.1) (hview z) (by rw [hrest]; exact id) ?_
    rintro (hin | hlz)
    · exact .inl hin
    · rw [Phase.locks_unique hl hne] at hlz
      cases hlz
  refine ⟨hlocks, h.allocated, fun t ht => h.registered t (by simpa using ht), fun y hy => ?_⟩
  have hbefore : Waits g y := ⟨by simpa using hy.1, by simpa using hy.2⟩
  rw [hrest]
  rcases h.waits y hbefore with hin | ⟨z, hz⟩
  · exact .inl hin
  right
  by_cases hzs : z = service
  · subst hzs
    rcases hseen hz with hstop | ⟨w, hne, hw⟩
    · rcases hz.2 with ⟨-, hnext⟩ | ⟨hdown, -⟩
      · refine ⟨z, by rw [is_unlockedAt]; exact hz.1, .inl ⟨by rw [getState_unlockedAt, hstop], ?_⟩⟩
        rw [(hview z).nextState]
        exact hnext
      · rw [hstop] at hdown
        cases hdown
    · exact ⟨w, hkept w hw hne⟩
  · exact ⟨z, hkept z hz hzs⟩

lemma exists_willRestart (hstop : stillStopping g = true)
    (hl : ph.locks service = true) (hdown : getState g service = .isDown) :
    ∃ z, z ≠ service ∧ WillRestart ph g z := by
  obtain ⟨z, hz, his⟩ := any_eq_true.mp hstop
  obtain ⟨hzstop, hzflag⟩ := of_decide_eq_true his
  have hne : z ≠ service := by
    rintro rfl
    rw [hdown] at hzstop
    cases hzstop
  have hlock := h.locks.each z (h.allocated z hz)
  have hnext : (g.svc z).nextState = none := hlock.settled (by
    rw [hlock.locked, Phase.locks_unique hl hne]
    rfl)
  exact ⟨z, hne, hzflag, .inl ⟨hzstop, by simp [hnext]⟩⟩

end

lemma WillRestart.stopping_of_ne (h : WillRestart ph g s)
    (hne : ¬ (getState g s = .isDown ∧ (g.svc s).lastRoughtState ≠ .isDown)) :
    getState g s = .isStopping := by
  rcases h.2 with ⟨hstop, -⟩ | ⟨hdown, hrough, -⟩
  · exact hstop
  · exact absurd ⟨hdown, hrough⟩ hne

lemma NoneLeft.restartCurrent {current : Sid} {rest : List Sid} {safe : Option Sid}
    (h : NoneLeft (.restarting (current :: rest) safe) g)
    (hlocks : LocksOk (.restarting rest safe) (dataRemove .restarting current g))
    (his : getState g current = .isDown) :
    NoneLeft (.restarting rest safe) (dataRemove .restarting current g) := by
  have hne (z : Sid) (hz : WillRestart (.restarting (current :: rest) safe) g z) : z ≠ current := by
    rintro rfl
    rcases hz.2 with ⟨hstop, -⟩ | ⟨-, -, -, hnot, -⟩
    · rw [his] at hstop
      cases hstop
    · exact hnot (.head _)
  set g' := dataRemove .restarting current g with hg'
  have hother (t : Sid) (ht : t ≠ current) : g'.svc t = g.svc t := by simp [hg', dataRemove, ht]
  have hflagged (t : Sid) (ht : is .restarting g' t = true) : t ≠ current := by
    rintro rfl
    simp [hg', is, dataRemove] at ht
  refine ⟨hlocks, h.allocated, fun t ht => ?_, fun y hy => ?_⟩
  · exact h.registered t (by rwa [is, hother t (hflagged t ht)] at ht)
  · have hyc : y ≠ current := hflagged y hy.1
    have hbefore : Waits g y := by
      rwa [Waits, is, getState, hother y hyc] at hy
    rcases h.waits y hbefore with hin | ⟨z, hz⟩
    · exact .inl ((mem_cons.mp hin).resolve_left hyc)
    · have hzc := hne z hz
      refine .inr ⟨z, hz.frame ?_ (.of_eq (hother z hzc)) (mem_cons_of_mem _) id⟩
      rw [is, hother z hzc]
      exact hz.1

lemma NoneLeft.advance (h : NoneLeft ph g) (hadv : Advance g ph ph' g') : NoneLeft ph' g' := by
  have hlocks := h.locks.advance hadv
  cases hadv with
  | wait => exact h
  | begin | finish => exact h.rephase hlocks (fun _ => rfl) rfl
  | take service =>
    refine h.frame hlocks h.allocated (fun _ => id) sameState_commonStateLock
      (is_commonStateLock .restarting) rfl ?_
    rintro t (hin | hl)
    · by_cases hts : t = service
      · exact .inr (by simp [Phase.locks, hts])
      · exact .inl ((mem_clearInterrupt g service).mpr ⟨hin, hts⟩)
    · cases hl
  | abort _ service safe st hlock hsafe hnext =>
    have hrest : ph.rest = [] := by cases ph <;> simp_all [Phase.locks, Phase.rest]
    refine h.entered (entered_setInterrupt fun a => ⟨0, rfl⟩) hlocks hrest.symm ?_ ?_
    · intro t hts hl
      rw [Phase.locks_unique hlock hts] at hl
      cases hl
    · intro hw
      rcases hw.2 with ⟨hstop, hst⟩ | ⟨-, -, hnone, -⟩
      · exact .inl ⟨hstop, (hst st hnext).imp_right fun hdown => ⟨hdown, by simp [hrest]⟩⟩
      · rw [hnext] at hnone
        cases hnone
  | quiet service state safe hnext hrough =>
    refine h.unlockedAt hlocks (by simp [Phase.locks]) rfl fun hw => ?_
    exact .inl (hw.stopping_of_ne fun hne => hne.2 (hrough.trans hne.1))
  | send service state safe =>
    refine h.frame hlocks h.allocated (fun _ => id) (fun t => ?_) (fun t => ?_) rfl fun _ => id
    · exact (sameState_unlockedAt t).trans (sameState_commonStateLock t)
    · exact (is_commonStateLock .restarting t).trans (is_unlockedAt .restarting t)
  | up service safe hnext his =>
    have hleft : NoneLeft (.init safe) (Initng.unlockedAt service g) :=
      h.unlockedAt (h.locks.settled hnext (fun _ => rfl) fun _ => id) (by simp [Phase.locks]) rfl fun hw =>
        .inl (hw.stopping_of_ne fun hne => his hne.1)
    refine hleft.frame hlocks ?_ (by simp) (fun t => .of_eq (by simp)) (fun t => by simp [is]) rfl ?_
    · simpa using hleft.allocated
    · simp [Pending]
  | settle service safe hnext his =>
    refine h.unlockedAt hlocks (by simp [Phase.locks]) rfl fun hw => ?_
    by_cases hdown : getState g service = .isDown
    · exact .inr (exists_willRestart h (his hdown hw.1) (by simp [Phase.locks]) hdown)
    · exact .inl (hw.stopping_of_ne fun hne => hdown hne.1)
  | restart service safe =>
    refine ⟨hlocks, h.allocated, fun t ht => h.registered t (by simpa using ht), fun y hy => ?_⟩
    exact .inl (h.registered y (by simpa using hy.1))
  | start current rest safe his hflag => exact h.restartCurrent hlocks his
  | skip current rest safe hnot =>
    refine ⟨hlocks, h.allocated, h.registered, fun y hy => ?_⟩
    rcases h.waits y hy with hin | ⟨z, hz⟩
    · rcases mem_cons.mp hin with rfl | hin
      · exact absurd ⟨hy.2, hy.1⟩ hnot
      · exact .inl hin
    · exact .inr ⟨z, hz.frame hz.1 (.of_eq rfl) (mem_cons_of_mem _) id⟩
  | restarted | entered | done => exact h.rephase hlocks (fun _ => rfl) rfl

end

lemma NoneLeft.apply {c : Core} (h : NoneLeft c.phase c.g) {act : Act} (hk : act.keepsRestart c) :
    NoneLeft (act.apply c).phase (act.apply c).g := by
  cases act with
  | advance => exact h.advance (Core.advance_cases h.locks)
  | _ => exact h.applyG hk

lemma noneLeft_configGlobalNew (now : Timeval) : NoneLeft .idle (configGlobalNew now) where
  locks := locksOk_configGlobalNew now
  allocated _ h := absurd h not_mem_nil
  registered _ h := by simp [is, configGlobalNew, ActiveType.ofName] at h
  waits _ h := by simp [Waits, is, configGlobalNew, ActiveType.ofName] at h

/-- Modules whose stop hooks mark a service that is up with a stopping state or do nothing,
and whose restart hooks do nothing. -/
structure StoppingModules extends Modules where
  stop_marks : ∀ {type hook}, toModules.stop type = some hook → ∀ {s g}, getState g s = .isUp →
    (hook s g).2 = g ∨
      ∃ st : AState, st.is = .isStopping ∧ (hook s g).2 = (commonMarkService s st g).2
  restart_quiet : ∀ {type hook}, toModules.restart type = some hook → ∀ s g, (hook s g).2 = g

/-- What a call does: it marks registered services that are not down for restarting, calls
stop hooks, and marks services that are up with stopping states. -/
inductive Stops (g : G) : G → Prop
  | refl : Stops g g
  | flag {g' : G} (s : Sid) (h : Stops g g') (hs : s ∈ g'.activeDb)
    (hne : getState g' s ≠ .isDown) : Stops g (set .restarting s g')
  | call {g' : G} (s : Sid) (h : Stops g g') : Stops g (g'.observe (.stop s))
  | mark {g' : G} {s : Sid} {st : AState} (h : Stops g g') (hs : s ∈ g'.activeDb)
    (hup : getState g' s = .isUp) (hst : st.is = .isStopping) :
    Stops g (commonMarkService s st g').2

namespace Stops

variable {g g' g'' : G}

lemma trans (h : Stops g g') (h' : Stops g' g'') : Stops g g'' := by
  induction h' with
  | refl => exact h
  | flag s _ hs hne ih => exact .flag s ih hs hne
  | call s _ ih => exact .call s ih
  | mark _ hs hup hst ih => exact .mark ih hs hup hst

lemma activeDb (h : Stops g g') : g'.activeDb = g.activeDb := by
  induction h with
  | refl => rfl
  | flag s _ _ _ ih => exact (set_activeDb _ _ _).trans ih
  | call s _ ih => exact ih
  | mark _ _ _ _ ih => exact (commonMarkService_activeDb ..).trans ih

lemma state (h : Stops g g') (t : Sid) : getState g' t = getState g t ∨
    (getState g t = .isUp ∧ getState g' t = .isStopping) := by
  induction h with
  | refl => exact .inl rfl
  | flag s _ _ _ ih => rwa [getState_set]
  | call s _ ih => exact ih
  | @mark g' s st _ _ hup hst ih =>
    by_cases hts : t = s
    · subst hts
      have hwas : getState g t = .isUp := by
        rcases ih with ih | ⟨hwas, -⟩
        · exact ih.symm.trans hup
        · exact hwas
      rcases commonMarkService_currentState g' t st with he | he
      · exact .inl (by rw [getState, he]; exact hup.trans hwas.symm)
      · exact .inr ⟨hwas, by rw [getState, he, hst]⟩
    · rwa [getState, commonMarkService_svc_ne _ _ hts]

end Stops

section
variable {ph : Phase} {g : G} {s : Sid} (m : StoppingModules)

lemma stops_handlerStopService (hs : s ∈ g.activeDb)
    (hstate : getState g s = .isUp ∨ getState g s = .isStopping) :
    Stops g (handlerStopService m.toModules s g).2 := by
  rcases handlerStopService_cases m.toModules s g with he | ⟨type, hook, -, hhook, hrough, he⟩
  · rw [he]
    exact .refl
  · have hup : getState g s = .isUp := by
      rcases hstate with hup | hstop
      · exact hup
      · simp [hstop] at hrough
    rw [he]
    rcases m.stop_marks hhook (s := s) (g := g.observe (.stop s)) hup with hquiet | ⟨st, hst, hmark⟩
    · rw [hquiet]
      exact .call s .refl
    · rw [hmark]
      exact .mark (.call s .refl) hs hup hst

lemma stops_dependRestartDeps {restart : Sid → G → Option (Bool × G)}
    (hcall : ∀ t g r, t ∈ g.activeDb → restart t g = some r → Stops g r.2)
    {l : List Sid} (hl : ∀ t ∈ l, t ∈ g.activeDb) {g' : G}
    (hrun : dependRestartDeps restart m.toModules s l g = some g') : Stops g g' := by
  induction l generalizing g with
  | nil =>
    obtain rfl : g = g' := by simpa [dependRestartDeps] using hrun
    exact .refl
  | cons t l ih =>
    have hrest (t' : Sid) (ht' : t' ∈ l) : t' ∈ g.activeDb := hl t' (.tail _ ht')
    rw [dependRestartDeps] at hrun
    split_ifs at hrun
    · exact ih hrest hrun
    · obtain ⟨r, hr, hrun⟩ := Option.bind_eq_some_iff.mp hrun
      have hstep := hcall t g r (hl t (.head _)) hr
      refine hstep.trans (ih (fun t' ht' => ?_) hrun)
      rw [hstep.activeDb]
      exact hrest t' ht'
    · exact ih hrest hrun

lemma stops_handlerRestartService (fuel : ℕ) (hs : s ∈ g.activeDb) {r : Bool × G}
    (hrun : handlerRestartService m.toModules fuel s g = some r) : Stops g r.2 := by
  induction fuel generalizing s g r with
  | zero => simp [handlerRestartService] at hrun
  | succ fuel ih =>
    rw [handlerRestartService] at hrun
    split_ifs at hrun with htype hup
    iterate 2
      cases hrun
      exact .refl
    obtain ⟨g₁, hdeps, rfl⟩ := Option.map_eq_some_iff.mp hrun
    have h₁ : Stops g g₁ :=
      stops_dependRestartDeps m (fun t g r hmem hr => ih hmem hr) (fun _ => id) hdeps
    cases hhook : (g₁.svc s).type.bind m.restart with
    | none =>
      have hmem : s ∈ g₁.activeDb := by rwa [h₁.activeDb]
      have hstate : getState g₁ s = .isUp ∨ getState g₁ s = .isStopping := by
        rcases h₁.state s with hsame | ⟨-, hstop⟩
        · exact .inl (hsame.trans (by simpa using hup))
        · exact .inr hstop
      have hflag : Stops g (set .restarting s g₁) :=
        h₁.flag s hmem (by rcases hstate with hst | hst <;> rw [hst] <;> decide)
      exact hflag.trans (stops_handlerStopService m (by rwa [set_activeDb]) (by rwa [getState_set]))
    | some hook =>
      obtain ⟨type, -, hrestart⟩ := Option.bind_eq_some_iff.mp hhook
      rwa [m.restart_quiet hrestart s g₁]

end

lemma NoneLeft.stops {ph : Phase} {g g' : G} (h : NoneLeft ph g) (hstops : Stops g g') :
    NoneLeft ph g' := by
  induction hstops with
  | refl => exact h
  | flag s _ hs hne ih => exact ih.flag hs hne
  | @call g' s _ ih =>
    have hcall : NoneLeft ph ((Act.call (.stop s)).applyG g') := ih.applyG trivial
    exact hcall
  | @mark g' s st _ hs hup _ ih =>
    refine ih.mark (ih.allocated s hs) fun hw => ?_
    rcases hw.2 with ⟨hst, -⟩ | ⟨hst, -⟩ <;> cases hup.symm.trans hst

inductive CoreStep
  | restart (m : StoppingModules) (fuel : ℕ) (s : Sid)
  | act (a : Act)

/-- A call that does not return leaves the core where it was. -/
def CoreStep.apply : CoreStep → Core → Core
  | restart m fuel s, c =>
    if s ∈ c.g.activeDb then
      match handlerRestartService m.toModules fuel s c.g with
      | some r => ⟨c.phase, r.2⟩
      | none => c
    else c
  | act a, c => a.apply c

def Core.runSteps (steps : List CoreStep) (c : Core) : Core :=
  steps.foldl (fun c step => step.apply c) c

def KeepsRestart : Core → List CoreStep → Prop
  | _, [] => True
  | c, .restart m fuel s :: steps => KeepsRestart ((CoreStep.restart m fuel s).apply c) steps
  | c, .act a :: steps => a.keepsRestart c ∧ KeepsRestart (a.apply c) steps

lemma NoneLeft.runSteps {c : Core} (h : NoneLeft c.phase c.g) {steps : List CoreStep}
    (hk : KeepsRestart c steps) : NoneLeft (c.runSteps steps).phase (c.runSteps steps).g := by
  induction steps generalizing c with
  | nil => exact h
  | cons step steps ih =>
    cases step with
    | act a => exact ih (h.apply hk.1) hk.2
    | restart m fuel s =>
      refine ih ?_ hk
      simp only [CoreStep.apply]
      split_ifs with hs
      · cases hrun : handlerRestartService m.toModules fuel s c.g with
        | none => exact h
        | some r => exact h.stops (stops_handlerRestartService m fuel hs hrun)
      · exact h

/-- In a run whose marks all keep the restart, whenever no interrupt is left to be handled
and no `RESTARTING` service is stopping, none of them is down. -/
theorem restarting_none_left (now : Timeval) (steps : List CoreStep)
    (hk : KeepsRestart ⟨.idle, configGlobalNew now⟩ steps) :
    let c := Core.runSteps steps ⟨.idle, configGlobalNew now⟩
    c.phase = .idle → c.g.interrupt = [] →
      (∀ s, is .restarting c.g s = true → getState c.g s ≠ .isStopping) →
        ∀ s, is .restarting c.g s = true → getState c.g s ≠ .isDown := by
  intro c hidle hempty hnone s hflag hdown
  have h : NoneLeft c.phase c.g := (noneLeft_configGlobalNew now).runSteps hk
  rcases h.waits s ⟨hflag, hdown⟩ with hin | ⟨z, hz, hstop | ⟨-, -, -, -, hpending⟩⟩
  · simp [hidle, Phase.rest] at hin
  · exact hnone z hz hstop.1
  · simp [Pending, hempty, hidle, Phase.locks] at hpending

def typeStopping : StoppingModules where
  toModules := typeModules
  stop_marks := by
    intro type hook hhook s g hup
    obtain ⟨waiting, back, marked, rfl, hwaiting, hmarked⟩ := typeModules_stop_some hhook
    have hne : (g.svc s).currentState ≠ waiting := by
      rintro rfl
      rw [show getState g s = .isStarting from hwaiting] at hup
      cases hup
    exact .inr ⟨marked, hmarked, by rw [turnHook, if_neg hne]⟩
  restart_quiet h := by cases h

def interruptRound : List CoreStep := replicate 11 (.act .advance)

def cleanRestart : List CoreStep :=
  [.act (.new "a"), .act (.setup 0 (some ⟨"daemon"⟩) []), .act (.register 0),
    .act (.mark 0 .daemonRunning)] ++ interruptRound ++
  [.restart typeStopping 3 0] ++ interruptRound ++
  [.act (.mark 0 .daemonStopped)] ++ interruptRound

theorem restarting_none_left_clean :
    KeepsRestart ⟨.idle, configGlobalNew ⟨0, 0⟩⟩ cleanRestart ∧
    ∀ s, is .restarting (Core.runSteps cleanRestart ⟨.idle, configGlobalNew ⟨0, 0⟩⟩).g s = true →
      getState (Core.runSteps cleanRestart ⟨.idle, configGlobalNew ⟨0, 0⟩⟩).g s ≠ .isDown := by
  have hk : KeepsRestart ⟨.idle, configGlobalNew ⟨0, 0⟩⟩ cleanRestart := by
    simp only [cleanRestart, interruptRound, replicate, cons_append, nil_append,
      KeepsRestart, Act.keepsRestart, true_and, and_true]
    refine ⟨fun hw => ?_, fun _ _ _ => .inl ⟨by decide +kernel, .inr ⟨rfl, by decide +kernel⟩⟩⟩
    exact absurd hw.1 (by decide +kernel)
  refine ⟨hk, restarting_none_left ⟨0, 0⟩ cleanRestart hk rfl (by decide +kernel) fun s => ?_⟩
  match s with
  | 0 => decide +kernel
  | s + 1 => exact fun h => by cases h

/-- `"b"` needs `"a"`, which is restarted.  `"b"` stops and waits for `"a"`, whose stop
fails. -/
def failedRestart : List CoreStep :=
  [.act (.new "a"), .act (.setup 0 (some ⟨"daemon"⟩) []), .act (.register 0),
    .act (.new "b"), .act (.setup 1 (some ⟨"daemon"⟩) [⟨.need, some "a", none⟩]),
    .act (.register 1), .act (.mark 0 .daemonRunning), .act (.mark 1 .daemonRunning)] ++
  interruptRound ++ [.restart typeStopping 3 0] ++ interruptRound ++
  [.act (.mark 1 .daemonStopped)] ++ interruptRound ++
  [.act (.mark 0 .daemonFailStopping)] ++ interruptRound

theorem restarting_left_behind :
    ¬ ∀ steps : List CoreStep, let c := Core.runSteps steps ⟨.idle, configGlobalNew ⟨0, 0⟩⟩
      c.phase = .idle → c.g.interrupt = [] →
        (∀ s, is .restarting c.g s = true → getState c.g s ≠ .isStopping) →
          ∀ s, is .restarting c.g s = true → getState c.g s ≠ .isDown := by
  intro h
  refine h failedRestart rfl (by decide +kernel) (fun s => ?_) 1 (by decide +kernel)
    (by decide +kernel)
  match s with
  | 0 | 1 => decide +kernel
  | s + 2 => exact fun hflag => by cases hflag

end Initng
