import Initng.Interrupt
import Initng.ServiceTypes

namespace Initng

/-- The rough state a service had when it was last announced or registered. -/
def announced (s : Sid) : List Obs → Option EIs
  | [] => none
  | .registered t is :: rest => if t = s then some is else announced s rest
  | .isChange t is :: rest => if t = s then some is else announced s rest
  | .start _ :: rest => announced s rest
  | .stop _ :: rest => announced s rest

/-- No mark that takes effect puts the service into another state of the same rough state
before that rough state is announced. -/
def Act.truthful (act : Act) (c : Core) : Prop :=
  match act with
  | .mark s state =>
    ∀ is, announced s c.g.trace = some is → is ≠ getState c.g s → state.is = getState c.g s →
      state = (c.g.svc s).currentState ∨ (c.g.svc s).nextState.isSome
  | _ => True

def Truthful : Core → List Act → Prop
  | _, [] => True
  | c, act :: acts => act.truthful c ∧ Truthful (act.apply c) acts

def Phase.handles (s : Sid) : Phase → Bool
  | stateChange t _ _ => t = s
  | _ => false

lemma Phase.handles_of_locks {s : Sid} {ph : Phase} (h : ph.locks s = false) :
    ph.handles s = false := by
  cases ph <;> simp_all [locks, handles]

/-- The invariant of one service.  `quiet` is the property itself; `same` and `recorded`
say that a change which `handle` will not announce needs no announcement. -/
structure ToldOf (ph : Phase) (g : G) (s : Sid) : Prop where
  quiet : ∀ is, announced s g.trace = some is → s ∉ g.interrupt →
    ph.handles s = false → is = getState g s
  same : ∀ is, announced s g.trace = some is →
    (g.svc s).lastRoughtState = getState g s → is = getState g s
  recorded : ∀ is state, announced s g.trace = some is →
    (g.svc s).nextState = some state → state.is = getState g s → is = getState g s
  sent : ∀ is safe, ph = .isChange s safe → announced s g.trace = some is → is = getState g s

structure Told (ph : Phase) (g : G) : Prop where
  locks : LocksOk ph g
  known : ∀ s, (announced s g.trace).isSome → s < g.brk
  each : ∀ s, s < g.brk → ToldOf ph g s

section
variable {ph ph' : Phase} {g g' : G} {s service : Sid}

lemma ToldOf.frame (h : ToldOf ph g s) (hview : SameView (g.svc s) (g'.svc s))
    (hann : announced s g'.trace = announced s g.trace)
    (hlist : s ∈ g.interrupt → s ∈ g'.interrupt)
    (hphase : ph' = ph ∨ ph.locks s = false ∧ ph'.locks s = false) : ToldOf ph' g' s := by
  have his : getState g' s = getState g s := by rw [getState, getState, hview.currentState]
  refine ⟨?_, ?_, ?_, ?_⟩
  · intro is ha hnot hh
    rw [his]
    refine h.quiet is (hann ▸ ha) (fun hin => hnot (hlist hin)) ?_
    rcases hphase with hp | ⟨hp, -⟩
    · rwa [← hp]
    · exact Phase.handles_of_locks hp
  · intro is ha hr
    rw [hview.lastRoughtState, his] at hr
    rw [his]
    exact h.same is (hann ▸ ha) hr
  · intro is state ha hn hst
    rw [hview.nextState] at hn
    rw [his] at hst ⊢
    exact h.recorded is state (hann ▸ ha) hn hst
  · intro is safe hp ha
    rw [his]
    rcases hphase with hp' | ⟨-, hp'⟩
    · exact h.sent is safe (hp' ▸ hp) (hann ▸ ha)
    · simp [hp, Phase.locks] at hp'

lemma ToldOf.of_announced (h : ∀ is, announced s g.trace = some is → is = getState g s) :
    ToldOf ph g s :=
  ⟨fun is ha _ _ => h is ha, fun is ha _ => h is ha, fun is _ ha _ _ => h is ha,
    fun is _ _ ha => h is ha⟩

variable {st : AState}

lemma ToldOf.enter {now : Timeval} {f : ActiveType → ActiveType}
    (hf : ∀ a, ∃ lock, f a = { a.enter st now with stateLock := lock }) (hfree : ph.locks s = false)
    (hsame : ∀ is, announced s g.trace = some is → st.is = getState g s → is = getState g s) :
    ToldOf ph (setInterrupt s (g.modify s f)) s := by
  obtain ⟨lock, hlock⟩ := hf (g.svc s)
  refine ⟨?_, ?_, ?_, ?_⟩
  · intro is _ hnot
    exact absurd ((mem_setInterrupt _ _ _).mpr (.inr rfl)) hnot
  · intro is ha hrough
    simp only [setInterrupt_svc, G.modify_svc_self, hlock, ActiveType.enter, getState] at hrough ⊢
    rw [← hrough]
    exact hsame is (by simpa using ha) hrough.symm
  · simp [hlock, ActiveType.enter]
  · intro is safe hp
    simp [hp, Phase.locks] at hfree

section
variable (h : Told ph g)
include h

lemma Told.frame (hlocks : LocksOk ph' g') (hbrk : g'.brk = g.brk)
    (hview : ∀ s, SameView (g.svc s) (g'.svc s))
    (hann : ∀ s, announced s g'.trace = announced s g.trace)
    (hlist : g'.interrupt = g.interrupt)
    (hphase : ∀ s, ph' = ph ∨ ph.locks s = false ∧ ph'.locks s = false) : Told ph' g' where
  locks := hlocks
  known s hs := by
    rw [hbrk]
    exact h.known s (hann s ▸ hs)
  each s hs := by
    rw [hbrk] at hs
    exact (h.each s hs).frame (hview s) (hann s) (by rw [hlist]; exact id) (hphase s)

lemma Told.mark (hs : s < g.brk) (ht : (Act.mark s st).truthful ⟨ph, g⟩) :
    Told ph (commonMarkService s st g).2 := by
  have hlocks := h.locks.mark hs st
  have hself := h.each s hs
  have hlock := h.locks.each s hs
  rcases commonMarkService_cases st hlock.settled with he | ⟨hl, hn, hc, he⟩ | ⟨hl, hc, he⟩
  · rwa [he]
  · -- the state is recorded until `handle` unlocks the service
    rw [he] at hlocks ⊢
    refine ⟨hlocks, h.known, fun t ht' => ?_⟩
    by_cases hts : t = s
    · subst hts
      refine ⟨by simpa [getState] using hself.quiet, by simpa [getState] using hself.same, ?_,
        by simpa [getState] using hself.sent⟩
      intro is state ha hnext his
      obtain rfl : st = state := by simpa using hnext
      by_contra hne
      have := ht is ha (by simpa [getState] using hne) (by simpa [getState] using his)
      simp [hn, Ne.symm hc] at this
    · exact (h.each t ht').frame (.of_eq (by simp [hts])) rfl id (.inl rfl)
  · rw [he] at hlocks ⊢
    refine ⟨hlocks, by simpa using h.known, fun t ht' => ?_⟩
    by_cases hts : t = s
    · subst hts
      refine .enter (fun a => ⟨_, rfl⟩) (hlock.free hl) fun is ha his => ?_
      by_contra hne
      rcases ht is ha hne his with hcur | hnext
      · exact hc hcur.symm
      · simp [hlock.settled hl] at hnext
    · exact (h.each t (by simpa using ht')).frame (.of_eq (by simp [hts])) (by simp)
        (fun hin => (mem_setInterrupt _ _ _).mpr (.inl hin)) (.inl rfl)

lemma Told.new (name : String) : Told ph (activeDbNew name g).2 := by
  refine ⟨h.locks.new name, fun s hs => Nat.lt_succ_of_lt (h.known s hs), fun s hs => ?_⟩
  by_cases hbrk : s = g.brk
  · -- nothing was announced about memory that was not allocated
    subst hbrk
    refine .of_announced fun is ha => ?_
    exact absurd (h.known g.brk (by rw [show announced g.brk g.trace = some is from ha]; rfl))
      (Nat.lt_irrefl _)
  · have hlt : s < g.brk := Nat.lt_of_le_of_ne (Nat.le_of_lt_succ hs) hbrk
    exact (h.each s hlt).frame (.of_eq (by simp [activeDbNew, hbrk])) rfl id
      (.inl rfl)

lemma Told.register (hs : s < g.brk) : Told ph (activeDbRegister s g).2 := by
  unfold activeDbRegister
  split_ifs
  · exact h
  refine ⟨h.locks.sameViews rfl (fun _ => .of_eq rfl) rfl, fun t ht => ?_, fun t ht => ?_⟩
  · by_cases hts : s = t
    · exact hts ▸ hs
    · exact h.known t (by simpa [announced, hts] using ht)
  by_cases hts : s = t
  · -- what was just registered is as it was registered
    subst hts
    refine .of_announced fun is ha => ?_
    simpa [announced, getState, eq_comm] using ha
  · exact (h.each t ht).frame (.of_eq rfl) (by simp [announced, hts]) id (.inl rfl)

lemma Told.sameViews (hbrk : g'.brk = g.brk)
    (hview : ∀ s, SameView (g.svc s) (g'.svc s))
    (hann : ∀ s, announced s g'.trace = announced s g.trace)
    (hlist : g'.interrupt = g.interrupt) : Told ph g' :=
  h.frame (h.locks.sameViews hbrk hview hlist) hbrk hview hann hlist fun _ => .inl rfl

lemma Told.applyG {act : Act} (ht : act.truthful ⟨ph, g⟩) : Told ph (act.applyG g) := by
  have hacted := act.acted g
  generalize act.applyG g = g' at hacted ⊢
  cases hacted with
  | same => exact h
  | mark s state hs => exact h.mark hs ht
  | new name => exact h.new name
  | setup s =>
    exact h.sameViews rfl (fun t => .modify s t fun _ => ⟨rfl, rfl, rfl, rfl⟩) (fun _ => rfl) rfl
  | register s hs => exact h.register hs
  | flag s =>
    exact h.sameViews (set_brk ..) (fun t => .set s t) (fun _ => by simp) (set_interrupt ..)
  | start | stop => exact h.sameViews rfl (fun _ => .of_eq rfl) (fun _ => rfl) rfl

lemma Told.rephase (hlocks : LocksOk ph' g) (hfree : ∀ s, ph.locks s = false)
    (hfree' : ∀ s, ph'.locks s = false) : Told ph' g :=
  h.frame hlocks rfl (fun _ => .of_eq rfl) (fun _ => rfl) rfl fun s => .inr ⟨hfree s, hfree' s⟩

lemma Told.unlockedAt (hlocks : LocksOk ph' (unlockedAt service g))
    (hl : ph.locks service = true) (hfree : ∀ s, ph'.locks s = false)
    (hq : ∀ is, announced service g.trace = some is → is = getState g service) :
    Told ph' (unlockedAt service g) := by
  refine ⟨hlocks, h.known, fun s hs => ?_⟩
  by_cases hss : s = service
  · subst hss
    exact .of_announced fun is ha => by simpa using hq is ha
  · exact (h.each s hs).frame (.of_eq (by simp [Initng.unlockedAt, hss])) rfl id
      (.inr ⟨Phase.locks_unique hl hss, hfree s⟩)

end

variable {safe : Option Sid}

lemma Told.settled (h : Told (.isChange service safe) g)
    (hlocks : LocksOk ph' (Initng.unlockedAt service g)) (hfree : ∀ s, ph'.locks s = false) :
    Told ph' (Initng.unlockedAt service g) :=
  h.unlockedAt hlocks (by simp [Phase.locks]) hfree fun is ha =>
    (h.each service (h.locks.mentioned service (.inl rfl))).sent is safe rfl ha

lemma Told.take {state : AState} (h : Told (.next (some service)) g)
    (hlocks : LocksOk (.stateChange service state safe)
      (commonStateLock service (clearInterrupt service g))) :
    Told (.stateChange service state safe)
      (commonStateLock service (clearInterrupt service g)) := by
  refine ⟨hlocks, h.known, fun s hs => ?_⟩
  have hself := h.each s hs
  by_cases hss : s = service
  · subst hss
    have hn : (g.svc s).nextState = none := (h.locks.each s hs).settled (by
      simpa [Phase.locks] using (h.locks.each s hs).locked)
    refine ⟨?_, by simpa [commonStateLock, getState] using hself.same, ?_, by simp⟩
    · intro is _ _ hh
      simp [Phase.handles] at hh
    · simp [commonStateLock, hn]
  · refine hself.frame (.of_eq ?_) rfl (fun hin => ?_) (.inr ⟨rfl, ?_⟩)
    · rw [commonStateLock_svc_ne _ hss]
      rfl
    · exact (mem_clearInterrupt g service).mpr ⟨hin, hss⟩
    · simp [Phase.locks, Ne.symm hss]

lemma Told.send {state : AState}
    (h : Told (.stateChange service state safe) g)
    (hlocks : LocksOk (.isChange service safe)
      ((commonStateLock service (Initng.unlockedAt service g)).observe
        (.isChange service (getState g service)))) :
    Told (.isChange service safe) ((commonStateLock service (Initng.unlockedAt service g)).observe
      (.isChange service (getState g service))) := by
  refine ⟨hlocks, fun s hs => ?_, fun s hs => ?_⟩
  · by_cases hss : service = s
    · exact hss ▸ h.locks.mentioned service (.inl rfl)
    · exact h.known s (by simpa [announced, hss, Initng.unlockedAt] using hs)
  by_cases hss : s = service
  · subst hss
    refine .of_announced fun is ha => ?_
    have hnow : is = getState g s := by simpa [announced, eq_comm] using ha
    rw [hnow]
    simp [getState, commonStateLock, Initng.unlockedAt]
  · refine (h.each s hs).frame (.of_eq ?_) ?_ id (.inr ⟨?_, ?_⟩)
    · rw [G.observe_svc, commonStateLock_svc_ne _ hss]
      simp [Initng.unlockedAt, hss]
    · simp [announced, Ne.symm hss, Initng.unlockedAt]
    all_goals simp [Phase.locks, Ne.symm hss]

lemma Told.advance (h : Told ph g) (hadv : Advance g ph ph' g') : Told ph' g' := by
  have hlocks := h.locks.advance hadv
  cases hadv with
  | wait => exact h
  | begin | finish => exact h.rephase hlocks (fun _ => rfl) fun _ => rfl
  | take service => exact h.take hlocks
  | abort _ service safe st hlock _ hnext =>
    refine ⟨hlocks, by simpa using h.known, fun s hs => ?_⟩
    have hself := h.each s (by simpa using hs)
    by_cases hss : s = service
    · subst hss
      exact .enter (fun a => ⟨0, rfl⟩) rfl fun is ha his => hself.recorded is st ha hnext his
    · exact hself.frame (.of_eq (by simp [hss])) (by simp)
        (fun hin => (mem_setInterrupt _ _ _).mpr (.inl hin))
        (.inr ⟨Phase.locks_unique hlock hss, rfl⟩)
  | quiet service state safe hnext hrough =>
    have hs : service < g.brk := h.locks.mentioned service (.inl rfl)
    exact h.unlockedAt hlocks (by simp [Phase.locks]) (fun _ => rfl) fun is ha =>
      (h.each service hs).same is ha hrough
  | send service state safe => exact h.send hlocks
  | up service safe hnext =>
    have hrel : Told (.init safe) (Initng.unlockedAt service g) :=
      h.settled (h.locks.settled hnext (fun _ => rfl) fun _ => id) fun _ => rfl
    exact hrel.sameViews (by simp) (fun _ => .of_eq (by simp)) (fun _ => by simp) (by simp)
  | settle | restart => exact h.settled hlocks fun _ => rfl
  | start current rest safe =>
    refine h.frame hlocks rfl (fun t => ?_) (fun _ => rfl) rfl fun _ => .inr ⟨rfl, rfl⟩
    exact .modify current t fun _ => ⟨rfl, rfl, rfl, rfl⟩
  | skip | restarted | entered | done => exact h.rephase hlocks (fun _ => rfl) fun _ => rfl

end

lemma Told.apply {c : Core} (h : Told c.phase c.g) {act : Act} (ht : act.truthful c) :
    Told (act.apply c).phase (act.apply c).g := by
  cases act with
  | advance => exact h.advance (Core.advance_cases h.locks)
  | _ => exact h.applyG ht

lemma Told.run {c : Core} (h : Told c.phase c.g) {acts : List Act} (ht : Truthful c acts) :
    Told (c.run acts).phase (c.run acts).g := by
  induction acts generalizing c with
  | nil => exact h
  | cons act acts ih => exact ih (h.apply ht.1) ht.2

lemma told_configGlobalNew (now : Timeval) : Told .idle (configGlobalNew now) where
  locks := locksOk_configGlobalNew now
  known _ h := by simp [configGlobalNew, announced] at h
  each _ h := absurd h (Nat.not_lt_zero _)

/-- In a run whose marks are all truthful, whenever no interrupt is left to be handled, each
registered service was last announced in the rough state it is in. -/
theorem isChange_announced (now : Timeval) (acts : List Act)
    (ht : Truthful ⟨.idle, configGlobalNew now⟩ acts) :
    let c := Core.run acts ⟨.idle, configGlobalNew now⟩
    c.phase = .idle → c.g.interrupt = [] →
      ∀ s is, announced s c.g.trace = some is → is = getState c.g s := by
  intro c hidle hempty s is ha
  have h : Told c.phase c.g := Told.run (told_configGlobalNew now) ht
  have hs : s < c.g.brk := h.known s (by simp [ha])
  exact (h.each s hs).quiet is ha (by simp [hempty]) (by simp [hidle, Phase.handles])

def startedDaemon : List Act :=
  [.new "a", .register 0, .mark 0 .daemonStartMarked] ++ List.replicate 7 .advance

theorem isChange_announced_started :
    let c := Core.run startedDaemon ⟨.idle, configGlobalNew ⟨0, 0⟩⟩
    c.phase = .idle → c.g.interrupt = [] →
      ∀ s is, announced s c.g.trace = some is → is = getState c.g s := by
  refine isChange_announced ⟨0, 0⟩ startedDaemon ?_
  simp only [startedDaemon, List.replicate, List.cons_append, List.nil_append, Truthful,
    Act.truthful, true_and, and_true]
  intro is _ _ hsame
  exact absurd hsame (by decide)

/-- Marked for starting and, before that is handled, for waiting: `handle` compares the two
starting states and announces neither. -/
def hiddenStart : List Act :=
  [.new "a", .register 0, .mark 0 .daemonStartMarked, .mark 0 .daemonWaitingForStartDep] ++
    List.replicate 6 .advance

theorem isChange_hidden :
    ¬ ∀ acts : List Act, let c := Core.run acts ⟨.idle, configGlobalNew ⟨0, 0⟩⟩
      c.phase = .idle → c.g.interrupt = [] →
        ∀ s is, announced s c.g.trace = some is → is = getState c.g s := by
  intro h
  have hbad := h hiddenStart rfl (by decide) 0 .isDown (by decide)
  exact absurd hbad (by decide)

end Initng
