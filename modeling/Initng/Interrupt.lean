import Initng.Handler
import Initng.ListCursor
import Initng.StateLock

/-! `interrupt/interrupt.c` and `interrupt/handle.c`. -/

namespace Initng

/-- Where `initng_interrupt` stands: `safe` is what its loop will take next, and `rest` what the
second loop of `restart_restarting` has still to look at. -/
inductive Phase
  | idle
  | next (service : Option Sid)
  | stateChange (service : Sid) (state : AState) (safe : Option Sid)
  | isChange (service : Sid) (safe : Option Sid)
  | restarting (rest : List Sid) (safe : Option Sid)
  | init (safe : Option Sid)
  | handlers

structure Core where
  phase : Phase
  g : G

def interruptAfter (l : List Sid) (x : Sid) : Option Sid := (l.dropWhile (· ≠ x)).tail.head?

def clearInterrupt (s : Sid) (g : G) : G := { g with interrupt := g.interrupt.filter (· ≠ s) }

def checkSysStateUp (g : G) : G :=
  if g.sysState = .stateStarting ∧ g.activeDb.all (fun s => getState g s ≠ .isStarting)
  then { g with sysState := .stateUp } else g

def Core.advance : Core → Core
  | ⟨.idle, g⟩ =>
    match g.interrupt with
    | [] => ⟨.idle, g⟩
    | service :: _ => ⟨.next (some service), g⟩
  | ⟨.next none, g⟩ => ⟨.handlers, g⟩
  | ⟨.next (some service), g⟩ =>
    ⟨.stateChange service (g.svc service).currentState (interruptAfter g.interrupt service),
      commonStateLock service (clearInterrupt service g)⟩
  | ⟨.stateChange service state safe, g⟩ =>
    -- abort if the state has changed since the event was sent
    let u := commonStateUnlock service g
    if u.1 then ⟨.next safe, u.2⟩
    else if (u.2.svc service).lastRoughtState ≠ state.is then
      ⟨.isChange service safe,
        (commonStateLock service u.2).observe (.isChange service (getState u.2 service))⟩
    else ⟨.init safe, u.2⟩
  | ⟨.isChange service safe, g⟩ =>
    let u := commonStateUnlock service g
    if u.1 then ⟨.next safe, u.2⟩
    else
      match getState u.2 service with
      -- `dep_failed_to_start` is empty
      | .isFailed | .isUp => ⟨.init safe, checkSysStateUp u.2⟩
      | .isDown =>
        if is .restarting u.2 service ∧ ¬ stillStopping u.2
        then ⟨.restarting u.2.activeDb safe, u.2⟩ else ⟨.init safe, u.2⟩
      | _ => ⟨.init safe, u.2⟩
  | ⟨.restarting [] safe, g⟩ => ⟨.init safe, g⟩
  | ⟨.restarting (current :: rest) safe, g⟩ =>
    -- the call of `initng_handler_start_service` that follows is made of acts
    if getState g current = .isDown ∧ is .restarting g current
    then ⟨.restarting rest safe, dataRemove .restarting current g⟩
    else ⟨.restarting rest safe, g⟩
  | ⟨.init safe, g⟩ => ⟨.next safe, g⟩
  | ⟨.handlers, g⟩ => ⟨.idle, g⟩

inductive Act
  | mark (s : Sid) (state : AState)
  | new (name : String)
  | setup (s : Sid) (type : Option Stype) (data : List SData)
  | register (s : Sid)
  | flag (s : Sid)
  | call (o : Obs)
  | advance

def Act.subject : Act → Option Sid
  | mark s _ | setup s _ _ | register s | flag s => some s
  | new _ | call _ | advance => none

/-- The acts need the memory of the service to be allocated.  An act that the code never
makes in this state does nothing. -/
def Act.applyG : Act → G → G
  | mark s state, g => if s < g.brk then (commonMarkService s state g).2 else g
  | new name, g => (activeDbNew name g).2
  | setup s type data, g =>
    if s < g.brk ∧ s ∉ g.activeDb ∧ data.all (fun d => d.type ≠ .restarting)
    then g.modify s fun a => { a with type := type, data := data } else g
  | register s, g => if s < g.brk then (activeDbRegister s g).2 else g
  | flag s, g => if s ∈ g.activeDb ∧ getState g s ≠ .isDown then set .restarting s g else g
  | call o, g =>
    match o with
    | .start s => g.observe (.start s)
    | .stop s => g.observe (.stop s)
    | _ => g
  | advance, g => g

inductive Acted (g : G) : Act → G → Prop
  | same (act : Act) : Acted g act g
  | mark (s : Sid) (state : AState) (hs : s < g.brk) :
    Acted g (.mark s state) (commonMarkService s state g).2
  | new (name : String) : Acted g (.new name) (activeDbNew name g).2
  | setup (s : Sid) (type : Option Stype) (data : List SData) (hs : s ∉ g.activeDb)
    (hdata : data.all fun d => d.type ≠ .restarting) :
    Acted g (.setup s type data) (g.modify s fun a => { a with type := type, data := data })
  | register (s : Sid) (hs : s < g.brk) : Acted g (.register s) (activeDbRegister s g).2
  | flag (s : Sid) (hs : s ∈ g.activeDb) (hne : getState g s ≠ .isDown) :
    Acted g (.flag s) (set .restarting s g)
  | start (s : Sid) : Acted g (.call (.start s)) (g.observe (.start s))
  | stop (s : Sid) : Acted g (.call (.stop s)) (g.observe (.stop s))

lemma Act.acted (act : Act) (g : G) : Acted g act (act.applyG g) := by
  cases act with
  | mark | setup | register | flag =>
    rw [applyG]
    split_ifs with hs
    · constructor <;> simp only [hs, not_false_eq_true, ne_eq]
    · exact .same _
  | new name => exact .new name
  | call o =>
    cases o with
    | start s => exact .start s
    | stop s => exact .stop s
    | _ => exact .same _
  | advance => exact .same _

def Act.apply (act : Act) (c : Core) : Core :=
  match act with
  | .advance => c.advance
  | act => ⟨c.phase, act.applyG c.g⟩

def Core.run (acts : List Act) (c : Core) : Core := acts.foldl (fun c act => act.apply c) c

def Phase.locks (s : Sid) : Phase → Bool
  | stateChange t _ _ => t = s
  | isChange t _ => t = s
  | _ => false

section
variable (g : G) (s : Sid)

@[simp] lemma setInterrupt_trace : (setInterrupt s g).trace = g.trace := by
  unfold setInterrupt; split <;> rfl

@[simp] lemma clearInterrupt_svc : (clearInterrupt s g).svc = g.svc := rfl
@[simp] lemma clearInterrupt_brk : (clearInterrupt s g).brk = g.brk := rfl
@[simp] lemma clearInterrupt_trace : (clearInterrupt s g).trace = g.trace := rfl
@[simp] lemma clearInterrupt_activeDb : (clearInterrupt s g).activeDb = g.activeDb := rfl

@[simp] lemma mem_clearInterrupt {t : Sid} :
    t ∈ (clearInterrupt s g).interrupt ↔ t ∈ g.interrupt ∧ t ≠ s := by
  simp [clearInterrupt]

@[simp] lemma commonStateLock_brk : (commonStateLock s g).brk = g.brk := rfl
@[simp] lemma commonStateLock_trace : (commonStateLock s g).trace = g.trace := rfl
@[simp] lemma commonStateLock_interrupt : (commonStateLock s g).interrupt = g.interrupt := rfl
@[simp] lemma commonStateLock_activeDb : (commonStateLock s g).activeDb = g.activeDb := rfl

@[simp] lemma checkSysStateUp_svc : (checkSysStateUp g).svc = g.svc := by
  unfold checkSysStateUp; split <;> rfl

@[simp] lemma checkSysStateUp_brk : (checkSysStateUp g).brk = g.brk := by
  unfold checkSysStateUp; split <;> rfl

@[simp] lemma checkSysStateUp_trace : (checkSysStateUp g).trace = g.trace := by
  unfold checkSysStateUp; split <;> rfl

@[simp] lemma checkSysStateUp_interrupt : (checkSysStateUp g).interrupt = g.interrupt := by
  unfold checkSysStateUp; split <;> rfl

@[simp] lemma checkSysStateUp_activeDb : (checkSysStateUp g).activeDb = g.activeDb := by
  unfold checkSysStateUp; split <;> rfl

end

variable {g : G} {s : Sid} {f : ActiveType → ActiveType}

def Phase.mentions (s : Sid) : Phase → Prop
  | idle | handlers => False
  | next service => service = some s
  | stateChange t _ safe => t = s ∨ safe = some s
  | isChange t safe => t = s ∨ safe = some s
  | restarting _ safe => safe = some s
  | init safe => safe = some s

lemma Phase.mentions_of_locks {ph : Phase} (h : ph.locks s = true) : ph.mentions s := by
  cases ph <;> simp_all [locks, mentions]

structure SameView (a a' : ActiveType) : Prop where
  currentState : a'.currentState = a.currentState
  nextState : a'.nextState = a.nextState
  stateLock : a'.stateLock = a.stateLock
  lastRoughtState : a'.lastRoughtState = a.lastRoughtState

lemma SameView.of_eq {a a' : ActiveType} (h : a' = a) : SameView a a' := by
  subst h
  exact ⟨rfl, rfl, rfl, rfl⟩

lemma SameView.modify (s t : Sid) (hf : ∀ a, SameView a (f a)) :
    SameView (g.svc t) ((g.modify s f).svc t) := by
  by_cases h : t = s
  · subst h
    simpa using hf (g.svc t)
  · exact .of_eq (by simp [h])

lemma SameView.set (s t : Sid) {e : SEntry} : SameView (g.svc t) ((set e s g).svc t) := by
  obtain ⟨data, h⟩ := set_svc e s t g
  rw [h]
  exact ⟨rfl, rfl, rfl, rfl⟩

/-- The service is locked once if it is being handled, else not, and while its hooks of
`EVENT_STATE_CHANGE` run it is in the state that `handle` looked at. -/
structure LockOk (ph : Phase) (g : G) (s : Sid) : Prop where
  locked : (g.svc s).stateLock = if ph.locks s then 1 else 0
  settled : Settled (g.svc s)
  started : ∀ state safe, ph = .stateChange s state safe → state = (g.svc s).currentState

structure LocksOk (ph : Phase) (g : G) : Prop where
  listed : ∀ s ∈ g.interrupt, s < g.brk
  mentioned : ∀ s, ph.mentions s → s < g.brk
  each : ∀ s, s < g.brk → LockOk ph g s

section
variable {ph ph' : Phase} {g g' : G} {s service : Sid} {safe : Option Sid}

lemma LockOk.frame (h : LockOk ph g s) (hview : SameView (g.svc s) (g'.svc s))
    (hphase : ph' = ph ∨ ph.locks s = false ∧ ph'.locks s = false) : LockOk ph' g' s where
  locked := by
    have hlocks : ph'.locks s = ph.locks s := by
      rcases hphase with hp | ⟨hp, hp'⟩
      · rw [hp]
      · rw [hp, hp']
    rw [hview.stateLock, h.locked, hlocks]
  settled h0 := by
    rw [hview.nextState]
    exact h.settled (hview.stateLock ▸ h0)
  started state safe hp := by
    rw [hview.currentState]
    rcases hphase with hp' | ⟨-, hp'⟩
    · exact h.started state safe (hp' ▸ hp)
    · simp [hp, Phase.locks] at hp'

lemma LockOk.free (h : LockOk ph g s) (hl : (g.svc s).stateLock = 0) : ph.locks s = false := by
  by_contra hlock
  have heq := h.locked
  rw [hl, if_pos (by simpa using hlock)] at heq
  exact absurd heq (by decide)

lemma LockOk.of_unlocked (hfree : ph.locks s = false) (hl : (g.svc s).stateLock = 0)
    (hn : (g.svc s).nextState = none) : LockOk ph g s where
  locked := by simp [hl, hfree]
  settled _ := hn
  started state safe hp := by simp [hp, Phase.locks] at hfree

lemma LocksOk.lock_eq_one (h : LocksOk ph g) (hl : ph.locks s = true) :
    (g.svc s).stateLock = 1 := by
  rw [(h.each s (h.mentioned s (Phase.mentions_of_locks hl))).locked, if_pos hl]

lemma LocksOk.free_brk (h : LocksOk ph g) : ph.locks g.brk = false := by
  by_contra hlock
  have hment := Phase.mentions_of_locks (by simpa using hlock)
  exact absurd (h.mentioned _ hment) (Nat.lt_irrefl _)

lemma Phase.locks_unique {t : Sid} (hs : ph.locks s = true) (hne : t ≠ s) : ph.locks t = false := by
  cases ph <;> simp_all [locks, Ne.symm hne]

variable (h : LocksOk ph g)
include h

lemma LocksOk.sameViews (hbrk : g'.brk = g.brk)
    (hview : ∀ s, SameView (g.svc s) (g'.svc s)) (hlist : g'.interrupt = g.interrupt) :
    LocksOk ph g' where
  listed := by
    rw [hlist, hbrk]
    exact h.listed
  mentioned := hbrk ▸ h.mentioned
  each s hs := (h.each s (hbrk ▸ hs)).frame (hview s) (.inl rfl)

lemma LocksOk.rephase (hfree : ∀ s, ph.locks s = false)
    (hfree' : ∀ s, ph'.locks s = false) (hment : ∀ s, ph'.mentions s → s < g.brk) :
    LocksOk ph' g where
  listed := h.listed
  mentioned := hment
  each s hs := (h.each s hs).frame (.of_eq rfl) (.inr ⟨hfree s, hfree' s⟩)

lemma LocksOk.record (hl : 0 < (g.svc s).stateLock) (st : AState) :
    LocksOk ph (g.modify s fun a => { a with nextState := some st }) where
  listed := h.listed
  mentioned := h.mentioned
  each t ht := by
    by_cases hts : t = s
    · subst hts
      have hself := h.each t ht
      refine ⟨by simpa using hself.locked, fun h0 => ?_, by simpa using hself.started⟩
      simp only [G.modify_svc_self] at h0
      exact absurd h0 (Nat.ne_of_gt hl)
    · exact (h.each t ht).frame (.of_eq (by simp [hts])) (.inl rfl)

lemma LocksOk.enter (hs : s < g.brk) (hfree : ph'.locks s = false)
    (hphase : ∀ t, t ≠ s → ph' = ph ∨ ph.locks t = false ∧ ph'.locks t = false)
    (hment : ∀ t, ph'.mentions t → t < g.brk) {f : ActiveType → ActiveType}
    (hl : (f (g.svc s)).stateLock = 0) (hn : (f (g.svc s)).nextState = none) :
    LocksOk ph' (setInterrupt s (g.modify s f)) where
  listed t ht := by
    rcases (mem_setInterrupt _ _ _).mp ht with ht | rfl
    · simpa using h.listed t ht
    · simpa using hs
  mentioned := by simpa using hment
  each t ht := by
    by_cases hts : t = s
    · subst hts
      exact .of_unlocked hfree (by simpa using hl) (by simpa using hn)
    · exact (h.each t (by simpa using ht)).frame (.of_eq (by simp [hts])) (hphase t hts)

lemma LocksOk.new (name : String) : LocksOk ph (activeDbNew name g).2 where
  listed s hs := Nat.lt_succ_of_lt (h.listed s hs)
  mentioned s hs := Nat.lt_succ_of_lt (h.mentioned s hs)
  each s hs := by
    by_cases hbrk : s = g.brk
    · subst hbrk
      exact .of_unlocked h.free_brk (by simp [activeDbNew, ActiveType.ofName])
        (by simp [activeDbNew, ActiveType.ofName])
    · have hlt : s < g.brk := Nat.lt_of_le_of_ne (Nat.le_of_lt_succ hs) hbrk
      exact (h.each s hlt).frame (.of_eq (by simp [activeDbNew, hbrk])) (.inl rfl)

lemma LocksOk.mark (hs : s < g.brk) (st : AState) : LocksOk ph (commonMarkService s st g).2 := by
  have hself := h.each s hs
  rcases commonMarkService_cases st hself.settled with he | ⟨hl, -, -, he⟩ | ⟨hl, -, he⟩
  · rwa [he]
  · rw [he]
    exact h.record hl st
  · rw [he]
    exact h.enter hs (hself.free hl) (fun _ _ => .inl rfl) h.mentioned hl rfl

lemma LocksOk.applyG (act : Act) : LocksOk ph (act.applyG g) := by
  have hacted := act.acted g
  generalize act.applyG g = g' at hacted ⊢
  cases hacted with
  | same => exact h
  | mark s state hs => exact h.mark hs state
  | new name => exact h.new name
  | setup s => exact h.sameViews rfl (fun t => .modify s t fun _ => ⟨rfl, rfl, rfl, rfl⟩) rfl
  | register s =>
    rcases activeDbRegister_cases s g with he | ⟨-, he⟩ <;> rw [he]
    · exact h
    · exact h.sameViews rfl (fun _ => .of_eq rfl) rfl
  | flag s => exact h.sameViews (set_brk ..) (fun t => .set s t) (set_interrupt ..)
  | start | stop => exact h.sameViews rfl (fun _ => .of_eq rfl) rfl

end

def unlockedAt (service : Sid) (g : G) : G := g.modify service fun a => { a with stateLock := 0 }

inductive Advance (g : G) : Phase → Phase → G → Prop
  | wait (hlist : g.interrupt = []) : Advance g .idle .idle g
  | begin (service : Sid) (hlist : service ∈ g.interrupt) :
    Advance g .idle (.next (some service)) g
  | finish : Advance g (.next none) .handlers g
  | take (service : Sid) :
    Advance g (.next (some service))
      (.stateChange service (g.svc service).currentState (interruptAfter g.interrupt service))
      (commonStateLock service (clearInterrupt service g))
  | abort (ph : Phase) (service : Sid) (safe : Option Sid) (st : AState)
    (hlock : ph.locks service = true) (hsafe : ∀ s, safe = some s → ph.mentions s)
    (hnext : (g.svc service).nextState = some st) :
    Advance g ph (.next safe)
      (setInterrupt service (g.modify service fun a => { a with stateLock := 0 }.enter st g.clock))
  | quiet (service : Sid) (state : AState) (safe : Option Sid)
    (hnext : (g.svc service).nextState = none)
    (hrough : (g.svc service).lastRoughtState = getState g service) :
    Advance g (.stateChange service state safe) (.init safe) (unlockedAt service g)
  | send (service : Sid) (state : AState) (safe : Option Sid)
    (hnext : (g.svc service).nextState = none)
    (hrough : (g.svc service).lastRoughtState ≠ getState g service) :
    Advance g (.stateChange service state safe) (.isChange service safe)
      ((commonStateLock service (unlockedAt service g)).observe
        (.isChange service (getState g service)))
  | up (service : Sid) (safe : Option Sid) (hnext : (g.svc service).nextState = none)
    (his : getState g service ≠ .isDown) :
    Advance g (.isChange service safe) (.init safe) (checkSysStateUp (unlockedAt service g))
  | settle (service : Sid) (safe : Option Sid) (hnext : (g.svc service).nextState = none)
    (his : getState g service = .isDown → is .restarting g service = true →
      stillStopping g = true) :
    Advance g (.isChange service safe) (.init safe) (unlockedAt service g)
  | restart (service : Sid) (safe : Option Sid) (hnext : (g.svc service).nextState = none)
    (hnone : stillStopping g = false) :
    Advance g (.isChange service safe) (.restarting g.activeDb safe) (unlockedAt service g)
  | start (current : Sid) (rest : List Sid) (safe : Option Sid)
    (his : getState g current = .isDown) (hflag : is .restarting g current = true) :
    Advance g (.restarting (current :: rest) safe) (.restarting rest safe)
      (dataRemove .restarting current g)
  | skip (current : Sid) (rest : List Sid) (safe : Option Sid)
    (hnot : ¬ (getState g current = .isDown ∧ is .restarting g current = true)) :
    Advance g (.restarting (current :: rest) safe) (.restarting rest safe) g
  | restarted (safe : Option Sid) : Advance g (.restarting [] safe) (.init safe) g
  | entered (safe : Option Sid) : Advance g (.init safe) (.next safe) g
  | done : Advance g .handlers .idle g

section
variable {ph ph' : Phase} {g g' : G} {service : Sid} {f : ActiveType → ActiveType}

lemma getState_modify (s t : Sid)
    (hf : ∀ a, (f a).currentState = a.currentState) :
    getState (g.modify s f) t = getState g t := by
  by_cases h : t = s
  · simp [getState, h, hf]
  · simp [getState, h]

lemma is_modify (e : SEntry) (s t : Sid)
    (hf : ∀ a, (f a).data = a.data) : is e (g.modify s f) t = is e g t := by
  by_cases h : t = s
  · simp [is, h, hf]
  · simp [is, h]

@[simp] lemma getState_unlockedAt (s : Sid) :
    getState (unlockedAt service g) s = getState g s := getState_modify service s fun _ => rfl

@[simp] lemma is_unlockedAt (e : SEntry) (s : Sid) :
    is e (unlockedAt service g) s = is e g s := is_modify e service s fun _ => rfl

@[simp] lemma stillStopping_unlockedAt :
    stillStopping (unlockedAt service g) = stillStopping g := by
  simp only [stillStopping, getState_unlockedAt, is_unlockedAt]
  rfl

lemma Advance.of_isChange (safe : Option Sid) (hnext : (g.svc service).nextState = none)
    (hone : (g.svc service).stateLock = 1) :
    Advance g (.isChange service safe) (Core.advance ⟨.isChange service safe, g⟩).phase
      (Core.advance ⟨.isChange service safe, g⟩).g := by
  have hun : commonStateUnlock service g = (false, unlockedAt service g) :=
    commonStateUnlock_none g service (Nat.le_of_eq hone) hnext
  simp only [Core.advance, hun, Bool.false_eq_true, if_false, getState_unlockedAt,
    is_unlockedAt, stillStopping_unlockedAt]
  cases his : getState g service with
  | isFailed | isUp => exact .up service safe hnext (by simp [his])
  | isDown =>
    dsimp only
    split_ifs with hall
    · exact .restart service safe hnext (by simpa using hall.2)
    · refine .settle service safe hnext fun _ hflag => ?_
      simpa [hflag] using hall
  | _ => exact .settle service safe hnext (by simp [his])

lemma Core.advance_cases (h : LocksOk ph g) :
    Advance g ph (Core.advance ⟨ph, g⟩).phase (Core.advance ⟨ph, g⟩).g := by
  cases ph with
  | idle =>
    cases hlist : g.interrupt with
    | nil =>
      simp only [Core.advance, hlist]
      exact .wait hlist
    | cons service l =>
      simp only [Core.advance, hlist]
      exact .begin service (by simp [hlist])
  | next service =>
    cases service with
    | none => exact .finish
    | some service => exact .take service
  | stateChange service state safe =>
    have hs : service < g.brk := h.mentioned service (.inl rfl)
    have hone := h.lock_eq_one (s := service) (by simp [Phase.locks])
    have hstate := (h.each service hs).started state safe rfl
    cases hn : (g.svc service).nextState with
    | some st =>
      have hun := commonStateUnlock_some g service st (Nat.le_of_eq hone) hn
      simp only [Core.advance, hun, if_true]
      exact .abort _ service safe st (by simp [Phase.locks]) (fun s hs => .inr hs) hn
    | none =>
      have hun : commonStateUnlock service g = (false, unlockedAt service g) :=
        commonStateUnlock_none g service (Nat.le_of_eq hone) hn
      have hlast : ((unlockedAt service g).svc service).lastRoughtState =
          (g.svc service).lastRoughtState := by simp [unlockedAt]
      simp only [Core.advance, hun, Bool.false_eq_true, if_false, hlast, getState_unlockedAt]
      split_ifs with hrough
      · rw [hstate] at hrough
        exact .send service state safe hn hrough
      · refine .quiet service state safe hn ?_
        rw [getState, ← hstate]
        simpa using hrough
  | isChange service safe =>
    have hone := h.lock_eq_one (s := service) (by simp [Phase.locks])
    cases hn : (g.svc service).nextState with
    | some st =>
      have hun := commonStateUnlock_some g service st (Nat.le_of_eq hone) hn
      simp only [Core.advance, hun, if_true]
      exact .abort _ service safe st (by simp [Phase.locks]) (fun s hs => .inr hs) hn
    | none => exact .of_isChange safe hn hone
  | restarting rest safe =>
    cases rest with
    | nil => exact .restarted safe
    | cons current rest =>
      simp only [Core.advance]
      split_ifs with his
      · exact .start current rest safe his.1 his.2
      · exact .skip current rest safe his
  | init safe => exact .entered safe
  | handlers => exact .done

lemma LocksOk.unlockedAt (h : LocksOk ph g) (hl : ph.locks service = true)
    (hn : (g.svc service).nextState = none) (hfree : ∀ s, ph'.locks s = false)
    (hment : ∀ s, ph'.mentions s → s < g.brk) : LocksOk ph' (unlockedAt service g) where
  listed := h.listed
  mentioned := hment
  each s hs := by
    by_cases hss : s = service
    · subst hss
      exact .of_unlocked (hfree s) (by simp [Initng.unlockedAt]) (by simpa [Initng.unlockedAt] using hn)
    · exact (h.each s hs).frame (.of_eq (by simp [Initng.unlockedAt, hss]))
        (.inr ⟨Phase.locks_unique hl hss, hfree s⟩)

lemma LocksOk.settled {safe : Option Sid} (h : LocksOk (.isChange service safe) g)
    (hn : (g.svc service).nextState = none) (hfree : ∀ s, ph'.locks s = false)
    (hment : ∀ s, ph'.mentions s → safe = some s) : LocksOk ph' (Initng.unlockedAt service g) :=
  h.unlockedAt (by simp [Phase.locks]) hn hfree fun s hs => h.mentioned s (.inr (hment s hs))

lemma LocksOk.lock (h : LocksOk ph g) (hl : (g.svc service).stateLock = 0)
    (hn : (g.svc service).nextState = none) (hfree : ∀ s, ph.locks s = false)
    (hl' : ph'.locks service = true) (hment : ∀ s, ph'.mentions s → s < g.brk)
    (hstate : ∀ state safe, ph' = .stateChange service state safe →
      state = (g.svc service).currentState) :
    LocksOk ph' (commonStateLock service g) where
  listed := h.listed
  mentioned := hment
  each s hs := by
    by_cases hss : s = service
    · subst hss
      refine ⟨by simp [commonStateLock, hl, hl'], fun _ => ?_, ?_⟩
      · simpa [commonStateLock] using hn
      · simpa [commonStateLock] using hstate
    · refine (h.each s hs).frame (.of_eq (commonStateLock_svc_ne _ hss)) (.inr ⟨hfree s, ?_⟩)
      exact Phase.locks_unique hl' hss

lemma LocksOk.advance (h : LocksOk ph g) (hadv : Advance g ph ph' g') : LocksOk ph' g' := by
  cases hadv with
  | wait => exact h
  | begin service hlist =>
    refine h.rephase (fun _ => rfl) (fun _ => rfl) fun s hs => ?_
    obtain rfl : service = s := by simpa [Phase.mentions] using hs
    exact h.listed service hlist
  | finish => exact h.rephase (fun _ => rfl) (fun _ => rfl) fun _ hs => hs.elim
  | take service =>
    have hs : service < g.brk := h.mentioned service rfl
    have hl : (g.svc service).stateLock = 0 := by
      simpa [Phase.locks] using (h.each service hs).locked
    have hclear : LocksOk (.next (some service)) (clearInterrupt service g) :=
      ⟨fun s hin => h.listed s ((mem_clearInterrupt g service).mp hin).1, h.mentioned,
        fun s hs => (h.each s hs).frame (.of_eq rfl) (.inl rfl)⟩
    refine hclear.lock hl ((h.each service hs).settled hl) (fun _ => rfl)
      (by simp [Phase.locks]) ?_ ?_
    · rintro s (rfl | hsafe)
      · exact hs
      · exact h.listed s (ListCursor.within_next s hsafe)
    · intro state safe hp
      simp only [Phase.stateChange.injEq] at hp
      exact hp.2.1.symm
  | abort _ service safe st hlock hsafe hnext =>
    have hs : service < g.brk := h.mentioned _ (Phase.mentions_of_locks hlock)
    refine h.enter hs rfl (fun t hts => ?_) ?_ rfl rfl
    · exact .inr ⟨Phase.locks_unique hlock hts, rfl⟩
    · exact fun s hs => h.mentioned s (hsafe s hs)
  | quiet service state safe hnext =>
    exact h.unlockedAt (by simp [Phase.locks]) hnext (fun _ => rfl) fun s hs =>
      h.mentioned s (.inr hs)
  | send service state safe hnext =>
    have hrel : LocksOk (.next none) (Initng.unlockedAt service g) :=
      h.unlockedAt (by simp [Phase.locks]) hnext (fun _ => rfl) fun _ hs => by cases hs
    have hlock : LocksOk (.isChange service safe)
        (commonStateLock service (Initng.unlockedAt service g)) :=
      hrel.lock (by simp [Initng.unlockedAt]) (by simpa [Initng.unlockedAt] using hnext)
        (fun _ => rfl) (by simp [Phase.locks]) h.mentioned (by simp)
    exact hlock.sameViews rfl (fun _ => .of_eq rfl) rfl
  | up service safe hnext =>
    have hrel : LocksOk (.init safe) (Initng.unlockedAt service g) :=
      h.settled hnext (fun _ => rfl) fun _ => id
    exact hrel.sameViews (by simp) (fun _ => .of_eq (by simp)) (by simp)
  | settle service safe hnext | restart service safe hnext =>
    exact h.settled hnext (fun _ => rfl) fun _ => id
  | start current rest safe =>
    have hrest : LocksOk (.restarting rest safe) g :=
      h.rephase (fun _ => rfl) (fun _ => rfl) h.mentioned
    exact hrest.sameViews rfl (fun t => .modify current t fun _ => ⟨rfl, rfl, rfl, rfl⟩) rfl
  | skip | restarted | entered => exact h.rephase (fun _ => rfl) (fun _ => rfl) h.mentioned
  | done => exact h.rephase (fun _ => rfl) (fun _ => rfl) fun _ hs => hs.elim

end

lemma locksOk_configGlobalNew (now : Timeval) : LocksOk .idle (configGlobalNew now) :=
  ⟨fun _ h => absurd h List.not_mem_nil, fun _ h => h.elim, fun _ h => absurd h (Nat.not_lt_zero _)⟩

end Initng
