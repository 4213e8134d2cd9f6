import Initng.ActiveDb

/-! `common/state.c`. -/

namespace Initng

/-- `memcpy(&dest, &src, sizeof(memcpy))` copies one byte, the lowest of `tv_sec`. -/
def Timeval.copyByte (dest src : Timeval) : Timeval :=
  { dest with tvSec := dest.tvSec - dest.tvSec % 256 + src.tvSec % 256 }

def ActiveType.enter (a : ActiveType) (next : AState) (now : Timeval) : ActiveType :=
  let rough := a.lastRoughtState ≠ a.currentState.is
  { a with
    lastState := some a.currentState
    timeLastState := a.timeCurrentState
    lastRoughtState := a.currentState.is
    lastRoughtTime :=
      if rough then a.lastRoughtTime.copyByte a.timeCurrentState else a.lastRoughtTime
    alarm := 0
    currentState := next
    timeCurrentState := now
    nextState := none }

/-- `initng_list_add(&service->interrupt, &g.active_db.interrupt)`: a service that is on
the list already is not added again. -/
def setInterrupt (s : Sid) (g : G) : G :=
  if s ∈ g.interrupt then g else { g with interrupt := g.interrupt ++ [s] }

def commonStateUnlock (s : Sid) (g : G) : Bool × G :=
  -- a counter at zero stays there
  let level := (g.svc s).stateLock - 1
  let g := g.modify s fun a => { a with stateLock := level }
  if level ≠ 0 then (false, g)
  else
    match (g.svc s).nextState with
    | none => (false, g)
    | some next => (true, setInterrupt s (g.modify s fun a => a.enter next g.clock))

def commonStateLock (s : Sid) (g : G) : G :=
  g.modify s fun a => { a with stateLock := a.stateLock + 1 }

def commonMarkService (s : Sid) (state : AState) (g : G) : Bool × G :=
  if (g.svc s).stateLock ≠ 0 ∧ (g.svc s).nextState.isSome then (false, g)
  else if (g.svc s).currentState = state then
    (true, g.modify s fun a => { a with nextState := none })
  else
    let g := g.modify s fun a => { a with nextState := some state }
    if (g.svc s).stateLock = 0 then (true, (commonStateUnlock s g).2) else (true, g)

def commonStateLockAll (g : G) : G := g.activeDb.foldl (fun g s => commonStateLock s g) g

def commonStateUnlockAll (g : G) : Bool × G :=
  g.activeDb.foldl (fun r s => let u := commonStateUnlock s r.2; (r.1 || u.1, u.2)) (false, g)

def activeDbFree (pf : Sid) (g : G) : G :=
  let g := (commonMarkService pf .freeing g).2
  { g with
    activeDb := g.activeDb.filter (· ≠ pf)
    interrupt := g.interrupt.filter (· ≠ pf) }

/-- `initng_active_db_clean_down` at time `now`: frees what is down for over a minute. -/
def activeDbCleanDown (now : Timeval) (g : G) : G :=
  g.activeDb.foldl (fun g current =>
    if now.tvSec > (g.svc current).timeCurrentState.tvSec + 60 ∧ getState g current = .isDown
    then activeDbFree current g else g) g

section
variable (g : G) (s t : Sid) (st : AState)

@[simp] lemma setInterrupt_svc : (setInterrupt s g).svc = g.svc := by
  unfold setInterrupt; split <;> rfl

@[simp] lemma setInterrupt_activeDb : (setInterrupt s g).activeDb = g.activeDb := by
  unfold setInterrupt; split <;> rfl

@[simp] lemma setInterrupt_brk : (setInterrupt s g).brk = g.brk := by
  unfold setInterrupt; split <;> rfl

lemma mem_setInterrupt : t ∈ (setInterrupt s g).interrupt ↔ t ∈ g.interrupt ∨ t = s := by
  unfold setInterrupt
  split
  next h => exact ⟨Or.inl, fun h' => h'.elim id fun e => e ▸ h⟩
  next => simp

lemma commonStateUnlock_brk : (commonStateUnlock s g).2.brk = g.brk := by
  unfold commonStateUnlock
  dsimp only
  split
  · rfl
  · split
    · rfl
    · simp

lemma commonStateUnlock_activeDb : (commonStateUnlock s g).2.activeDb = g.activeDb := by
  unfold commonStateUnlock
  dsimp only
  split
  · rfl
  · split
    · rfl
    · simp

lemma commonMarkService_brk : (commonMarkService s st g).2.brk = g.brk := by
  unfold commonMarkService
  split
  · rfl
  split
  · rfl
  · dsimp only
    split
    · exact commonStateUnlock_brk ..
    · rfl

lemma commonMarkService_activeDb : (commonMarkService s st g).2.activeDb = g.activeDb := by
  unfold commonMarkService
  split
  · rfl
  split
  · rfl
  · dsimp only
    split
    · exact commonStateUnlock_activeDb ..
    · rfl

lemma commonStateUnlock_none (h : (g.svc s).stateLock ≤ 1)
    (hn : (g.svc s).nextState = none) :
    commonStateUnlock s g = (false, g.modify s fun a => { a with stateLock := 0 }) := by
  have hl : (g.svc s).stateLock - 1 = 0 := by omega
  simp [commonStateUnlock, hl, hn]

lemma commonStateUnlock_some (h : (g.svc s).stateLock ≤ 1)
    (hn : (g.svc s).nextState = some st) :
    commonStateUnlock s g = (true, setInterrupt s
      (g.modify s fun a => { a with stateLock := 0 }.enter st g.clock)) := by
  have hl : (g.svc s).stateLock - 1 = 0 := by omega
  simp [commonStateUnlock, hl, hn, G.modify]

lemma commonMarkService_refused (hl : 0 < (g.svc s).stateLock)
    (hn : (g.svc s).nextState.isSome) : commonMarkService s st g = (false, g) := by
  rw [commonMarkService, if_pos ⟨Nat.ne_of_gt hl, hn⟩]

lemma commonMarkService_same (h : (g.svc s).stateLock = 0 ∨ (g.svc s).nextState = none)
    (hc : (g.svc s).currentState = st) :
    commonMarkService s st g = (true, g.modify s fun a => { a with nextState := none }) := by
  have h' : ¬ ((g.svc s).stateLock ≠ 0 ∧ (g.svc s).nextState.isSome) := by
    rcases h with h | h <;> simp [h]
  rw [commonMarkService, if_neg h', if_pos hc]

lemma commonMarkService_locked (hl : 0 < (g.svc s).stateLock)
    (hn : (g.svc s).nextState = none) (hc : (g.svc s).currentState ≠ st) :
    commonMarkService s st g = (true, g.modify s fun a => { a with nextState := some st }) := by
  simp [commonMarkService, hn, hc, Nat.ne_of_gt hl]

lemma commonMarkService_unlocked (hl : (g.svc s).stateLock = 0)
    (hc : (g.svc s).currentState ≠ st) :
    commonMarkService s st g = (true, setInterrupt s (g.modify s fun a => a.enter st g.clock)) := by
  simp [commonMarkService, hl, hc, commonStateUnlock_some, G.modify, ActiveType.enter]

variable {s t}

lemma commonStateLock_svc_ne (h : t ≠ s) : (commonStateLock s g).svc t = g.svc t := by
  simp [commonStateLock, h]

lemma commonStateUnlock_svc_ne (h : t ≠ s) : (commonStateUnlock s g).2.svc t = g.svc t := by
  unfold commonStateUnlock
  dsimp only
  split
  · simp [h]
  · split <;> simp [h]

lemma commonMarkService_svc_ne (h : t ≠ s) : (commonMarkService s st g).2.svc t = g.svc t := by
  unfold commonMarkService
  split
  · rfl
  split
  · simp [h]
  · dsimp only
    split <;> simp [h, commonStateUnlock_svc_ne]

variable (s)

lemma commonMarkService_records_or_enters :
    (∃ next, (next = (g.svc s).nextState ∨ next = none ∨
        next = some st ∧ (g.svc s).currentState ≠ st) ∧
      (commonMarkService s st g).2 = g.modify s fun a => { a with nextState := next }) ∨
    (g.svc s).currentState ≠ st ∧
      (commonMarkService s st g).2 = setInterrupt s (g.modify s fun a => a.enter st g.clock) := by
  by_cases hr : (g.svc s).stateLock ≠ 0 ∧ (g.svc s).nextState.isSome
  · refine .inl ⟨(g.svc s).nextState, .inl rfl, ?_⟩
    simp [commonMarkService, hr, G.modify]
  by_cases hc : (g.svc s).currentState = st
  · exact .inl ⟨none, .inr (.inl rfl), by rw [commonMarkService, if_neg hr, if_pos hc]⟩
  by_cases hl : (g.svc s).stateLock = 0
  · exact .inr ⟨hc, by rw [commonMarkService_unlocked g s st hl hc]⟩
  · have hn : (g.svc s).nextState = none := by simpa [hl] using hr
    refine .inl ⟨some st, .inr (.inr ⟨rfl, hc⟩), ?_⟩
    rw [commonMarkService_locked g s st (Nat.pos_of_ne_zero hl) hn hc]

lemma commonMarkService_currentState :
    ((commonMarkService s st g).2.svc s).currentState = (g.svc s).currentState ∨
      ((commonMarkService s st g).2.svc s).currentState = st := by
  rcases commonMarkService_records_or_enters g s st with ⟨next, -, he⟩ | ⟨-, he⟩
  · exact .inl (by simp [he])
  · exact .inr (by simp [he, ActiveType.enter])

lemma commonMarkService_currentState_of_locked (hl : (g.svc s).stateLock ≠ 0) :
    ((commonMarkService s st g).2.svc s).currentState = (g.svc s).currentState := by
  by_cases hn : (g.svc s).nextState = none
  · by_cases hc : (g.svc s).currentState = st
    · rcases commonMarkService_currentState g s st with h | h
      · exact h
      · exact h.trans hc.symm
    · rw [commonMarkService_locked g s st (Nat.pos_of_ne_zero hl) hn hc, G.modify_svc_self]
  · have hpending : (g.svc s).nextState.isSome := Option.isSome_iff_ne_none.mpr hn
    rw [commonMarkService, if_pos ⟨hl, hpending⟩]

lemma mem_interrupt_of_commonMarkService
    (h : ((commonMarkService s st g).2.svc s).currentState ≠ (g.svc s).currentState) :
    s ∈ (commonMarkService s st g).2.interrupt := by
  rcases commonMarkService_records_or_enters g s st with ⟨next, -, he⟩ | ⟨-, he⟩
  · simp [he] at h
  · rw [he]
    exact (mem_setInterrupt _ _ _).mpr (.inr rfl)

lemma mem_commonMarkService_interrupt (h : t ≠ s) :
    t ∈ (commonMarkService s st g).2.interrupt ↔ t ∈ g.interrupt := by
  rcases commonMarkService_records_or_enters g s st with ⟨next, -, he⟩ | ⟨-, he⟩
  · rw [he, G.modify_interrupt]
  · rw [he, mem_setInterrupt]
    simp [h]

lemma commonMarkService_interrupt_mono (h : t ∈ g.interrupt) :
    t ∈ (commonMarkService s st g).2.interrupt := by
  rcases commonMarkService_records_or_enters g s st with ⟨next, -, he⟩ | ⟨-, he⟩
  · rwa [he]
  · rw [he]
    exact (mem_setInterrupt _ _ _).mpr (.inl h)

end

end Initng
