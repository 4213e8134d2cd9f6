import Initng.State

namespace Initng

/-- A call of `common/state.c`. -/
inductive LockOp
  | mark (s : Sid) (state : AState)
  | lock (s : Sid)
  | unlock (s : Sid)
  | lockAll
  | unlockAll

def LockOp.apply : LockOp → G → G
  | mark s state, g => (commonMarkService s state g).2
  | lock s, g => commonStateLock s g
  | unlock s, g => (commonStateUnlock s g).2
  | lockAll, g => commonStateLockAll g
  | unlockAll, g => (commonStateUnlockAll g).2

def LockOp.run (ops : List LockOp) (g : G) : G := ops.foldl (fun g op => op.apply g) g

def LockOp.marks (s : Sid) : LockOp → Option AState
  | mark t state => if t = s then some state else none
  | _ => none

def LockOp.firstOther (cur : AState) (s : Sid) (ops : List LockOp) : Option AState :=
  (ops.filterMap (LockOp.marks s)).find? (· ≠ cur)

def Settled (a : ActiveType) : Prop := a.stateLock = 0 → a.nextState = none

def Locked (s : Sid) : G → List LockOp → Prop
  | _, [] => True
  | g, op :: ops => 0 < ((op.apply g).svc s).stateLock ∧ Locked s (op.apply g) ops

def SameButLock (a a' : ActiveType) : Prop := a' = { a with stateLock := a'.stateLock }

section
variable {a a' a'' : ActiveType}

lemma SameButLock.refl (a : ActiveType) : SameButLock a a := rfl

lemma SameButLock.trans (h : SameButLock a a') (h' : SameButLock a' a'') : SameButLock a a'' := by
  unfold SameButLock at *
  rw [h] at h'
  exact h'

lemma SameButLock.currentState (h : SameButLock a a') : a'.currentState = a.currentState := by
  rw [h]

lemma SameButLock.nextState (h : SameButLock a a') : a'.nextState = a.nextState := by
  rw [h]

end

section
variable {g : G} {s : Sid}

lemma G.modify_eq_self {f : ActiveType → ActiveType} (h : f (g.svc s) = g.svc s) :
    g.modify s f = g := by
  simp [G.modify, h]

lemma commonMarkService_cases (st : AState) (hs : Settled (g.svc s)) :
    (commonMarkService s st g).2 = g ∨
    (0 < (g.svc s).stateLock ∧ (g.svc s).nextState = none ∧ (g.svc s).currentState ≠ st ∧
      (commonMarkService s st g).2 = g.modify s fun a => { a with nextState := some st }) ∨
    ((g.svc s).stateLock = 0 ∧ (g.svc s).currentState ≠ st ∧
      (commonMarkService s st g).2 = setInterrupt s (g.modify s fun a => a.enter st g.clock)) := by
  by_cases hn : (g.svc s).nextState = none
  · by_cases hc : (g.svc s).currentState = st
    · left
      have hself : ({ g.svc s with nextState := none } : ActiveType) = g.svc s := by rw [← hn]
      rw [commonMarkService_same g s st (.inr hn) hc]
      dsimp only
      apply G.modify_eq_self
      exact hself
    · rcases Nat.eq_zero_or_pos (g.svc s).stateLock with hl | hl
      · right
        right
        exact ⟨hl, hc, by rw [commonMarkService_unlocked g s st hl hc]⟩
      · right
        left
        exact ⟨hl, hn, hc, by rw [commonMarkService_locked g s st hl hn hc]⟩
  · left
    have hl : 0 < (g.svc s).stateLock := Nat.pos_of_ne_zero fun h0 => hn (hs h0)
    rw [commonMarkService_refused g s st hl (Option.isSome_iff_ne_none.mpr hn)]

end

section
variable (g : G) (s t : Sid) (st : AState)

lemma lock_sameButLock : SameButLock (g.svc s) ((commonStateLock t g).svc s) := by
  by_cases h : s = t
  · subst h
    simp [commonStateLock, SameButLock]
  · rw [commonStateLock_svc_ne g h]
    exact SameButLock.refl _

lemma lock_le : (g.svc s).stateLock ≤ ((commonStateLock t g).svc s).stateLock := by
  by_cases h : s = t
  · subst h
    simp [commonStateLock]
  · simp [commonStateLock_svc_ne g h]

lemma lock_settled (hs : Settled (g.svc s)) : Settled ((commonStateLock t g).svc s) := by
  intro h0
  rw [(lock_sameButLock g s t).nextState]
  exact hs (Nat.le_zero.mp (h0 ▸ lock_le g s t))

lemma unlock_svc_cases :
    (∃ n ≤ (g.svc s).stateLock, (n = 0 → (g.svc s).stateLock = 0 ∨ (g.svc s).nextState = none) ∧
      (commonStateUnlock t g).2.svc s = { g.svc s with stateLock := n }) ∨
    ∃ st, (g.svc s).nextState = some st ∧
      (commonStateUnlock t g).2.svc s = { g.svc s with stateLock := 0 }.enter st g.clock := by
  by_cases h : s = t
  · subst h
    rcases Nat.lt_or_ge 1 (g.svc s).stateLock with hl | hl
    · have hl' : (g.svc s).stateLock - 1 ≠ 0 := by omega
      exact .inl ⟨_, Nat.sub_le _ 1, by omega, by simp [commonStateUnlock, hl']⟩
    · cases hn : (g.svc s).nextState with
      | none =>
        rw [commonStateUnlock_none g s hl hn]
        exact .inl ⟨0, Nat.zero_le _, fun _ => .inr rfl, by simp⟩
      | some st =>
        rw [commonStateUnlock_some g s st hl hn]
        exact .inr ⟨st, rfl, by simp⟩
  · exact .inl ⟨_, Nat.le_refl _, .inl, commonStateUnlock_svc_ne g h⟩

lemma unlock_settled (hs : Settled (g.svc s)) : Settled ((commonStateUnlock t g).2.svc s) := by
  intro h0
  rcases unlock_svc_cases g s t with ⟨n, -, hn, he⟩ | ⟨st, -, he⟩ <;> rw [he] at h0 ⊢
  · exact (hn h0).elim hs id
  · rfl

lemma unlock_sameButLock (hp : 0 < ((commonStateUnlock t g).2.svc s).stateLock) :
    SameButLock (g.svc s) ((commonStateUnlock t g).2.svc s) := by
  rcases unlock_svc_cases g s t with ⟨n, -, -, he⟩ | ⟨st, -, he⟩ <;> rw [he] at hp ⊢
  · rfl
  · exact absurd hp (Nat.lt_irrefl 0)

lemma unlock_le : ((commonStateUnlock t g).2.svc s).stateLock ≤ (g.svc s).stateLock := by
  rcases unlock_svc_cases g s t with ⟨n, hle, -, he⟩ | ⟨st, -, he⟩ <;> rw [he]
  · exact hle
  · exact Nat.zero_le _

lemma mark_settled (hs : Settled (g.svc s)) : Settled ((commonMarkService t st g).2.svc s) := by
  by_cases h : s = t
  · subst h
    rcases commonMarkService_cases st hs with he | ⟨hl, -, -, he⟩ | ⟨-, -, he⟩
    · rwa [he]
    · rw [he]
      intro h0
      simp at h0
      omega
    · rw [he]
      intro _
      simp [ActiveType.enter]
  · rwa [commonMarkService_svc_ne g st h]

lemma mark_locked (hs : Settled (g.svc s))
    (hp : 0 < ((commonMarkService s st g).2.svc s).stateLock) :
    ((commonMarkService s st g).2.svc s).currentState = (g.svc s).currentState ∧
    ((commonMarkService s st g).2.svc s).nextState =
      (g.svc s).nextState.or (if st ≠ (g.svc s).currentState then some st else none) := by
  cases hn : (g.svc s).nextState with
  | some n =>
    have hl : 0 < (g.svc s).stateLock := Nat.pos_of_ne_zero fun h0 => by simp [hs h0] at hn
    rw [commonMarkService_refused g s st hl (by simp [hn])]
    simp [hn]
  | none =>
    by_cases hc : (g.svc s).currentState = st
    · rw [commonMarkService_same g s st (.inr hn) hc]
      simp [hc]
    · rcases Nat.eq_zero_or_pos (g.svc s).stateLock with hl | hl
      · rw [commonMarkService_unlocked g s st hl hc] at hp
        simp [ActiveType.enter, hl] at hp
      · rw [commonMarkService_locked g s st hl hn hc]
        simp [Ne.symm hc]

variable (l : List Sid)

lemma lockAll_settled (hs : Settled (g.svc s)) :
    Settled ((l.foldl (fun g t => commonStateLock t g) g).svc s) := by
  induction l generalizing g with
  | nil => exact hs
  | cons t l ih => exact ih _ (lock_settled g s t hs)

lemma lockAll_sameButLock :
    SameButLock (g.svc s) ((l.foldl (fun g t => commonStateLock t g) g).svc s) := by
  induction l generalizing g with
  | nil => exact SameButLock.refl _
  | cons t l ih => exact (lock_sameButLock g s t).trans (ih _)

abbrev unlockLoop (l : List Sid) (r : Bool × G) : Bool × G :=
  l.foldl (fun r s => let u := commonStateUnlock s r.2; (r.1 || u.1, u.2)) r

lemma unlockAll_settled (r : Bool × G) (hs : Settled (r.2.svc s)) :
    Settled ((unlockLoop l r).2.svc s) := by
  induction l generalizing r with
  | nil => exact hs
  | cons t l ih => exact ih _ (unlock_settled r.2 s t hs)

lemma unlockAll_le (r : Bool × G) :
    ((unlockLoop l r).2.svc s).stateLock ≤ (r.2.svc s).stateLock := by
  induction l generalizing r with
  | nil => exact Nat.le_refl _
  | cons t l ih => exact Nat.le_trans (ih _) (unlock_le r.2 s t)

lemma unlockAll_sameButLock (r : Bool × G)
    (hp : 0 < ((unlockLoop l r).2.svc s).stateLock) :
    SameButLock (r.2.svc s) ((unlockLoop l r).2.svc s) := by
  induction l generalizing r with
  | nil => exact SameButLock.refl _
  | cons t l ih =>
    -- the counter only falls, so it was positive after the first unlock as well
    have h1 : 0 < ((commonStateUnlock t r.2).2.svc s).stateLock :=
      Nat.lt_of_lt_of_le hp (unlockAll_le s l _)
    exact (unlock_sameButLock r.2 s t h1).trans (ih _ hp)

end

section
variable {g : G} {s : Sid} {op : LockOp} {ops : List LockOp}

lemma LockOp.apply_settled (hs : Settled (g.svc s)) : Settled ((op.apply g).svc s) := by
  cases op with
  | mark t st => exact mark_settled g s t st hs
  | lock t => exact lock_settled g s t hs
  | unlock t => exact unlock_settled g s t hs
  | lockAll => exact lockAll_settled g s g.activeDb hs
  | unlockAll => exact unlockAll_settled s g.activeDb (false, g) hs

lemma LockOp.apply_locked (hs : Settled (g.svc s))
    (hp : 0 < ((op.apply g).svc s).stateLock) :
    ((op.apply g).svc s).currentState = (g.svc s).currentState ∧
    ((op.apply g).svc s).nextState =
      (g.svc s).nextState.or (LockOp.firstOther (g.svc s).currentState s [op]) := by
  have same (h : SameButLock (g.svc s) ((op.apply g).svc s)) (hm : op.marks s = none) :
      ((op.apply g).svc s).currentState = (g.svc s).currentState ∧
      ((op.apply g).svc s).nextState =
        (g.svc s).nextState.or (LockOp.firstOther (g.svc s).currentState s [op]) :=
    ⟨h.currentState, by simp [h.nextState, LockOp.firstOther, hm]⟩
  cases op with
  | mark t st =>
    by_cases h : t = s
    · subst h
      obtain ⟨hc, hn⟩ := mark_locked g t st hs hp
      refine ⟨hc, hn.trans ?_⟩
      by_cases hst : st = (g.svc t).currentState <;> simp [firstOther, marks, hst]
    · refine same ?_ (by simp [marks, h])
      rw [apply, commonMarkService_svc_ne g st (Ne.symm h)]
      exact SameButLock.refl _
  | lock t => exact same (lock_sameButLock g s t) rfl
  | unlock t => exact same (unlock_sameButLock g s t hp) rfl
  | lockAll => exact same (lockAll_sameButLock g s g.activeDb) rfl
  | unlockAll => exact same (unlockAll_sameButLock s g.activeDb (false, g) hp) rfl

lemma LockOp.run_settled (hs : Settled (g.svc s)) (ops : List LockOp) :
    Settled ((LockOp.run ops g).svc s) := by
  induction ops generalizing g with
  | nil => exact hs
  | cons op ops ih => exact ih (apply_settled hs)

lemma LockOp.firstOther_cons (cur : AState) (s : Sid) (op : LockOp) (ops : List LockOp) :
    firstOther cur s (op :: ops) = (firstOther cur s [op]).or (firstOther cur s ops) := by
  unfold firstOther
  rw [← List.find?_append, ← List.filterMap_append, List.singleton_append]

lemma LockOp.run_locked (hs : Settled (g.svc s)) (hl : Locked s g ops) :
    ((run ops g).svc s).currentState = (g.svc s).currentState ∧
    ((run ops g).svc s).nextState =
      (g.svc s).nextState.or (firstOther (g.svc s).currentState s ops) := by
  induction ops generalizing g with
  | nil => simp [run, firstOther]
  | cons op ops ih =>
    obtain ⟨hp, hl⟩ := hl
    obtain ⟨hc, hn⟩ := apply_locked hs hp
    obtain ⟨hc', hn'⟩ := ih (apply_settled hs) hl
    refine ⟨hc'.trans hc, hn'.trans ?_⟩
    rw [hc, hn, firstOther_cons _ s op ops, Option.or_assoc]

lemma LockOp.run_lock_pos (hl : Locked s g ops) (hne : ops ≠ []) :
    0 < ((run ops g).svc s).stateLock := by
  induction ops generalizing g with
  | nil => exact absurd rfl hne
  | cons op ops ih =>
    cases ops with
    | nil => exact hl.1
    | cons op' ops => exact ih hl.2 (List.cons_ne_nil _ _)

lemma LockOp.firstOther_nil (cur : AState) (s : Sid) : firstOther cur s [] = none := rfl

end

structure LockExact (s : Sid) (g : G) : Prop where
  /-- Nothing is recorded on an unlocked service. -/
  settled : (g.svc s).stateLock = 0 → (g.svc s).nextState = none
  /-- No call changes the state of a service that is locked and stays locked. -/
  kept (op : LockOp) : 0 < (g.svc s).stateLock → 0 < ((op.apply g).svc s).stateLock →
    ((op.apply g).svc s).currentState = (g.svc s).currentState
  /-- In a region that starts here, the first other state is the one recorded. -/
  recorded (region : List LockOp) : (g.svc s).stateLock = 0 → Locked s g region →
    ((LockOp.run region g).svc s).nextState = LockOp.firstOther (g.svc s).currentState s region
  /-- Every mark after it fails and changes nothing. -/
  refused (region : List LockOp) (state : AState) :
    (g.svc s).stateLock = 0 → Locked s g region →
    (LockOp.firstOther (g.svc s).currentState s region).isSome →
    commonMarkService s state (LockOp.run region g) = (false, LockOp.run region g)
  /-- The outermost unlock returns TRUE iff a state was recorded. -/
  unlocked_iff (region : List LockOp) : (g.svc s).stateLock = 0 → Locked s g region →
    ((LockOp.run region g).svc s).stateLock = 1 →
    ((commonStateUnlock s (LockOp.run region g)).1 = true ↔
      (LockOp.firstOther (g.svc s).currentState s region).isSome)
  /-- It then enters that state and asks for the service to be handled. -/
  unlocked (region : List LockOp) (state : AState) :
    (g.svc s).stateLock = 0 → Locked s g region →
    ((LockOp.run region g).svc s).stateLock = 1 →
    LockOp.firstOther (g.svc s).currentState s region = some state →
    let g' := (commonStateUnlock s (LockOp.run region g)).2
    (g'.svc s).currentState = state ∧ (g'.svc s).alarm = 0 ∧
      (g'.svc s).nextState = none ∧ s ∈ g'.interrupt

/-- State locking is exact after every run of calls, nested as they may be. -/
theorem stateLock_exact (g : G) (s : Sid) (hs : Settled (g.svc s)) (ops : List LockOp) :
    LockExact s (LockOp.run ops g) := by
  have hs' := LockOp.run_settled hs ops
  generalize LockOp.run ops g = g at hs'
  have recorded (region : List LockOp) (h0 : (g.svc s).stateLock = 0)
      (hl : Locked s g region) : ((LockOp.run region g).svc s).nextState =
        LockOp.firstOther (g.svc s).currentState s region := by
    rw [(LockOp.run_locked hs' hl).2, hs' h0, Option.none_or]
  refine ⟨hs', ?_, recorded, ?_, ?_, ?_⟩
  · intro op _ hp
    exact (LockOp.apply_locked hs' hp).1
  · intro region state h0 hl hr
    have hne : region ≠ [] := by
      rintro rfl
      simp [LockOp.firstOther_nil] at hr
    exact commonMarkService_refused _ s state (LockOp.run_lock_pos hl hne)
      ((recorded region h0 hl).symm ▸ hr)
  · intro region h0 hl h1
    rw [← recorded region h0 hl]
    cases hn : ((LockOp.run region g).svc s).nextState with
    | none => simp [commonStateUnlock_none _ s (Nat.le_of_eq h1) hn]
    | some st => simp [commonStateUnlock_some _ s st (Nat.le_of_eq h1) hn]
  · intro region state h0 hl h1 hr
    rw [← recorded region h0 hl] at hr
    rw [commonStateUnlock_some _ s state (Nat.le_of_eq h1) hr]
    simp [ActiveType.enter, mem_setInterrupt]

/-- A service as `initng_active_db_new` leaves it. -/
theorem stateLock_exact_new :
    let g := (activeDbNew "net/eth0" (configGlobalNew ⟨0, 0⟩)).2
    Settled (g.svc 0) ∧
      LockExact 0 (LockOp.run [.lock 0, .mark 0 .loading, .lockAll, .unlock 0] g) :=
  ⟨fun _ => rfl, stateLock_exact _ 0 (fun _ => rfl) _⟩

end Initng
