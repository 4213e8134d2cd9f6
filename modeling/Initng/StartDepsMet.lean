import Initng.DaemonHooks
import Initng.Requests
import Initng.StateLock

namespace Initng

namespace AState

def isStartDepsMet (state : AState) : Bool :=
  state = .serviceStartDepsMet ∨ state = .daemonStartDepsMet

def onTheWay (state : AState) : Bool :=
  state.isStartDepsMet ∨ state = .serviceStartMarked ∨ state = .serviceWaitingForStartDep ∨
    state = .daemonStartMarked ∨ state = .daemonWaitingForStartDep

lemma isStartDepsMet_eq_false {state : AState} (h : state.onTheWay = false) :
    state.isStartDepsMet = false := by
  cases hmet : state.isStartDepsMet with
  | false => rfl
  | true => simp [onTheWay, hmet] at h

end AState

namespace ActiveType

def Heads (kind : AState → Bool) (a : ActiveType) : Prop :=
  kind a.currentState = true ∨ ∃ st ∈ a.nextState, kind st = true

instance (kind : AState → Bool) (a : ActiveType) : Decidable (a.Heads kind) :=
  inferInstanceAs (Decidable (kind a.currentState = true ∨ ∃ st ∈ a.nextState, kind st = true))

def PastTest (a : ActiveType) : Prop := a.Heads AState.isStartDepsMet

def OnTheWay (a : ActiveType) : Prop := a.Heads AState.onTheWay

instance (a : ActiveType) : Decidable a.OnTheWay :=
  inferInstanceAs (Decidable (a.Heads AState.onTheWay))

lemma PastTest.onTheWay {a : ActiveType} (h : a.PastTest) : a.OnTheWay := by
  have hkind {st : AState} (hst : st.isStartDepsMet = true) : st.onTheWay = true := by
    simp [AState.onTheWay, hst]
  rcases h with h | ⟨st, hst, h⟩
  · exact .inl (hkind h)
  · exact .inr ⟨st, hst, hkind h⟩

def Known (a : ActiveType) : Prop := a.type = some ⟨"service"⟩ ∨ a.type = some ⟨"daemon"⟩

end ActiveType

section
variable {g : G} {s t : Sid} {st : AState} {kind : AState → Bool}

lemma heads_mark (h : ((commonMarkService s st g).2.svc t).Heads kind) :
    (g.svc t).Heads kind ∨ t = s ∧ kind st = true := by
  by_cases hts : t = s
  · subst hts
    rcases commonMarkService_records_or_enters g t st with ⟨next, hnext, he⟩ | ⟨-, he⟩
    · rw [he] at h
      simp only [G.modify_svc_self] at h
      rcases h with hcur | ⟨st', hst', hkind⟩
      · exact .inl (.inl hcur)
      · rcases hnext with hold | hnone | ⟨hnew, -⟩
        · exact .inl (.inr ⟨st', hold ▸ hst', hkind⟩)
        · simp [hnone] at hst'
        · obtain rfl : st = st' := by simpa [hnew] using hst'
          exact .inr ⟨rfl, hkind⟩
    · rw [he] at h
      exact .inr ⟨rfl, by simpa [ActiveType.Heads, ActiveType.enter] using h⟩
  · rw [commonMarkService_svc_ne _ _ hts] at h
    exact .inl h

lemma heads_unlock (h : ((commonStateUnlock s g).2.svc t).Heads kind) : (g.svc t).Heads kind := by
  by_cases hts : t = s
  · subst hts
    unfold commonStateUnlock at h
    dsimp only at h
    split at h
    · simp only [G.modify_svc_self] at h
      exact h
    split at h
    · simp only [G.modify_svc_self] at h
      exact h
    next next hnext =>
      simp only [G.modify_svc_self] at hnext
      have hkind : kind next = true := by
        simpa [ActiveType.Heads, ActiveType.enter] using h
      exact .inr ⟨next, hnext, hkind⟩
  · rwa [commonStateUnlock_svc_ne _ hts] at h

lemma not_heads_ofName (hnew : kind .new = false) (name : String) (now : Timeval) :
    ¬ (ActiveType.ofName name now).Heads kind := by
  simp [ActiveType.Heads, ActiveType.ofName, hnew]

end

/-- Only services of type `service` and `daemon` are on the way, and memory that is not
allocated yet has no type. -/
structure Typed (g : G) : Prop where
  onTheWay : ∀ s, (g.svc s).OnTheWay → (g.svc s).Known
  blank : ∀ s, g.brk ≤ s → (g.svc s).type = none

structure KeepsOut (g g' : G) : Prop where
  sysState : g'.sysState = g.sysState
  pastTest : ∀ s, (g'.svc s).PastTest → (g.svc s).PastTest
  registered : ∀ s ∈ g.activeDb, s ∈ g'.activeDb
  typed : Typed g → Typed g'
  known : Typed g → ∀ s, (g.svc s).Known → (g'.svc s).Known
  settled : (∀ s, Settled (g.svc s)) → ∀ s, Settled (g'.svc s)

lemma Typed.of_types {g g' : G} (ht : Typed g) (hbrk : g'.brk = g.brk)
    (htype : ∀ s, (g'.svc s).type = (g.svc s).type)
    (hway : ∀ s, (g'.svc s).OnTheWay → (g.svc s).OnTheWay ∨ (g.svc s).Known) : Typed g' where
  onTheWay s hs := by
    rw [ActiveType.Known, htype]
    rcases hway s hs with hs | hs
    · exact ht.onTheWay s hs
    · exact hs
  blank s hs := by rw [htype, ht.blank s (hbrk ▸ hs)]

namespace KeepsOut

variable {g g' g'' : G}

lemma refl (g : G) : KeepsOut g g := ⟨rfl, fun _ => id, fun _ => id, id, fun _ _ => id, id⟩

lemma trans (h : KeepsOut g g') (h' : KeepsOut g' g'') : KeepsOut g g'' where
  sysState := h'.sysState.trans h.sysState
  pastTest s hs := h.pastTest s (h'.pastTest s hs)
  registered s hs := h'.registered s (h.registered s hs)
  typed ht := h'.typed (h.typed ht)
  known ht s hs := h'.known (h.typed ht) s (h.known ht s hs)
  settled hs := h'.settled (h.settled hs)

lemma of_views (hsys : g'.sysState = g.sysState) (hdb : g'.activeDb = g.activeDb)
    (hbrk : g'.brk = g.brk)
    (hstate : ∀ s, (g'.svc s).currentState = (g.svc s).currentState)
    (hnext : ∀ s, (g'.svc s).nextState = (g.svc s).nextState)
    (hlock : ∀ s, (g'.svc s).stateLock = (g.svc s).stateLock)
    (htype : ∀ s, (g'.svc s).type = (g.svc s).type) : KeepsOut g g' := by
  have hheads (kind : AState → Bool) (s : Sid) (hs : (g'.svc s).Heads kind) :
      (g.svc s).Heads kind := by
    rwa [ActiveType.Heads, hstate, hnext] at hs
  refine ⟨hsys, hheads _, ?_, ?_, ?_, ?_⟩
  · rw [hdb]
    exact fun _ => id
  · exact fun ht => ht.of_types hbrk htype fun s hs => .inl (hheads _ s hs)
  · intro _ s hs
    rwa [ActiveType.Known, htype]
  · intro hs s h0
    rw [hnext]
    exact hs s (hlock s ▸ h0)

variable (s : Sid)

lemma modify {f : ActiveType → ActiveType}
    (hf : ∀ a, (f a).currentState = a.currentState ∧ (f a).nextState = a.nextState ∧
      (f a).stateLock = a.stateLock ∧ (f a).type = a.type) : KeepsOut g (g.modify s f) := by
  refine .of_views rfl rfl rfl ?_ ?_ ?_ ?_ <;>
  · intro t
    by_cases hts : t = s
    · subst hts
      simp [hf]
    · simp [hts]

lemma observe (o : Obs) : KeepsOut g (g.observe o) :=
  .of_views rfl rfl rfl (fun _ => rfl) (fun _ => rfl) (fun _ => rfl) (fun _ => rfl)

lemma setDependCache (count : ℕ) : KeepsOut g (setDependCache s count g) :=
  .modify s fun _ => ⟨rfl, rfl, rfl, rfl⟩

lemma set (type : SEntry) (s : Sid) : KeepsOut g (set type s g) := by
  unfold Initng.set
  split
  · exact .refl g
  · exact .modify s fun _ => ⟨rfl, rfl, rfl, rfl⟩

lemma dataRemove (type : SEntry) (s : Sid) : KeepsOut g (dataRemove type s g) :=
  .modify s fun _ => ⟨rfl, rfl, rfl, rfl⟩

lemma thenMark (h : KeepsOut g g') (s : Sid) {st : AState} (hmet : st.isStartDepsMet = false)
    (hknown : st.onTheWay = true → Typed g → (g.svc s).Known) :
    KeepsOut g (commonMarkService s st g').2 where
  sysState := (OwnChange.mark st).sysState.trans h.sysState
  pastTest t ht := by
    rcases heads_mark ht with ht | ⟨-, hst⟩
    · exact h.pastTest t ht
    · simp [hmet] at hst
  registered t ht := by
    rw [commonMarkService_activeDb]
    exact h.registered t ht
  typed ht := by
    refine (h.typed ht).of_types (commonMarkService_brk ..) (OwnChange.mark st).svc_type
      fun t hway => ?_
    rcases heads_mark hway with hway | ⟨rfl, hst⟩
    · exact .inl hway
    · exact .inr (h.known ht t (hknown hst ht))
  known ht t hs := by
    rw [ActiveType.Known, (OwnChange.mark st).svc_type]
    exact h.known ht t hs
  settled hs t := mark_settled g' t s st (h.settled hs t)

lemma mark {st : AState} (hst : st.onTheWay = false) :
    KeepsOut g (commonMarkService s st g).2 :=
  (refl g).thenMark s (AState.isStartDepsMet_eq_false hst) fun h => by simp [hst] at h

lemma lock : KeepsOut g (commonStateLock s g) := by
  have hheads (kind : AState → Bool) (t : Sid) (ht : ((commonStateLock s g).svc t).Heads kind) :
      (g.svc t).Heads kind := by
    by_cases hts : t = s
    · subst hts
      simp only [commonStateLock, G.modify_svc_self] at ht
      exact ht
    · rwa [commonStateLock_svc_ne _ hts] at ht
  have hown : OwnChange s g (commonStateLock s g) := OwnChange.modify _ fun _ => ⟨rfl, rfl, rfl⟩
  refine ⟨rfl, hheads _, fun _ => id, ?_, ?_, fun hs t => lock_settled g t s (hs t)⟩
  · exact fun ht => ht.of_types rfl hown.svc_type fun t h => .inl (hheads _ t h)
  · intro _ t ht
    rwa [ActiveType.Known, hown.svc_type]

lemma unlock : KeepsOut g (commonStateUnlock s g).2 where
  sysState := OwnChange.unlock.sysState
  pastTest t := heads_unlock
  registered t ht := by rwa [commonStateUnlock_activeDb]
  typed ht := ht.of_types (commonStateUnlock_brk ..) OwnChange.unlock.svc_type
    fun t h => .inl (heads_unlock h)
  known _ t ht := by rwa [ActiveType.Known, OwnChange.unlock.svc_type]
  settled hs t := unlock_settled g t s (hs t)

lemma new (name : String) : KeepsOut g (activeDbNew name g).2 := by
  have hout {kind : AState → Bool} (hnew : kind .new = false) (s : Sid)
      (hs : ((activeDbNew name g).2.svc s).Heads kind) : s ≠ g.brk ∧ (g.svc s).Heads kind := by
    by_cases hbrk : s = g.brk
    · subst hbrk
      simp only [activeDbNew, G.modify_svc_self] at hs
      exact absurd hs (not_heads_ofName hnew _ _)
    · rw [activeDbNew, G.modify_svc_ne _ _ _ _ hbrk] at hs
      exact ⟨hbrk, hs⟩
  refine ⟨rfl, fun s hs => (hout (by decide) s hs).2, fun _ => id, ?_, ?_, ?_⟩
  · intro ht
    refine ⟨fun s hs => ?_, fun s hs => ?_⟩
    · obtain ⟨hne, hs⟩ := hout (by decide) s hs
      simpa [activeDbNew, hne] using ht.onTheWay s hs
    · have hlt : g.brk < s := hs
      simpa [activeDbNew, Nat.ne_of_gt hlt] using ht.blank s (Nat.le_of_lt hlt)
  · intro ht s hs
    have hne : s ≠ g.brk := by
      rintro rfl
      simp [ActiveType.Known, ht.blank g.brk (Nat.le_refl _)] at hs
    simpa [activeDbNew, hne] using hs
  · intro hs s
    by_cases hbrk : s = g.brk
    · subst hbrk
      simp [activeDbNew, ActiveType.ofName, Settled]
    · simpa [activeDbNew, hbrk] using hs s

lemma register : KeepsOut g (activeDbRegister s g).2 := by
  rcases activeDbRegister_cases s g with he | ⟨-, he⟩
  · rw [he]
    exact .refl g
  · rw [he]
    exact ⟨rfl, fun _ => id, fun t ht => List.mem_append_left _ ht,
      fun ht => ⟨ht.onTheWay, ht.blank⟩, fun _ _ => id, id⟩

end KeepsOut

/-- The modules of the service types, with hooks of other modules that put no service past the
test. -/
structure CoreModules extends Modules where
  start_eq : toModules.start = typeModules.start
  stop_eq : toModules.stop = typeModules.stop
  restart_eq : ∀ type, toModules.restart type = none
  newActive_keeps : ∀ hook ∈ toModules.newActive, ∀ name st, KeepsOut st.1 (hook name st).2.1
  startDepMet_keeps : ∀ hook ∈ toModules.startDepMet, ∀ s g, KeepsOut g (hook.run s g).2
  stopDepMet_keeps : ∀ hook ∈ toModules.stopDepMet, ∀ s g, KeepsOut g (hook.run s g).2

section
variable {g : G} {s : Sid}

lemma keepsOut_turnHook (waiting : AState) {back marked : AState}
    (hback : back.onTheWay = false) (hmet : marked.isStartDepsMet = false)
    (hknown : marked.onTheWay = true → Typed g → (g.svc s).Known) :
    KeepsOut g (turnHook waiting back marked s g).2 := by
  unfold turnHook
  split
  · exact .mark s hback
  · exact (KeepsOut.refl g).thenMark s hmet hknown

lemma keepsOut_typeModules_start {type : Stype} {hook : Sid → G → Bool × G}
    (h : typeModules.start type = some hook) (htype : (g.svc s).type = some type) :
    KeepsOut g (hook s g).2 := by
  simp only [typeModules] at h
  split_ifs at h with hd hs <;> cases h
  · exact keepsOut_turnHook _ (by decide) (by decide) fun _ _ => .inr (hd ▸ htype)
  · exact keepsOut_turnHook _ (by decide) (by decide) fun _ _ => .inl (hs ▸ htype)
  · exact keepsOut_turnHook _ (by decide) (by decide) fun hway => absurd hway (by decide)

lemma typeModules_stop_turnHook {type : Stype} {hook : Sid → G → Bool × G}
    (h : typeModules.stop type = some hook) : ∃ waiting back marked,
      hook = turnHook waiting back marked ∧ back.onTheWay = false ∧ marked.onTheWay = false := by
  simp only [typeModules] at h
  split_ifs at h <;> cases h <;> exact ⟨_, _, _, rfl, by decide, by decide⟩

end

lemma KeepsOut.of_asked (m : CoreModules) {g g' : G}
    (h : Asked m.toModules KeepsOut g g') : KeepsOut g g' := by
  induction h with
  | refl g => exact .refl g
  | trans _ _ ih ih' => exact ih.trans ih'
  | other h => exact h
  | start htype hhook =>
    rw [m.start_eq] at hhook
    exact (KeepsOut.observe _).trans (keepsOut_typeModules_start hhook htype)
  | stop _ hhook _ =>
    rw [m.stop_eq] at hhook
    obtain ⟨waiting, back, marked, rfl, hback, hmarked⟩ := typeModules_stop_turnHook hhook
    exact (KeepsOut.observe _).trans (keepsOut_turnHook waiting hback
      (AState.isStartDepsMet_eq_false hmarked) fun hway => by simp [hmarked] at hway)
  | restart _ hhook => simp [m.restart_eq] at hhook
  | missing g s => exact .mark s (by decide)
  | cache g s count => exact .setDependCache s count
  | flag g s => exact .set .restarting s
  | unflag g s => exact .dataRemove .restarting s

lemma CoreModules.hooksDo (m : CoreModules) : HooksDo m.toModules KeepsOut :=
  ⟨m.newActive_keeps, m.startDepMet_keeps, m.stopDepMet_keeps⟩

end Initng
