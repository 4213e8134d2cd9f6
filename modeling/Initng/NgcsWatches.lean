import Initng.ListCursor
import Initng.NgcsRelease

/-! `modules/ngcs/initng_ngcs_cmds.c`. -/

namespace Initng

open StepRun List Option Function

/-- A channel: the number of its connection and its number there.  It stands for the entry that
was allocated with it, too. -/
abbrev ChanRef := ℕ × ℕ

structure NgcsWatch where
  chan : ChanRef
  name : Option String
  flags : BitVec 32
  deriving DecidableEq

def ngcsWatchStatus : BitVec 32 := 1
def ngcsWatchOutput : BitVec 32 := 2
def ngcsCurrentStatus : BitVec 32 := 4

inductive WatchList
  | watches
  | swatches
  | ewatches
  deriving DecidableEq

/-- The events that the hooks are registered for, with the message that they send; `marshals`
says whether `ngcs_marshal_active_db_h` succeeds. -/
inductive WatchEvent (β : Type)
  | serviceStatus (name : String) (marshals : Bool) (data : β)
  | serviceOutput (name : String) (data : β)
  | systemState (data : β)
  | error (data : β)

/-- The connections that are not freed, numbered in the order in which they were accepted, and the
walk that is going on, with the entry it has come to. -/
structure NgcsWatches (β : Type) where
  count : ℕ
  conn : ℕ → Option (NgcsConn β)
  nextid : ℕ → ℕ
  userdata : ChanRef → Bool
  watches : List NgcsWatch
  swatches : List ChanRef
  ewatches : List ChanRef
  walk : Option (WatchEvent β × ChanRef)

/-- What a run may die of: a walk that uses a freed entry or channel, or a call that does. -/
inductive WatchFault
  | walkFreed
  | callFreed
  deriving DecidableEq

section
variable {β : Type}

def NgcsWatches.refs (s : NgcsWatches β) : WatchList → List ChanRef
  | .watches => s.watches.map NgcsWatch.chan
  | .swatches => s.swatches
  | .ewatches => s.ewatches

/-- `ngcs_free_watch` and `ngcs_free_genwatch`: the entry that `userdata` points to is unlinked
and freed. -/
def ngcsFreeWatch (r : ChanRef) (s : NgcsWatches β) : NgcsWatches β :=
  if s.userdata r then
    { s with
      watches := s.watches.filter (·.chan ≠ r)
      swatches := s.swatches.filter (· ≠ r)
      ewatches := s.ewatches.filter (· ≠ r)
      userdata := update s.userdata r false }
  else s

def callOnfree (k : ℕ) (s : NgcsWatches β) : ChanEvent → NgcsWatches β
  | .onfree a => ngcsFreeWatch (k, a) s
  | _ => s

def NgcsWatches.put (k : ℕ) (c c' : NgcsConn β) (s : NgcsWatches β) : NgcsWatches β :=
  (c'.events.drop c.events.length).foldl (callOnfree k) { s with conn := update s.conn k (some c') }

def acceptedClient (s : NgcsWatches β) : NgcsWatches β :=
  { s with
    count := s.count + 1
    conn := update s.conn s.count (some (ngcsChanReg 0 true (some .chanDel) false newConn))
    nextid := update s.nextid s.count 1 }

def ngcsOpenChannel (k : ℕ) (c : NgcsConn β) (s : NgcsWatches β) : NgcsWatches β :=
  { s with
    conn := update s.conn k (some (ngcsChanReg (s.nextid k) false (some .chanDel) true c))
    nextid := update s.nextid k (s.nextid k + 1)
    userdata := update s.userdata (k, c.count) false }

def ngcsAddWatch (k : ℕ) (name : Option String) (flags : BitVec 32) (c : NgcsConn β)
    (s : NgcsWatches β) : NgcsWatches β :=
  let s := ngcsOpenChannel k c s
  { s with
    watches := s.watches ++ [⟨(k, c.count), name, flags⟩]
    userdata := update s.userdata (k, c.count) true }

def ngcsAddSwatch (k : ℕ) (c : NgcsConn β) (s : NgcsWatches β) : NgcsWatches β :=
  let s := ngcsOpenChannel k c s
  { s with swatches := s.swatches ++ [(k, c.count)] }

def ngcsAddEwatch (k : ℕ) (c : NgcsConn β) (s : NgcsWatches β) : NgcsWatches β :=
  let s := ngcsOpenChannel k c s
  { s with ewatches := s.ewatches ++ [(k, c.count)] }

inductive WatchCall (β : Type)
  | accept
  | addWatch (k : ℕ) (name : Option String) (flags : BitVec 32)
  | addSwatch (k : ℕ)
  | addEwatch (k : ℕ)
  | act (k : ℕ) (op : ConnAct β)
  | free (k : ℕ)
  | event (e : WatchEvent β)

def WatchEvent.list : WatchEvent β → WatchList
  | serviceStatus _ _ _ => .watches
  | serviceOutput _ _ => .watches
  | systemState _ => .swatches
  | error _ => .ewatches

def NgcsWatches.onConn (k : ℕ) (f : NgcsConn β → NgcsWatches β → NgcsWatches β)
    (s : NgcsWatches β) : Except WatchFault (NgcsWatches β) :=
  match s.conn k with
  | none => .error .callFreed
  | some c => .ok (f c s)

def NgcsWatches.act (k : ℕ) (op : ConnAct β) (s : NgcsWatches β) :
    Except WatchFault (NgcsWatches β) :=
  match (s.conn k).bind fun c => (op.apply c).map fun c' => s.put k c c' with
  | none => .error .callFreed
  | some s' => .ok s'

def WatchCall.apply (s : NgcsWatches β) : WatchCall β → Except WatchFault (NgcsWatches β)
  | accept => .ok (acceptedClient s)
  | addWatch k name flags => s.onConn k (ngcsAddWatch k name flags)
  | addSwatch k => s.onConn k (ngcsAddSwatch k)
  | addEwatch k => s.onConn k (ngcsAddEwatch k)
  | act k op => s.act k op
  -- `clean_dead_conns`
  | free k =>
    .ok (if (s.conn k).any fun c => c.isOpen then s
      else { s with conn := update s.conn k none })
  | event e => .ok { s with walk := (s.refs e.list).head?.map fun r => (e, r) }

def WatchEvent.wants (s : NgcsWatches β) (r : ChanRef) : WatchEvent β → Bool
  | serviceStatus name _ _ => s.watches.any fun w => w.chan = r &&
      (w.flags &&& ngcsWatchStatus ≠ 0 && w.name.all (· = name))
  | serviceOutput name _ => s.watches.any fun w => w.chan = r &&
      (w.flags &&& ngcsWatchOutput ≠ 0 && w.name.all (· = name))
  | systemState _ => true
  | error _ => true

def WatchEvent.marshals : WatchEvent β → Bool
  | serviceStatus _ marshals _ => marshals
  | _ => true

def WatchEvent.data : WatchEvent β → β
  | serviceStatus _ _ data => data
  | serviceOutput _ data => data
  | systemState data => data
  | error data => data

/-- `service_output_watch` returns when a send fails. -/
def WatchEvent.returns : WatchEvent β → Bool
  | serviceOutput _ _ => true
  | _ => false

def nextEntry (r : ChanRef) (l : List ChanRef) : Option ChanRef := (l.dropWhile (· ≠ r)).tail.head?

def advanceWalk (e : WatchEvent β) (next : Option ChanRef) (s : NgcsWatches β) :
    Except WatchFault (NgcsWatches β) :=
  match next with
  | none => .ok { s with walk := none }
  | some r =>
    if r ∈ s.refs e.list then .ok { s with walk := some (e, r) }
    else .error .walkFreed

def visit (fails : Bool) (e : WatchEvent β) (r : ChanRef) (s : NgcsWatches β) :
    Except WatchFault (NgcsWatches β) :=
  let next := nextEntry r (s.refs e.list)
  if ¬ e.wants s r then advanceWalk e next s
  else if ¬ e.marshals then .ok { s with walk := none }
  else
    match (s.conn r.1).bind fun c => (ngcsChanSend fails r.2 e.data c).map fun c' => (c, c') with
    | none => .error .walkFreed
    | some (c, c') =>
      if e.returns ∧ ¬ c'.isOpen then .ok { s.put r.1 c c' with walk := none }
      else advanceWalk e next (s.put r.1 c c')

inductive WatchStep (β : Type)
  | call (c : WatchCall β)
  | visit (fails : Bool)

/-- While a walk is going on there are no calls. -/
def WatchStep.apply (s : NgcsWatches β) : WatchStep β → Except WatchFault (NgcsWatches β)
  | call c => if s.walk.isSome then .ok s else c.apply s
  | visit fails =>
    match s.walk with
    | none => .ok s
    | some (e, r) => Initng.visit fails e r s

def answerOnChan0 (k : ℕ) (fails : Bool) (data : β) : WatchStep β :=
  .call (.act k (.send 0 fails data))

/-- `ngcs_watch_initial` on the channel `a`: the messages it sends, up to one that fails. -/
def ngcsWatchInitial (k a : ℕ) : List (Bool × β) → List (WatchStep β)
  | [] => []
  | (fails, data) :: ms =>
    .call (.act k (.send a fails data)) :: if fails then [] else ngcsWatchInitial k a ms

def ngcsCmdWatch (k a : ℕ) (name : Option String) (flags : BitVec 32) (fails : Bool) (answer : β)
    (initial : List (Bool × β)) : List (WatchStep β) :=
  .call (.addWatch k name flags) :: answerOnChan0 k fails answer :: ngcsWatchInitial k a initial

def ngcsCmdStart (k a : ℕ) (name : String) (found : Bool) (fails : Bool) (answer : β)
    (initial : List (Bool × β)) : List (WatchStep β) :=
  ngcsCmdWatch k a (some name)
    (if found then ngcsWatchStatus ||| ngcsWatchOutput ||| ngcsCurrentStatus
      else ngcsWatchStatus ||| ngcsWatchOutput) fails answer initial

def ngcsCmdStop (k a : ℕ) (name : String) (fails : Bool) (answer : β)
    (initial : List (Bool × β)) : List (WatchStep β) :=
  ngcsCmdWatch k a (some name) (ngcsWatchStatus ||| ngcsWatchOutput ||| ngcsCurrentStatus)
    fails answer initial

def ngcsCmdSwatch (k : ℕ) (fails : Bool) (answer : β) : List (WatchStep β) :=
  [.call (.addSwatch k), answerOnChan0 k fails answer]

def ngcsCmdEwatch (k : ℕ) (fails : Bool) (answer : β) : List (WatchStep β) :=
  [.call (.addEwatch k), answerOnChan0 k fails answer]

section
variable {s s' : NgcsWatches β} {k : ℕ}

lemma mem_refs_freeWatch (l : WatchList) (r r' : ChanRef) (s : NgcsWatches β) :
    r' ∈ (ngcsFreeWatch r s).refs l ↔ r' ∈ s.refs l ∧ ¬ (r' = r ∧ s.userdata r' = true) := by
  unfold ngcsFreeWatch
  split
  next hdata =>
    have hiff : r' ≠ r ↔ ¬ (r' = r ∧ s.userdata r' = true) := by
      refine ⟨fun hne h => hne h.1, fun h hr => h ⟨hr, hr ▸ hdata⟩⟩
    rw [← hiff]
    cases l with
    | watches =>
      simp only [NgcsWatches.refs, List.mem_map, List.mem_filter, decide_eq_true_eq]
      constructor
      · rintro ⟨w, ⟨hw, hne⟩, rfl⟩
        exact ⟨⟨w, hw, rfl⟩, hne⟩
      · rintro ⟨⟨w, hw, rfl⟩, hne⟩
        exact ⟨w, ⟨hw, hne⟩, rfl⟩
    | swatches | ewatches => simp [NgcsWatches.refs]
  next hdata => exact ⟨fun h => ⟨h, fun hr => hdata (hr.1 ▸ hr.2)⟩, And.left⟩

lemma userdata_freeWatch (r r' : ChanRef) (s : NgcsWatches β) :
    (ngcsFreeWatch r s).userdata r' = true ↔ s.userdata r' = true ∧ r' ≠ r := by
  unfold ngcsFreeWatch
  split
  next hdata =>
    by_cases hr : r' = r
    · subst hr
      simp
    · simp [hr]
  next hdata =>
    refine ⟨fun h => ⟨h, ?_⟩, And.left⟩
    rintro rfl
    exact hdata h

lemma freeWatch_conn (r : ChanRef) (s : NgcsWatches β) :
    (ngcsFreeWatch r s).conn = s.conn ∧ (ngcsFreeWatch r s).count = s.count ∧
      (ngcsFreeWatch r s).walk = s.walk := by
  unfold ngcsFreeWatch
  split <;> exact ⟨rfl, rfl, rfl⟩

/-- What the `onfree` hooks do: the entry of a channel leaves its list if `userdata` is set. -/
structure Released (k : ℕ) (es : List ChanEvent) (s s' : NgcsWatches β) : Prop where
  conn : s'.conn = s.conn
  count : s'.count = s.count
  walk : s'.walk = s.walk
  userdata : ∀ r, s'.userdata r = true ↔ s.userdata r = true ∧ ¬ (r.1 = k ∧ .onfree r.2 ∈ es)
  refs : ∀ l r, r ∈ s'.refs l ↔ r ∈ s.refs l ∧ ¬ (s.userdata r = true ∧ r.1 = k ∧ .onfree r.2 ∈ es)

variable {es : List ChanEvent} {l : WatchList} {r : ChanRef}

lemma Released.refl (k : ℕ) (h : ∀ a, .onfree a ∉ es) (s : NgcsWatches β) : Released k es s s :=
  ⟨rfl, rfl, rfl, fun r => by simp [h], fun l r => by simp [h]⟩

lemma Released.cons {e : ChanEvent} {s₁ : NgcsWatches β} (h₁ : Released k [e] s s₁)
    (h₂ : Released k es s₁ s') : Released k (e :: es) s s' := by
  refine ⟨h₂.conn.trans h₁.conn, h₂.count.trans h₁.count, h₂.walk.trans h₁.walk,
    fun r => ?_, fun l r => ?_⟩
  · rw [h₂.userdata, h₁.userdata, mem_singleton, mem_cons]
    tauto
  · rw [h₂.refs, h₁.refs, h₁.userdata, mem_singleton, mem_cons]
    tauto

lemma released_callOnfree (k : ℕ) (e : ChanEvent) (s : NgcsWatches β) :
    Released k [e] s (callOnfree k s e) := by
  cases e with
  | registered | onclose => exact .refl k (by simp) s
  | onfree a =>
    have hiff : ∀ r : ChanRef, (r.1 = k ∧ ChanEvent.onfree r.2 ∈ [ChanEvent.onfree a]) ↔
        r = (k, a) := by
      rintro ⟨k', a'⟩
      simp
    obtain ⟨hconn, hcount, hwalk⟩ := freeWatch_conn (k, a) s
    refine ⟨hconn, hcount, hwalk, fun r => ?_, fun l r => ?_⟩
    · rw [hiff]
      exact userdata_freeWatch (k, a) r s
    · rw [hiff, and_comm (a := s.userdata r = true)]
      exact mem_refs_freeWatch l (k, a) r s

lemma released_foldl (k : ℕ) (es : List ChanEvent) (s : NgcsWatches β) :
    Released k es s (es.foldl (callOnfree k) s) := by
  induction es generalizing s with
  | nil => exact .refl k (by simp) s
  | cons e es ih => exact (released_callOnfree k e s).cons (ih _)

/-- Every entry has a channel whose `onfree` hook is still to be called, and the hook finds the
entries of `watches`. -/
structure EntriesHeld (s : NgcsWatches β) : Prop where
  fresh : ∀ k, s.count ≤ k → s.conn k = none
  numbered : ∀ k c, s.conn k = some c → Numbered c
  held : ∀ l, ∀ r ∈ s.refs l, ∃ c, s.conn r.1 = some c ∧ HeldAt c r.2
  userdata : ∀ r ∈ s.refs .watches, s.userdata r = true

structure WatchInv (s : NgcsWatches β) : Prop extends EntriesHeld s where
  walk : ∀ e r, s.walk = some (e, r) → r ∈ s.refs e.list

@[simp] lemma refs_setWalk (w : Option (WatchEvent β × ChanRef)) (l : WatchList) :
    ({ s with walk := w } : NgcsWatches β).refs l = s.refs l := by
  cases l <;> rfl

lemma EntriesHeld.setWalk (h : EntriesHeld s) (w : Option (WatchEvent β × ChanRef)) :
    EntriesHeld { s with walk := w } :=
  ⟨h.fresh, h.numbered, fun l r hr => h.held l r (by simpa using hr), h.userdata⟩

variable {c c' : NgcsConn β} {p : ℕ → Bool} {es : List ChanEvent}

lemma put_released (s : NgcsWatches β) (k : ℕ) (op : ConnOp p es c c') :
    Released k es { s with conn := update s.conn k (some c') } (s.put k c c') := by
  have hdrop : c'.events.drop c.events.length = es := by rw [op.events, drop_left]
  rw [NgcsWatches.put, hdrop]
  exact released_foldl k es _

lemma mem_refs_put (op : ConnOp p es c c') (l : WatchList) (r : ChanRef) :
    r ∈ (s.put k c c').refs l ↔
      r ∈ s.refs l ∧ ¬ (s.userdata r = true ∧ r.1 = k ∧ .onfree r.2 ∈ es) := by
  rw [(put_released s k op).refs]
  cases l <;> rfl

lemma EntriesHeld.changed (h : EntriesHeld s) (s' : NgcsWatches β) {d : Option (NgcsConn β)}
    (hconn : s'.conn = update s.conn k d) (hn : ∀ c, d = some c → Numbered c)
    (hcount : s.count ≤ s'.count) (hk : s'.count ≤ k → d = none)
    (hrefs : ∀ l, ∀ r ∈ s'.refs l,
      r.1 ≠ k ∧ r ∈ s.refs l ∨ r.1 = k ∧ ∃ c, d = some c ∧ HeldAt c r.2)
    (hdata : ∀ r ∈ s'.refs .watches, s'.userdata r = true) : EntriesHeld s' := by
  refine ⟨fun k' hk' => ?_, fun k' c hc => ?_, fun l r hr => ?_, hdata⟩
  · rw [hconn]
    by_cases hkk : k' = k
    · rw [hkk, update_self]
      exact hk (hkk ▸ hk')
    · rw [update_of_ne hkk]
      exact h.fresh k' (Nat.le_trans hcount hk')
  · rw [hconn] at hc
    by_cases hkk : k' = k
    · rw [hkk, update_self] at hc
      exact hn c hc
    · rw [update_of_ne hkk] at hc
      exact h.numbered k' c hc
  · rw [hconn]
    rcases hrefs l r hr with ⟨hrk, hr⟩ | ⟨hrk, hheld⟩
    · rw [update_of_ne hrk]
      exact h.held l r hr
    · rw [hrk, update_self]
      exact hheld

lemma EntriesHeld.lt_count (h : EntriesHeld s) (hc : s.conn k = some c) : k < s.count := by
  by_contra hge
  rw [h.fresh k (Nat.le_of_not_lt hge)] at hc
  cases hc

lemma EntriesHeld.put (h : EntriesHeld s) (hc : s.conn k = some c) (op : ConnOp p es c c')
    (hgen : ∀ r ∈ s.swatches ++ s.ewatches, r.1 = k → p r.2 = false) :
    EntriesHeld (s.put k c c') := by
  have hput := put_released s k op
  have hcount : (s.put k c c').count = s.count := hput.count
  refine h.changed (s.put k c c') hput.conn
    (fun d hd => some.inj hd ▸ op.numbered (h.numbered k c hc)) (Nat.le_of_eq hcount.symm)
    (fun hge => absurd (h.lt_count hc) (by omega)) (fun l r hr => ?_) fun r hr => ?_
  · obtain ⟨hr, hnot⟩ := (mem_refs_put op l r).mp hr
    by_cases hrk : r.1 = k
    · obtain ⟨d, hd, hheld⟩ := h.held l r hr
      rw [hrk, hc] at hd
      obtain rfl := some.inj hd
      refine .inr ⟨hrk, c', rfl, (op.held r.2 hheld).resolve_right fun hm => ?_⟩
      -- the hook was called: it has unlinked the entry, or the channel was not to be released
      cases l with
      | watches => exact hnot ⟨h.userdata r hr, hrk, hm⟩
      | swatches => exact op.quiet r.2 (hgen r (mem_append_left _ hr) hrk) hm
      | ewatches => exact op.quiet r.2 (hgen r (mem_append_right _ hr) hrk) hm
    · exact .inl ⟨hrk, hr⟩
  · obtain ⟨hr, hnot⟩ := (mem_refs_put op .watches r).mp hr
    have hdata := h.userdata r hr
    exact (hput.userdata r).mpr ⟨hdata, fun hm => hnot ⟨hdata, hm⟩⟩

lemma heldAt_reg (hn : Numbered c) (id : ℕ) (gotdata : Bool) (onclose : Option OnClose)
    (onfree : Bool) {a : ℕ} (h : HeldAt c a) :
    HeldAt (ngcsChanReg id gotdata onclose onfree c) a := by
  obtain ⟨ch, hch, hheld⟩ := h
  have hne : a ≠ c.count := by
    rintro rfl
    rw [hn _ (Nat.le_refl _)] at hch
    cases hch
  have hother : (ngcsChanReg id gotdata onclose onfree c).chan a = c.chan a := update_of_ne hne _ _
  exact ⟨ch, hother.trans hch, hheld⟩

lemma numbered_reg (hn : Numbered c) (id : ℕ) (gotdata : Bool) (onclose : Option OnClose)
    (onfree : Bool) : Numbered (ngcsChanReg id gotdata onclose onfree c) := by
  intro b hb
  have hb : c.count + 1 ≤ b := hb
  have hother : (ngcsChanReg id gotdata onclose onfree c).chan b = c.chan b :=
    update_of_ne (by omega) _ _
  rw [hother]
  exact hn b (by omega)

namespace EntriesHeld
variable (h : EntriesHeld s)
include h

lemma accept : EntriesHeld (acceptedClient s) := by
  refine h.changed (acceptedClient s) rfl
    (fun c hc => some.inj hc ▸ numbered_reg (fun _ _ => rfl) _ _ _ _) (Nat.le_succ _)
    (fun hge => absurd hge (Nat.not_succ_le_self _)) (fun l r hr => .inl ?_) h.userdata
  have hr : r ∈ s.refs l := by cases l <;> exact hr
  obtain ⟨c, hc, -⟩ := h.held l r hr
  exact ⟨Nat.ne_of_lt (h.lt_count hc), hr⟩

lemma free (hnone : ∀ l, ∀ r ∈ s.refs l, r.1 ≠ k) :
    EntriesHeld { s with conn := update s.conn k none } := by
  refine h.changed _ rfl (fun c hc => by cases hc) (Nat.le_refl _) (fun _ => rfl)
    (fun l r hr => .inl ?_) h.userdata
  have hr : r ∈ s.refs l := by cases l <;> exact hr
  exact ⟨hnone l r hr, hr⟩

variable (hc : s.conn k = some c)
include hc

lemma opened (s' : NgcsWatches β)
    (hconn : s'.conn = (ngcsOpenChannel k c s).conn) (hcount : s'.count = s.count)
    (hrefs : ∀ l, ∀ r ∈ s'.refs l, r ∈ s.refs l ∨ r = (k, c.count))
    (hdata : ∀ r ∈ s'.refs .watches, s'.userdata r = true) : EntriesHeld s' := by
  have hn := h.numbered k c hc
  refine h.changed s' hconn (fun d hd => some.inj hd ▸ numbered_reg hn _ _ _ _)
    (Nat.le_of_eq hcount.symm) (fun hge => absurd (h.lt_count hc) (by omega))
    (fun l r hr => ?_) hdata
  rcases hrefs l r hr with hr | rfl
  · by_cases hrk : r.1 = k
    · obtain ⟨c₀, hc₀, hheld⟩ := h.held l r hr
      obtain rfl := some.inj (hc.symm.trans (hrk ▸ hc₀))
      exact .inr ⟨hrk, _, rfl, heldAt_reg hn _ _ _ _ hheld⟩
    · exact .inl ⟨hrk, hr⟩
  · exact .inr ⟨rfl, _, rfl, _, update_self .., rfl, rfl⟩

lemma ne_new (hr : r ∈ s.refs l) : r ≠ (k, c.count) := by
  rintro rfl
  obtain ⟨d, hd, ch, hch, -⟩ := h.held l _ hr
  obtain rfl := some.inj (hc.symm.trans hd)
  rw [h.numbered k c hc _ (Nat.le_refl _)] at hch
  cases hch

lemma addWatch (name : Option String)
    (flags : BitVec 32) : EntriesHeld (ngcsAddWatch k name flags c s) := by
  have hmem : ∀ r ∈ (ngcsAddWatch k name flags c s).refs .watches,
      r ∈ s.refs .watches ∨ r = (k, c.count) := by
    intro r hr
    have hr : r ∈ (s.watches ++ [NgcsWatch.mk (k, c.count) name flags]).map NgcsWatch.chan := hr
    rw [map_append, mem_append] at hr
    exact hr.imp_right mem_singleton.mp
  refine h.opened hc (ngcsAddWatch k name flags c s) rfl rfl (fun l r hr => ?_) fun r hr => ?_
  · cases l with
    | watches => exact hmem r hr
    | swatches | ewatches => exact .inl hr
  · show update (update s.userdata (k, c.count) false) (k, c.count) true r = true
    rcases hmem r hr with hr | rfl
    · rw [update_of_ne (h.ne_new hc hr), update_of_ne (h.ne_new hc hr)]
      exact h.userdata r hr
    · exact update_self ..

lemma opened_userdata (hr : r ∈ s.refs .watches) : (ngcsOpenChannel k c s).userdata r = true := by
  show update s.userdata (k, c.count) false r = true
  rw [update_of_ne (h.ne_new hc hr)]
  exact h.userdata r hr

lemma addSwatch : EntriesHeld (ngcsAddSwatch k c s) := by
  refine h.opened hc (ngcsAddSwatch k c s) rfl rfl (fun l r hr => ?_) fun r hr =>
    h.opened_userdata hc hr
  cases l with
  | watches => exact .inl hr
  | swatches => exact (mem_append.mp hr).imp_right mem_singleton.mp
  | ewatches => exact .inl hr

lemma addEwatch : EntriesHeld (ngcsAddEwatch k c s) := by
  refine h.opened hc (ngcsAddEwatch k c s) rfl rfl (fun l r hr => ?_) fun r hr =>
    h.opened_userdata hc hr
  cases l with
  | watches | swatches => exact .inl hr
  | ewatches => exact (mem_append.mp hr).imp_right mem_singleton.mp

end EntriesHeld

end

/-- No channel of `swatches` or `ewatches` is released, and a connection that has gone down is
freed only when no entry refers to it. -/
def WatchCall.Fine (s : NgcsWatches β) : WatchCall β → Prop
  | act k op => ∀ c, s.conn k = some c →
      ∀ r ∈ s.swatches ++ s.ewatches, r.1 = k → op.mayRelease c r.2 = false
  | free k => ∀ l, ∀ r ∈ s.refs l, r.1 ≠ k
  | _ => True

/-- A send that fails: its connection has no entry on `swatches` or `ewatches`, and the next
entry of the walk belongs to another connection, unless the hook returns. -/
def VisitFine (fails : Bool) (e : WatchEvent β) (r : ChanRef) (s : NgcsWatches β) : Prop :=
  fails → e.wants s r → e.marshals →
    (∀ r' ∈ s.swatches ++ s.ewatches, r'.1 ≠ r.1) ∧
    (e.returns ∨ ∀ r', nextEntry r (s.refs e.list) = some r' → r'.1 ≠ r.1)

def WatchStep.Fine (s : NgcsWatches β) : WatchStep β → Prop
  | call c => c.Fine s
  | visit fails => ∀ e r, s.walk = some (e, r) → VisitFine fails e r s

section
variable {s s' : NgcsWatches β}

lemma onConn_eq_ok {k : ℕ} {f : NgcsConn β → NgcsWatches β → NgcsWatches β}
    (h : s.onConn k f = .ok s') : ∃ c, s.conn k = some c ∧ s' = f c s := by
  unfold NgcsWatches.onConn at h
  split at h
  · cases h
  next c hc => exact ⟨c, hc, (Except.ok.inj h).symm⟩

lemma act_eq_ok {k : ℕ} {op : ConnAct β} (h : s.act k op = .ok s') :
    ∃ c c', s.conn k = some c ∧ op.apply c = some c' ∧ s' = s.put k c c' := by
  unfold NgcsWatches.act at h
  split at h
  · cases h
  next t ht =>
    obtain ⟨c, hc, ht⟩ := bind_eq_some_iff.mp ht
    obtain ⟨c', hc', rfl⟩ := map_eq_some_iff.mp ht
    exact ⟨c, c', hc, hc', (Except.ok.inj h).symm⟩

lemma WatchCall.apply_inv (h : EntriesHeld s) {call : WatchCall β} (hf : call.Fine s)
    (hs : call.apply s = .ok s') (hw : s.walk = none) : WatchInv s' := by
  have hidle : ∀ {t : NgcsWatches β}, EntriesHeld t → t.walk = none → WatchInv t :=
    fun ht htw => ⟨ht, fun e r hr => by cases htw.symm.trans hr⟩
  cases call with
  | accept =>
    obtain rfl := Except.ok.inj hs
    exact hidle h.accept hw
  | addWatch k name flags =>
    obtain ⟨c, hc, rfl⟩ := onConn_eq_ok hs
    exact hidle (h.addWatch hc name flags) hw
  | addSwatch k =>
    obtain ⟨c, hc, rfl⟩ := onConn_eq_ok hs
    exact hidle (h.addSwatch hc) hw
  | addEwatch k =>
    obtain ⟨c, hc, rfl⟩ := onConn_eq_ok hs
    exact hidle (h.addEwatch hc) hw
  | act k op =>
    obtain ⟨c, c', hc, hc', rfl⟩ := act_eq_ok hs
    obtain ⟨es, hop⟩ := op.connOp (h.numbered k c hc) hc'
    exact hidle (h.put hc hop (hf c hc)) ((put_released s k hop).walk.trans hw)
  | free k =>
    obtain rfl := Except.ok.inj hs
    split
    · exact hidle h hw
    · exact hidle (h.free hf) hw
  | event e =>
    obtain rfl := Except.ok.inj hs
    refine ⟨h.setWalk _, fun e' r hr => ?_⟩
    obtain ⟨r', hr', heq⟩ := map_eq_some_iff.mp hr
    obtain ⟨rfl, rfl⟩ := Prod.mk.inj heq
    rw [refs_setWalk]
    exact mem_of_mem_head? hr'

lemma WatchCall.apply_ne_walkFreed (call : WatchCall β) (s : NgcsWatches β) :
    call.apply s ≠ .error .walkFreed := by
  have honConn : ∀ k f, s.onConn k f ≠ .error .walkFreed := by
    intro k f
    unfold NgcsWatches.onConn
    split <;> simp
  cases call with
  | accept => simp [WatchCall.apply]
  | addWatch | addSwatch | addEwatch => exact honConn _ _
  | act k op =>
    show s.act k op ≠ _
    unfold NgcsWatches.act
    split <;> simp
  | free | event => simp [WatchCall.apply]

lemma advanceWalk_inv (h : EntriesHeld s) {e : WatchEvent β} {next : Option ChanRef}
    (hnext : ∀ r, next = some r → r ∈ s.refs e.list) :
    ∃ s', advanceWalk e next s = .ok s' ∧ WatchInv s' := by
  cases next with
  | none => exact ⟨_, rfl, h.setWalk none, fun e r hr => by cases hr⟩
  | some r =>
    have hr := hnext r rfl
    refine ⟨_, if_pos hr, h.setWalk _, fun e' r' hr' => ?_⟩
    obtain ⟨rfl, rfl⟩ := Prod.mk.inj (some.inj hr')
    rw [refs_setWalk]
    exact hr

lemma visit_inv {fails : Bool} {e : WatchEvent β} {r : ChanRef} (h : EntriesHeld s)
    (hr : r ∈ s.refs e.list) (hf : VisitFine fails e r s) :
    ∃ s', visit fails e r s = .ok s' ∧ WatchInv s' := by
  have hnext : ∀ r', nextEntry r (s.refs e.list) = some r' → r' ∈ s.refs e.list :=
    ListCursor.within_next
  unfold visit
  by_cases hwants : e.wants s r
  swap
  · rw [if_pos hwants]
    exact advanceWalk_inv h hnext
  by_cases hmarshals : e.marshals
  swap
  · rw [if_neg (not_not.mpr hwants), if_pos hmarshals]
    exact ⟨_, rfl, h.setWalk none, fun e r hr => by cases hr⟩
  rw [if_neg (not_not.mpr hwants), if_neg (not_not.mpr hmarshals)]
  obtain ⟨c, hc, ch, hch, -⟩ := h.held _ r hr
  have hsend : ngcsChanSend fails r.2 e.data c = some (connSend fails ⟨ch.id, some e.data⟩ c) := by
    rw [ngcsChanSend, hch]
    rfl
  simp only [hc, hsend, bind_some, map_some]
  obtain ⟨es, hop⟩ := connOp_connSend (h.numbered r.1 c hc) fails ⟨ch.id, some e.data⟩
  have hput : EntriesHeld (s.put r.1 c (connSend fails ⟨ch.id, some e.data⟩ c)) := by
    refine h.put hc hop fun r' hr' hrr => ?_
    cases fails with
    | false => rfl
    | true => exact absurd hrr ((hf rfl hwants hmarshals).1 r' hr')
  split
  · exact ⟨_, rfl, hput.setWalk none, fun e r hr => by cases hr⟩
  next hgoes =>
    -- the next entry has not been freed by the send
    refine advanceWalk_inv hput fun r' hr' => (mem_refs_put hop _ _).mpr ⟨hnext r' hr', ?_⟩
    rintro ⟨-, hrr, hm⟩
    cases fails with
    | false => exact hop.quiet r'.2 rfl hm
    | true =>
      rcases (hf rfl hwants hmarshals).2 with hreturns | hother
      · exact hgoes ⟨hreturns, by rw [connSend_fails_isOpen]; decide⟩
      · exact hother r' hr' hrr

def EntriesLive (s : NgcsWatches β) : Prop :=
  ∀ l, ∀ r ∈ s.refs l, ∃ c ch, s.conn r.1 = some c ∧ c.chan r.2 = some ch

lemma EntriesHeld.live (h : EntriesHeld s) : EntriesLive s := by
  intro l r hr
  obtain ⟨c, hc, ch, hch, -⟩ := h.held l r hr
  exact ⟨c, ch, hc, hch⟩

lemma WatchInv.apply (h : WatchInv s) {step : WatchStep β} (hf : step.Fine s) :
    step.apply s ≠ .error .walkFreed ∧ ∀ s', step.apply s = .ok s' → WatchInv s' := by
  have hsame : (Except.ok s : Except WatchFault _) ≠ .error .walkFreed ∧
      ∀ s', Except.ok s = (Except.ok s' : Except WatchFault _) → WatchInv s' :=
    ⟨by simp, fun s' hs => Except.ok.inj hs ▸ h⟩
  cases step with
  | call c =>
    cases hw : s.walk with
    | none =>
      have hcall : (WatchStep.call c).apply s = c.apply s := if_neg (by simp [hw])
      rw [hcall]
      exact ⟨c.apply_ne_walkFreed s, fun s' hs => c.apply_inv h.toEntriesHeld hf hs hw⟩
    | some w =>
      have hcall : (WatchStep.call c).apply s = .ok s := if_pos (by simp [hw])
      rw [hcall]
      exact hsame
  | visit fails =>
    cases hw : s.walk with
    | none =>
      have hvisit : (WatchStep.visit fails).apply s = .ok s := by simp [WatchStep.apply, hw]
      rw [hvisit]
      exact hsame
    | some w =>
      obtain ⟨e, r⟩ := w
      obtain ⟨t, ht, hinv⟩ := visit_inv h.toEntriesHeld (h.walk e r hw) (hf e r hw)
      have hvisit : (WatchStep.visit fails).apply s = .ok t := by simp [WatchStep.apply, hw, ht]
      rw [hvisit]
      exact ⟨by simp, fun s' hs => Except.ok.inj hs ▸ hinv⟩

end

def newWatches : NgcsWatches β := ⟨0, fun _ => none, fun _ => 0, fun _ => false, [], [], [], none⟩

lemma newWatches_inv : WatchInv (newWatches : NgcsWatches β) where
  fresh _ _ := rfl
  numbered _ _ hc := by cases hc
  held l _ hr := by cases l <;> cases hr
  userdata _ hr := by cases hr
  walk _ _ hw := by cases hw

def stepWatches (step : WatchStep β) (o : Except WatchFault (NgcsWatches β)) :
    Except WatchFault (NgcsWatches β) :=
  o.bind fun s => step.apply s

def FineWatchSteps (steps : List (WatchStep β)) : Prop :=
  Along stepWatches (fun o step => ∀ s, o = .ok s → step.Fine s) (.ok newWatches) steps

/-- If no channel of `swatches` and `ewatches` is released and no send fails in front of an
entry of the same connection, all entries are live and no walk uses a freed one. -/
theorem watches_live {steps : List (WatchStep β)} (hfine : FineWatchSteps steps) :
    run stepWatches steps (.ok newWatches) ≠ .error .walkFreed ∧
      ∀ s, run stepWatches steps (.ok newWatches) = .ok s → EntriesLive s := by
  have hinv : run stepWatches steps (.ok newWatches) ≠ .error .walkFreed ∧
      ∀ s, run stepWatches steps (.ok newWatches) = .ok s → WatchInv (s : NgcsWatches β) := by
    refine Along.invariant (I := fun o => o ≠ .error .walkFreed ∧ ∀ s, o = .ok s → WatchInv s)
      ?_ hfine ⟨by simp, fun s hs => ?_⟩
    · rintro (fault | s) step ⟨hne, hI⟩ hf
      · exact ⟨hne, fun s hs => by cases hs⟩
      · exact (hI s rfl).apply (hf s rfl)
    · obtain rfl := Except.ok.inj hs
      exact newWatches_inv
  exact ⟨hinv.1, fun s hs => (hinv.2 s hs).live⟩

/-- Three clients: two watch the service `net` and one watches for errors.  The first is gone
when `net` changes its state, and the walk goes on with the second. -/
def goneClient : List (WatchStep Unit) :=
  .call .accept :: .call .accept :: .call .accept ::
    (ngcsCmdStart 0 1 "net" true false () [(false, ()), (false, ())] ++
      ngcsCmdStop 1 1 "net" false () [(false, ())] ++ ngcsCmdEwatch 2 false () ++
      [.call (.event (.serviceStatus "net" true ())), .visit true, .visit false])

theorem watches_live_goneClient :
    ∃ s, run stepWatches goneClient (.ok newWatches) = .ok s ∧ s.refs .watches = [(1, 1)] ∧
      EntriesLive s := by
  have hfine : FineWatchSteps goneClient := by
    refine ⟨fun _ _ => trivial, fun _ _ => trivial, fun _ _ => trivial, fun _ _ => trivial,
      fun _ _ _ _ _ _ _ => rfl, fun _ _ _ _ _ _ _ => rfl, fun _ _ _ _ _ _ _ => rfl,
      fun _ _ => trivial, fun _ _ _ _ _ _ _ => rfl, fun _ _ _ _ _ _ _ => rfl,
      fun _ _ => trivial, fun _ _ _ _ _ _ _ => rfl, fun _ _ => trivial, ?_, ?_, trivial⟩
    · intro s hs e r hw _ _ _
      cases hs
      cases hw
      refine ⟨by decide, .inr fun r' hr' => ?_⟩
      cases hr'
      decide
    · intro s hs e r hw hfails
      cases hfails
  exact ⟨_, rfl, rfl, (watches_live hfine).2 _ rfl⟩

/-- Two watches on one connection, which is gone when the first is sent to: the walk goes on from
the second, which is freed.  And a connection that is closed behind the command `swatch`: the
entry of its channel stays on the list. -/
theorem watches_not_always_live :
    (∃ steps : List (WatchStep Unit),
      run stepWatches steps (.ok newWatches) = .error .walkFreed) ∧
    ∃ (steps : List (WatchStep Unit)) (s : NgcsWatches Unit),
      run stepWatches steps (.ok newWatches) = .ok s ∧ ¬ EntriesLive s := by
  constructor
  · exact ⟨.call .accept :: (ngcsCmdWatch 0 1 none ngcsWatchStatus false () [(false, ())] ++
      ngcsCmdWatch 0 2 none ngcsWatchStatus false () [(false, ())] ++
      [.call (.event (.serviceStatus "net" true ())), .visit true]), rfl⟩
  · refine ⟨.call .accept :: (ngcsCmdSwatch 0 false () ++ [.call (.act 0 .down)]), _, rfl, ?_⟩
    intro hlive
    obtain ⟨c, ch, hc, hch⟩ := hlive .swatches (0, 1) (.head _)
    cases hc
    cases hch

end

end Initng
