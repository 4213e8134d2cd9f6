import Initng.NgcsChannels
import Initng.StepRun

namespace Initng

open StepRun List Option Function

variable {β : Type}

def hookCalls (a : ℕ) (c : NgcsConn β) : ℕ := c.events.count (.onclose a)

def HookPending (r : Option NgcsChan) (n : ℕ) : Prop :=
  n = 0 ∧ ∃ ch, r = some ch ∧ ch.onclose ≠ none ∧ ch.closeState ≠ .chanClosed ∧ ch.isFreed = false

def HookSpent (r : Option NgcsChan) (n : ℕ) : Prop :=
  n = 1 ∧ ∀ ch, r = some ch → ch.onclose = none ∨ ch.closeState = .chanClosed

def AwaitsPeer (c : NgcsConn β) (a : ℕ) : Prop :=
  ∃ ch, c.chan a = some ch ∧ ch.closeState = .chanClosing ∧ ch.onclose ≠ none

def ChanEvent.chan : ChanEvent → ℕ
  | registered a _ => a
  | onclose a => a
  | onfree a => a

variable {a : ℕ} {e : ChanEvent} {r : Option NgcsChan}

lemma closeEvents_chan {ch : NgcsChan} (h : e ∈ ch.closeEvents a) :
    e = .onclose a ∨ e = .onfree a := by
  unfold NgcsChan.closeEvents NgcsChan.freeEvents at h
  split at h
  · cases h
  · exact .inl (mem_singleton.mp h)
  · split at h
    · simpa using h
    · exact .inl (mem_singleton.mp h)

lemma downEvents_chan (h : e ∈ downEvents a r) : e = .onclose a ∨ e = .onfree a := by
  unfold downEvents at h
  split at h
  · cases h
  · split at h
    · exact closeEvents_chan h
    · cases h

lemma count_closeEvents (a : ℕ) (ch : NgcsChan) :
    (ch.closeEvents a).count (.onclose a) = if ch.onclose = none then 0 else 1 := by
  have hfree : (ch.freeEvents a).count (.onclose a) = 0 := by
    unfold NgcsChan.freeEvents
    split <;> simp
  unfold NgcsChan.closeEvents
  cases ch.onclose with
  | none => rfl
  | some hook => cases hook <;> simp [hfree]

lemma count_eq_zero_of_chan {b : ℕ} {es : List ChanEvent} (hab : a ≠ b)
    (h : ∀ e ∈ es, e = .onclose a ∨ e = .onfree a) : es.count (.onclose b) = 0 := by
  refine count_eq_zero.mpr fun hm => ?_
  rcases h _ hm with he | he
  · exact hab (ChanEvent.onclose.inj he).symm
  · cases he

lemma count_flatMap_downEvents (f : ℕ → Option NgcsChan) (n a : ℕ) :
    ((range n).flatMap fun b => downEvents b (f b)).count (.onclose a) =
      if a < n then (downEvents a (f a)).count (.onclose a) else 0 := by
  induction n with
  | zero => rfl
  | succ n ih =>
    rw [range_succ, flatMap_append, count_append, ih, flatMap_singleton]
    rcases Nat.lt_trichotomy a n with h | h | h
    · rw [if_pos h, if_pos (by omega),
        count_eq_zero_of_chan (Nat.ne_of_gt h) fun e => downEvents_chan, Nat.add_zero]
    · subst h
      rw [if_neg (Nat.lt_irrefl _), if_pos (Nat.lt_succ_self _), Nat.zero_add]
    · rw [if_neg (by omega), if_neg (by omega),
        count_eq_zero_of_chan (Nat.ne_of_lt h) fun e => downEvents_chan]

section
variable {ch : NgcsChan} {n : ℕ}

lemma closeState_of_shut {ch' : NgcsChan} (h : ch.shut = some ch') :
    ch'.closeState = .chanClosed := by
  unfold NgcsChan.shut at h
  split at h
  · cases h
  · obtain rfl := some.inj h
    rfl

variable (h : HookPending (some ch) n ∨ HookSpent (some ch) n)
include h

lemma hookSpent_shut
    (hs : ch.closeState ≠ .chanClosed) :
    HookSpent ch.shut (n + if ch.onclose = none then 0 else 1) := by
  refine ⟨?_, fun ch' hch' => .inr (closeState_of_shut hch')⟩
  rcases h with ⟨rfl, ch', hch', hhook, -⟩ | ⟨rfl, hspent⟩
  · obtain rfl := some.inj hch'
    rw [if_neg hhook]
  · rw [if_pos ((hspent ch rfl).resolve_right hs)]

lemma hookSpent_closedNow
    (hs : ch.closeState ≠ .chanClosed) :
    HookSpent (some ch.closedNow) (n + if ch.onclose = none then 0 else 1) := by
  refine ⟨(hookSpent_shut h hs).1, fun ch' hch' => .inl ?_⟩
  obtain rfl := some.inj hch'
  rfl

lemma hook_closing
    (hs : ch.closeState = .chanOpen) :
    HookPending (some ch.closing) n ∨ HookSpent (some ch.closing) n := by
  rcases h with ⟨hn, ch', hch', hhook, -, hfreed⟩ | ⟨hn, hspent⟩
  · obtain rfl := some.inj hch'
    exact .inl ⟨hn, _, rfl, hhook, by simp [NgcsChan.closing], hfreed⟩
  · refine .inr ⟨hn, fun ch' hch' => ?_⟩
    obtain rfl := some.inj hch'
    exact .inl ((hspent ch rfl).resolve_right (by rw [hs]; decide))

end

lemma hook_down {n : ℕ} (h : HookPending r n ∨ HookSpent r n)
    (hw : ∀ ch, r = some ch → ch.closeState = .chanClosing → ch.onclose = none) :
    HookSpent (downRecord r) (n + (downEvents a r).count (.onclose a)) := by
  cases r with
  | none =>
    rcases h with ⟨-, ch, hch, -⟩ | h
    · cases hch
    · exact h
  | some ch =>
    by_cases hs : ch.closeState = .chanOpen
    · have hshut := hookSpent_shut h (by rw [hs]; decide)
      simpa [downRecord, downEvents, hs, count_closeEvents] using hshut
    · have hspent : HookSpent (some ch) n := by
        rcases h with ⟨-, ch', hch', hhook, hclosed, -⟩ | h
        · obtain rfl := some.inj hch'
          cases hstate : ch.closeState with
          | chanOpen => exact absurd hstate hs
          | chanClosing => exact absurd (hw ch rfl hstate) hhook
          | chanClosed => exact absurd hstate hclosed
        · exact h
      simpa [downRecord, downEvents, hs] using hspent

def HookKept (c : NgcsConn β) (a : ℕ) : Prop :=
  HookPending (c.chan a) (hookCalls a c) ∨ HookSpent (c.chan a) (hookCalls a c)

def HasHook (c : NgcsConn β) (a : ℕ) : Prop := ∃ h, .registered a (some h) ∈ c.events

structure HooksKept (c : NgcsConn β) : Prop where
  chan : ∀ a, c.count ≤ a → c.chan a = none
  events : ∀ e ∈ c.events, e.chan < c.count
  hooks : ∀ a, HasHook c a → HookKept c a
  down : c.isOpen = false → ∀ a, HasHook c a → HookSpent (c.chan a) (hookCalls a c)

section
variable {c c' : NgcsConn β} {a : ℕ}

lemma HooksKept.lt (hk : HooksKept c) (ha : HasHook c a) : a < c.count := hk.events _ ha.choose_spec

variable {ch : NgcsChan} {b : ℕ} {fails : Bool}

lemma HooksKept.lt_of_chan (hk : HooksKept c) (hch : c.chan a = some ch) : a < c.count := by
  by_contra hle
  rw [hk.chan a (Nat.le_of_not_lt hle)] at hch
  cases hch

structure Changes (c c' : NgcsConn β) : Prop where
  count : c'.count = c.count
  chan : ∀ b, c.count ≤ b → c'.chan b = c.chan b
  events : ∃ es, c'.events = c.events ++ es ∧
    ∀ e ∈ es, ∃ b < c.count, e = .onclose b ∨ e = .onfree b

lemma Changes.trans {c'' : NgcsConn β} (h₁ : Changes c c') (h₂ : Changes c' c'') :
    Changes c c'' := by
  obtain ⟨es₁, he₁, hown₁⟩ := h₁.events
  obtain ⟨es₂, he₂, hown₂⟩ := h₂.events
  rw [h₁.count] at hown₂
  refine ⟨h₂.count.trans h₁.count, fun b hb => ?_, es₁ ++ es₂, ?_, fun e he => ?_⟩
  · rw [h₂.chan b (h₁.count ▸ hb), h₁.chan b hb]
  · rw [he₂, he₁, append_assoc]
  · exact (mem_append.mp he).elim (hown₁ e) (hown₂ e)

lemma Changes.hasHook_iff (h : Changes c c') (b : ℕ) : HasHook c' b ↔ HasHook c b := by
  obtain ⟨es, hes, hown⟩ := h.events
  simp only [HasHook, hes, mem_append]
  refine ⟨fun ⟨h, hm⟩ => ⟨h, hm.resolve_right fun hm => ?_⟩, fun ⟨h, hm⟩ => ⟨h, .inl hm⟩⟩
  obtain ⟨d, -, he | he⟩ := hown _ hm <;> cases he

lemma HooksKept.change (hk : HooksKept c) (h : Changes c c')
    (hooks : ∀ b, HasHook c b → HookKept c' b)
    (down : c'.isOpen = false → ∀ b, HasHook c b → HookSpent (c'.chan b) (hookCalls b c')) :
    HooksKept c' := by
  obtain ⟨es, hes, hown⟩ := h.events
  refine ⟨fun b hb => ?_, fun e he => ?_, fun b hb => hooks b ((h.hasHook_iff b).mp hb),
    fun ho b hb => down ho b ((h.hasHook_iff b).mp hb)⟩
  · rw [h.count] at hb
    rw [h.chan b hb, hk.chan b hb]
  · rw [h.count]
    rw [hes] at he
    rcases mem_append.mp he with he | he
    · exact hk.events e he
    · obtain ⟨b, hb, rfl | rfl⟩ := hown e he <;> exact hb

structure Touches (a : ℕ) (r : Option NgcsChan) (es : List ChanEvent) (c c' : NgcsConn β) :
    Prop where
  isOpen : c'.isOpen = c.isOpen
  count : c'.count = c.count
  chan : c'.chan = update c.chan a r
  events : c'.events = c.events ++ es
  own : ∀ e ∈ es, e = .onclose a ∨ e = .onfree a

variable {r : Option NgcsChan} {es : List ChanEvent}

lemma Touches.changes (t : Touches a r es c c') (ha : a < c.count) : Changes c c' :=
  ⟨t.count, fun b hb => by rw [t.chan, update_of_ne (by omega)], es, t.events,
    fun e he => ⟨a, ha, t.own e he⟩⟩

lemma Touches.other (t : Touches a r es c c') (hb : b ≠ a) :
    c'.chan b = c.chan b ∧ hookCalls b c' = hookCalls b c := by
  refine ⟨by rw [t.chan, update_of_ne hb], ?_⟩
  rw [hookCalls, t.events, count_append, count_eq_zero_of_chan hb.symm t.own]
  rfl

lemma Touches.self (t : Touches a r es c c') :
    c'.chan a = r ∧ hookCalls a c' = hookCalls a c + es.count (.onclose a) := by
  refine ⟨by rw [t.chan, update_self], ?_⟩
  rw [hookCalls, t.events, count_append]
  rfl

lemma HooksKept.touch (hk : HooksKept c) (t : Touches a r es c c') (ha : a < c.count)
    (hpend : HasHook c a → HookKept c a →
      HookPending r (hookCalls a c + es.count (.onclose a)) ∨
        HookSpent r (hookCalls a c + es.count (.onclose a)))
    (hdown : c.isOpen = false → HasHook c a → HookSpent (c.chan a) (hookCalls a c) →
      HookSpent r (hookCalls a c + es.count (.onclose a))) : HooksKept c' := by
  refine hk.change (t.changes ha) (fun b hb => ?_) fun ho b hb => ?_
  · by_cases hba : b = a
    · subst hba
      rw [HookKept, t.self.1, t.self.2]
      exact hpend hb (hk.hooks b hb)
    · rw [HookKept, (t.other hba).1, (t.other hba).2]
      exact hk.hooks b hb
  · rw [t.isOpen] at ho
    by_cases hba : b = a
    · subst hba
      rw [t.self.1, t.self.2]
      exact hdown ho hb (hk.down ho b hb)
    · rw [(t.other hba).1, (t.other hba).2]
      exact hk.down ho b hb

lemma touches_set (a : ℕ) (r : Option NgcsChan) (c : NgcsConn β) :
    Touches a r [] c (c.set a r) :=
  ⟨rfl, rfl, rfl, (append_nil _).symm, by simp⟩

lemma touches_chanShut (a : ℕ) (ch : NgcsChan) (c : NgcsConn β) :
    Touches a ch.shut (ch.closeEvents a) c (chanShut a ch c) := by
  rw [chanShut_eq]
  exact ⟨rfl, rfl, rfl, rfl, fun e => closeEvents_chan⟩

lemma touches_closeNowTold (fails : Bool) (a : ℕ) (ch : NgcsChan) (c : NgcsConn β) :
    Touches a (some ch.closedNow) (ch.closeEvents a)
      (connSend fails ⟨ch.id, none⟩ (c.set a (some ch.closing))) (closeNowTold fails a ch c) :=
  ⟨rfl, rfl, rfl, rfl, fun _ => closeEvents_chan⟩

section
variable (hk : HooksKept c)
include hk

lemma HooksKept.set_closing (hch : c.chan a = some ch)
    (hs : ch.closeState = .chanOpen) (ho : c.isOpen) : HooksKept (c.set a (some ch.closing)) := by
  refine hk.touch (touches_set ..) (hk.lt_of_chan hch) (fun _ h => ?_) fun hd => ?_
  · rw [HookKept, hch] at h
    exact hook_closing h hs
  · rw [ho] at hd
    cases hd

lemma HooksKept.chanShut (hch : c.chan a = some ch)
    (hs : ch.closeState ≠ .chanClosed) : HooksKept (chanShut a ch c) := by
  have hspent : HookKept c a → HookSpent ch.shut
      (hookCalls a c + (ch.closeEvents a).count (.onclose a)) := by
    intro h
    rw [HookKept, hch] at h
    rw [count_closeEvents]
    exact hookSpent_shut h hs
  exact hk.touch (touches_chanShut ..) (hk.lt_of_chan hch) (fun _ h => .inr (hspent h))
    fun _ _ h => hspent (.inr h)

lemma HooksKept.congr (hopen : c'.isOpen = c.isOpen)
    (hcount : c'.count = c.count) (hchan : c'.chan = c.chan) (hevents : c'.events = c.events) :
    HooksKept c' := by
  have hcalls : ∀ b, hookCalls b c' = hookCalls b c := fun b => by rw [hookCalls, hevents]; rfl
  refine hk.change ⟨hcount, fun b _ => by rw [hchan], [], by simp [hevents], by simp⟩
    (fun b hb => ?_) fun ho b hb => ?_
  · rw [HookKept, hchan, hcalls]
    exact hk.hooks b hb
  · rw [hchan, hcalls]
    exact hk.down (hopen ▸ ho) b hb

lemma hookCalls_down (b : ℕ) :
    (c.events ++ (range c.count).flatMap fun b => downEvents b (c.chan b)).count
      (.onclose b) = hookCalls b c + (downEvents b (c.chan b)).count (.onclose b) := by
  rw [count_append, count_flatMap_downEvents, hookCalls]
  by_cases hb : b < c.count
  · rw [if_pos hb]
  · rw [if_neg hb, hk.chan b (Nat.le_of_not_lt hb)]
    rfl

end

structure GoesDown (c c' : NgcsConn β) : Prop where
  isOpen : c'.isOpen = false
  count : c'.count = c.count
  chan : c'.chan = fun b => if b < c.count then downRecord (c.chan b) else c.chan b
  events : c'.events = c.events ++ (range c.count).flatMap fun b => downEvents b (c.chan b)

lemma GoesDown.changes (g : GoesDown c c') : Changes c c' := by
  refine ⟨g.count, fun b hb => ?_, _, g.events, fun e he => ?_⟩
  · rw [g.chan]
    exact if_neg (Nat.not_lt.mpr hb)
  · obtain ⟨d, hd, hed⟩ := mem_flatMap.mp he
    exact ⟨d, mem_range.mp hd, downEvents_chan hed⟩

lemma GoesDown.spent (g : GoesDown c c') (hk : HooksKept c) (hb : HasHook c b)
    (hw : ¬ AwaitsPeer c b) : HookSpent (c'.chan b) (hookCalls b c') := by
  simp only [g.chan, hk.lt hb, if_true, hookCalls, g.events, hookCalls_down hk]
  refine hook_down (hk.hooks b hb) fun ch hch hs => ?_
  by_contra hhook
  exact hw ⟨ch, hch, hs, hhook⟩

lemma GoesDown.kept (g : GoesDown c c') (hk : HooksKept c) (hw : ∀ b, ¬ AwaitsPeer c b) :
    HooksKept c' := by
  have hspent : ∀ b, HasHook c b → HookSpent (c'.chan b) (hookCalls b c') := fun b hb =>
    g.spent hk hb (hw b)
  exact hk.change g.changes (fun b hb => .inr (hspent b hb)) fun _ => hspent

lemma goesDown_ngcsConnClose (h : c.isOpen) : GoesDown c (ngcsConnClose c) := by
  rw [ngcsConnClose_eq h]
  exact ⟨rfl, rfl, rfl, rfl⟩

lemma goesDown_connSend (h : c.isOpen) (m : ChanMsg β) : GoesDown c (connSend true m c) := by
  rw [connSend_fails h]
  exact ⟨rfl, rfl, rfl, rfl⟩

/-- A channel is registered, this end closes one, or the other end does.  `fails` says whether
the socket fails when the message is sent. -/
inductive ChanStep
  | reg (id : ℕ) (gotdata : Bool) (onclose : Option OnClose) (onfree : Bool)
  | close (fails : Bool) (a : ℕ)
  | closeNow (fails : Bool) (a : ℕ)
  | peerClose (id : ℕ)

def ChanStep.apply (c : NgcsConn β) : ChanStep → Option (NgcsConn β)
  | reg id gotdata onclose onfree => some (ngcsChanReg id gotdata onclose onfree c)
  | close fails a => ngcsChanClose fails a c
  | closeNow fails a => ngcsChanCloseNow fails a c
  | peerClose id =>
    some (if c.isOpen then ngcsConnDispatchOne (fun _ _ c => c) false ⟨id, none⟩ c else c)

/-- Channels are registered while the connection is open, and when it goes down because the
socket fails, no channel waits. -/
def ChanStep.Fine (c : NgcsConn β) : ChanStep → Prop
  | reg _ _ _ _ => c.isOpen
  | close fails a => fails → ∀ ch, c.chan a = some ch → ch.closeState = .chanOpen → c.isOpen →
      ch.onclose = none ∧ ∀ b, ¬ AwaitsPeer c b
  | closeNow fails a => fails → ∀ ch, c.chan a = some ch → ch.closeState = .chanOpen → c.isOpen →
      ∀ b, ¬ AwaitsPeer c b
  | peerClose _ => True

namespace HooksKept
variable (hk : HooksKept c)
include hk

lemma reg (ho : c.isOpen) (id : ℕ) (gotdata : Bool)
    (onclose : Option OnClose) (onfree : Bool) :
    HooksKept (ngcsChanReg id gotdata onclose onfree c) := by
  set c' := ngcsChanReg id gotdata onclose onfree c
  have hevents : c'.events = c.events ++ [.registered c.count onclose] := rfl
  have hcalls (b : ℕ) : hookCalls b c' = hookCalls b c := by
    rw [hookCalls, hevents, count_append]
    exact Nat.add_zero _
  have hzero : hookCalls c.count c = 0 :=
    count_eq_zero.mpr fun hm => Nat.lt_irrefl _ (hk.events _ hm)
  refine ⟨fun b hb => ?_, fun e he => ?_, fun b ⟨h, hm⟩ => ?_, fun hd => ?_⟩
  · have hb : c.count + 1 ≤ b := hb
    rw [ngcsChanReg_chan_ne (by omega), hk.chan b (by omega)]
  · rw [hevents] at he
    change _ < c.count + 1
    rcases mem_append.mp he with he | he
    · exact Nat.lt_succ_of_lt (hk.events e he)
    · rw [mem_singleton.mp he]
      exact Nat.lt_succ_self _
  · rw [hevents] at hm
    rcases mem_append.mp hm with hm | hm
    · have hne : b ≠ c.count := Nat.ne_of_lt (hk.events _ hm)
      rw [HookKept, hcalls, ngcsChanReg_chan_ne hne]
      exact hk.hooks b ⟨h, hm⟩
    · obtain ⟨rfl, rfl⟩ := ChanEvent.registered.inj (mem_singleton.mp hm)
      rw [HookKept, hcalls, hzero]
      exact .inl ⟨rfl, _, update_self .., by simp, by simp, rfl⟩
  · cases Eq.trans (ho : c'.isOpen = true).symm hd

lemma close (hf : (ChanStep.close fails a).Fine c)
    (h : ngcsChanClose fails a c = some c') : HooksKept c' := by
  obtain ⟨ch, hch, hcloses⟩ := ngcsChanClose_cases h
  cases hcloses with
  | left hs => exact hk
  | told hs ho =>
    have hclosing := hk.set_closing hch hs ho
    cases fails with
    | false =>
      rw [connSend_ok (c := c.set a (some ch.closing)) ho]
      exact hclosing.congr rfl rfl rfl rfl
    | true =>
      obtain ⟨hnone, hw⟩ := hf rfl ch hch hs ho
      refine (goesDown_connSend (c := c.set a (some ch.closing)) ho _).kept hclosing fun b => ?_
      rintro ⟨ch', hch', hs', hhook⟩
      by_cases hb : b = a
      · subst hb
        obtain rfl := some.inj ((c.set_chan_self b _).symm.trans hch')
        exact hhook hnone
      · exact hw b ⟨ch', (c.set_chan_ne hb _).symm.trans hch', hs', hhook⟩
  | shut hs ho => exact hk.chanShut hch (by rw [hs]; decide)

lemma closeNow_fails (hch : c.chan a = some ch)
    (hs : ch.closeState = .chanOpen) (ho : c.isOpen) (hw : ∀ b, ¬ AwaitsPeer c b) {d : NgcsConn β}
    (g : GoesDown (c.set a (some ch.closing)) d)
    (t : Touches a (some ch.closedNow) (ch.closeEvents a) d c') : HooksKept c' := by
  have hclosing := hk.set_closing hch hs ho
  have ha := hk.lt_of_chan hch
  have hset := (touches_set a (some ch.closing) c).changes ha
  have hcalls : hookCalls a d = hookCalls a c := by
    rw [hookCalls, g.events, hookCalls_down hclosing, c.set_chan_self]
    rfl
  have hspent : ∀ b, HasHook c b → HookSpent (c'.chan b) (hookCalls b c') := by
    intro b hb
    by_cases hba : b = a
    · subst hba
      have hkept := hk.hooks b hb
      rw [HookKept, hch] at hkept
      rw [t.self.1, t.self.2, hcalls, count_closeEvents]
      exact hookSpent_closedNow hkept (by rw [hs]; decide)
    · rw [(t.other hba).1, (t.other hba).2]
      refine g.spent hclosing ((hset.hasHook_iff b).mpr hb) ?_
      rw [AwaitsPeer, c.set_chan_ne hba]
      exact hw b
  exact hk.change ((hset.trans g.changes).trans (t.changes (g.count ▸ ha)))
    (fun b hb => .inr (hspent b hb)) fun _ => hspent

lemma closeNow (hf : (ChanStep.closeNow fails a).Fine c)
    (h : ngcsChanCloseNow fails a c = some c') : HooksKept c' := by
  obtain ⟨ch, hch, hcloses⟩ := ngcsChanCloseNow_cases h
  cases hcloses with
  | left hs => exact hk
  | told hs ho =>
    cases fails with
    | false =>
      have t : Touches a (some ch.closedNow) (ch.closeEvents a) c (closeNowTold false a ch c) := by
        rw [closeNowTold, connSend_ok (c := c.set a (some ch.closing)) ho]
        exact ⟨rfl, rfl, update_idem .., rfl, fun e => closeEvents_chan⟩
      refine hk.touch t (hk.lt_of_chan hch) (fun _ hkept => .inr ?_) fun hd => ?_
      · rw [HookKept, hch] at hkept
        rw [count_closeEvents]
        exact hookSpent_closedNow hkept (by rw [hs]; decide)
      · rw [ho] at hd
        cases hd
    | true =>
      exact hk.closeNow_fails hch hs ho (hf rfl ch hch hs ho)
        (goesDown_connSend (c := c.set a (some ch.closing)) ho ⟨ch.id, none⟩)
        (touches_closeNowTold true a ch c)
  | @shut hs ho ch' hshut =>
    -- the hook is called by `ngcs_chan_close`
    have hkept := hk.chanShut hch (by rw [hs]; decide)
    have hself : (Initng.chanShut a ch c).chan a = some ch' :=
      (touches_chanShut a ch c).self.1.trans hshut
    have hspent : HookKept (Initng.chanShut a ch c) a → HookSpent
        (some { ch' with gotdata := false, onclose := none })
        (hookCalls a (Initng.chanShut a ch c) + 0) := by
      rintro (⟨-, ch'', hch'', -, hopen, -⟩ | ⟨hone, -⟩)
      · obtain rfl := some.inj (hself.symm.trans hch'')
        exact absurd (closeState_of_shut hshut) hopen
      · refine ⟨hone, fun ch'' hch'' => .inl ?_⟩
        obtain rfl := some.inj hch''
        rfl
    exact hkept.touch (touches_set ..) (hkept.lt_of_chan hself) (fun _ h => .inr (hspent h))
      fun _ _ h => hspent (.inr h)

lemma peerClose (id : ℕ)
    (gotdata : ℕ → β → NgcsConn β → NgcsConn β) :
    HooksKept (ngcsConnDispatchOne gotdata false ⟨id, none⟩ c) := by
  unfold ngcsConnDispatchOne
  cases hfind : c.find id with
  | none => exact hk
  | some x =>
    obtain ⟨a, ch⟩ := x
    obtain ⟨hch, -, hs, ha⟩ := find_eq_some hfind
    show HooksKept (ngcsChanClosed a ch c)
    unfold ngcsChanClosed
    split
    next hfreed =>
      have hspent : HookKept c a → HookSpent none (hookCalls a c + 0) := by
        rintro (⟨-, ch', hch', -, -, hnot⟩ | ⟨hone, -⟩)
        · obtain rfl := some.inj (hch.symm.trans hch')
          rw [hfreed] at hnot
          cases hnot
        · exact ⟨hone, fun ch' hch' => by cases hch'⟩
      exact hk.touch (touches_set ..) ha (fun _ h => .inr (hspent h)) fun _ _ h => hspent (.inr h)
    next => exact hk.chanShut hch hs

lemma apply {step : ChanStep} (hf : step.Fine c) (h : step.apply c = some c') : HooksKept c' := by
  cases step with
  | reg id gotdata onclose onfree =>
    obtain rfl := some.inj h
    exact hk.reg hf id gotdata onclose onfree
  | close fails a => exact hk.close hf h
  | closeNow fails a => exact hk.closeNow hf h
  | peerClose id =>
    obtain rfl := some.inj h
    split
    · exact hk.peerClose id _
    · exact hk

end HooksKept

end

def newConn : NgcsConn β := ⟨true, 0, fun _ => none, [], []⟩

lemma newConn_hooksKept : HooksKept (newConn : NgcsConn β) where
  chan _ _ := rfl
  events _ he := by cases he
  hooks _ ha := by cases ha.choose_spec
  down _ _ ha := by cases ha.choose_spec

def stepConn (step : ChanStep) (o : Option (NgcsConn β)) : Option (NgcsConn β) :=
  o.bind fun c => step.apply c

def FineSteps (β : Type) (steps : List ChanStep) : Prop :=
  Along stepConn (fun (o : Option (NgcsConn β)) step => ∀ c, o = some c → step.Fine c)
    (some newConn) steps

/-- If no channel waits whenever the connection goes down, the hook of each channel is called
exactly once by the end of `ngcs_conn_close`. -/
theorem onclose_once {steps : List ChanStep} {c : NgcsConn β}
    (hrun : run stepConn steps (some newConn) = some c) (hfine : FineSteps β steps)
    (hend : c.isOpen → ∀ a, ¬ AwaitsPeer c a) :
    ∀ a, HasHook (ngcsConnClose c) a → hookCalls a (ngcsConnClose c) = 1 := by
  have hkept : HooksKept c := by
    have hall : ∀ d, run stepConn steps (some newConn) = some d → HooksKept (d : NgcsConn β) := by
      refine Along.invariant (I := fun o => ∀ d, o = some d → HooksKept d) ?_ hfine ?_
      · intro o step hI hf d hd
        obtain ⟨e, rfl, he⟩ := bind_eq_some_iff.mp hd
        exact (hI e rfl).apply (hf e rfl) he
      · intro d hd
        obtain rfl := some.inj hd
        exact newConn_hooksKept
    exact hall c hrun
  intro a ha
  by_cases ho : c.isOpen
  · have g := goesDown_ngcsConnClose ho
    exact (g.spent hkept ((g.changes.hasHook_iff a).mp ha) (hend ho a)).1
  · have hsame : ngcsConnClose c = c := if_pos ho
    rw [hsame] at ha ⊢
    exact (hkept.down (Bool.eq_false_iff.mpr ho) a ha).1

/-- Two channels, one closed by each end: the first one also waits for the other end, and gets
its answer. -/
theorem onclose_once_answered :
    ∃ c : NgcsConn Unit,
      run stepConn [.reg 0 true (some .other) false, .reg 1 true (some .chanDel) true,
        .close false 0, .peerClose 1, .peerClose 0] (some newConn) = some c ∧
      hookCalls 0 (ngcsConnClose c) = 1 ∧ hookCalls 1 (ngcsConnClose c) = 1 := by
  have hfine : FineSteps Unit [.reg 0 true (some .other) false, .reg 1 true (some .chanDel) true,
      .close false 0, .peerClose 1, .peerClose 0] := by
    refine ⟨?_, ?_, fun _ _ hfails => (by cases hfails), fun _ _ => trivial, fun _ _ => trivial,
      trivial⟩
    all_goals
      rintro c hc
      cases hc
      rfl
  obtain ⟨c, hc⟩ : ∃ c : NgcsConn Unit, run stepConn [.reg 0 true (some .other) false,
      .reg 1 true (some .chanDel) true, .close false 0, .peerClose 1, .peerClose 0]
      (some newConn) = some c := ⟨_, rfl⟩
  have hend : c.isOpen → ∀ a, ¬ AwaitsPeer c a := by
    rintro - a ⟨ch, hch, hs, -⟩
    obtain rfl := some.inj hc
    match a with
    | 0 =>
      cases hch
      cases hs
    | 1 => cases hch
    | a + 2 => cases hch
  have hhooked : ∀ a < 2, HasHook (ngcsConnClose c) a := by
    obtain rfl := some.inj hc
    intro a ha
    match a, ha with
    | 0, _ => exact ⟨.other, by decide⟩
    | 1, _ => exact ⟨.chanDel, by decide⟩
  exact ⟨c, hc, onclose_once hc hfine hend 0 (hhooked 0 (by decide)),
    onclose_once hc hfine hend 1 (hhooked 1 (by decide))⟩

/-- A channel that this end has closed, on a connection that is closed before the other end has
answered: its hook is never called. -/
theorem onclose_forgotten :
    ¬ ∀ (steps : List ChanStep) (c : NgcsConn Unit),
      run stepConn steps (some newConn) = some c →
      ∀ a, HasHook (ngcsConnClose c) a → hookCalls a (ngcsConnClose c) = 1 := by
  intro hall
  have hone := hall [.reg 0 true (some .other) false, .close false 0] _ rfl 0 ⟨.other, by decide⟩
  revert hone
  decide

end Initng
