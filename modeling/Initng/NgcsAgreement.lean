import Initng.NgcsChannels
import Initng.StepRun

namespace Initng

open StepRun List Option Function

inductive Side
  | server
  | client
  deriving DecidableEq

def Side.other : Side → Side
  | server => client
  | client => server

/-- The two connections, each with the messages that are on their way from it, and `nextid` of
the server.  The body of a message is the number of the channel that the server has opened. -/
structure NgcsLink where
  conn : Side → NgcsConn ℕ
  nextid : ℕ

def NgcsLink.set (x : Side) (c : NgcsConn ℕ) (l : NgcsLink) : NgcsLink :=
  { l with conn := update l.conn x c }

def gotdataOf : Side → ℕ → ℕ → NgcsConn ℕ → NgcsConn ℕ
  | .client, 0, id, c => ngcsChanReg id true (some .chanDel) true c
  | _, _, _, c => c

def openChannel (l : NgcsLink) : NgcsLink :=
  let c := ngcsChanReg l.nextid false (some .chanDel) true (l.conn .server)
  { l.set .server (connSend false ⟨0, some l.nextid⟩ c) with nextid := l.nextid + 1 }

inductive LinkStep
  | openChannel
  | close (x : Side) (a : ℕ)
  | closeChannel (x : Side) (a : ℕ)
  | del (x : Side) (a : ℕ)
  | deliver (x : Side)

def deliver (x : Side) (l : NgcsLink) : NgcsLink :=
  match (l.conn x).sent with
  | [] => l
  | m :: rest =>
    (l.set x { l.conn x with sent := rest }).set x.other
      (ngcsConnDispatchOne (gotdataOf x.other) false m (l.conn x.other))

def LinkStep.apply (l : NgcsLink) : LinkStep → Option NgcsLink
  | openChannel => some (Initng.openChannel l)
  | close x a => (ngcsChanClose false a (l.conn x)).map fun c => l.set x c
  | closeChannel x a => (ngcsCloseChannel false false a (l.conn x)).map fun c => l.set x c
  | del x a => (ngcsChanDel false a (l.conn x)).map fun c => l.set x c
  | deliver x => some (Initng.deliver x l)

def newLink : NgcsLink where
  conn
    | .server => ngcsChanReg 0 true (some .chanDel) false ⟨true, 0, fun _ => none, [], []⟩
    | .client => ngcsChanReg 0 true (some .other) false ⟨true, 0, fun _ => none, [], []⟩
  nextid := 1

def OpenAt (c : NgcsConn ℕ) (id : ℕ) : Prop :=
  ∃ a ch, c.chan a = some ch ∧ ch.id = id ∧ ch.closeState = .chanOpen

def ActiveAt (c : NgcsConn ℕ) (id : ℕ) : Prop :=
  ∃ a ch, c.chan a = some ch ∧ ch.id = id ∧ ch.closeState ≠ .chanClosed

def LinkQuiet (l : NgcsLink) : Prop := ∀ x, (l.conn x).sent = []

/-- Each channel is open at both ends, or neither open nor closing at any. -/
def Agreed (l : NgcsLink) : Prop :=
  ∀ id, (∀ x, OpenAt (l.conn x) id) ∨ ∀ x, ¬ ActiveAt (l.conn x) id

structure OneChan (a : ℕ) (c c' : NgcsConn ℕ) : Prop where
  isOpen : c'.isOpen = c.isOpen
  count : c'.count = c.count
  chan : ∀ b ≠ a, c'.chan b = c.chan b
  id : ∀ ch', c'.chan a = some ch' → ∃ ch, c.chan a = some ch ∧ ch'.id = ch.id

structure LocalOp (a : ℕ) (c c' : NgcsConn ℕ) : Prop extends OneChan a c c' where
  sent : ∃ k, c'.sent = c.sent ++ replicate k ⟨a, none⟩
  /-- An open channel stays open, or the other end is told. -/
  told : ∀ ch, c.chan a = some ch → ch.closeState = .chanOpen →
    (∃ ch', c'.chan a = some ch' ∧ ch'.closeState = .chanOpen) ∨ ⟨a, none⟩ ∈ c'.sent
  closed : ∀ ch ch', c.chan a = some ch → ch.closeState = .chanClosed → c'.chan a = some ch' →
    ch'.closeState = .chanClosed

section
variable {a : ℕ} {c c' c'' : NgcsConn ℕ} {ch : NgcsChan}

lemma LocalOp.trans (h₁ : LocalOp a c c') (h₂ : LocalOp a c' c'') : LocalOp a c c'' where
  isOpen := h₂.isOpen.trans h₁.isOpen
  count := h₂.count.trans h₁.count
  chan b hb := (h₂.chan b hb).trans (h₁.chan b hb)
  id ch'' hch'' := by
    obtain ⟨ch', hch', hid'⟩ := h₂.id ch'' hch''
    obtain ⟨ch, hch, hid⟩ := h₁.id ch' hch'
    exact ⟨ch, hch, hid'.trans hid⟩
  sent := by
    obtain ⟨k₁, hk₁⟩ := h₁.sent
    obtain ⟨k₂, hk₂⟩ := h₂.sent
    exact ⟨k₁ + k₂, by rw [hk₂, hk₁, append_assoc, replicate_append_replicate]⟩
  told ch hch hs := by
    obtain ⟨k₂, hk₂⟩ := h₂.sent
    rcases h₁.told ch hch hs with ⟨ch', hch', hs'⟩ | hm
    · exact h₂.told ch' hch' hs'
    · exact .inr (by rw [hk₂]; exact mem_append_left _ hm)
  closed ch ch'' hch hs hch'' := by
    obtain ⟨ch', hch', -⟩ := h₂.id ch'' hch''
    exact h₂.closed ch' ch'' hch' (h₁.closed ch ch' hch hs hch') hch''

lemma localOp_write {r : Option NgcsChan} {k : ℕ} (hch : c.chan a = some ch)
    (hopen : c'.isOpen = c.isOpen) (hcount : c'.count = c.count)
    (hchan : c'.chan = update c.chan a r)
    (hsent : c'.sent = c.sent ++ replicate k ⟨a, none⟩)
    (htold : ch.closeState = .chanOpen → (∃ ch', r = some ch' ∧ ch'.closeState = .chanOpen) ∨ 0 < k)
    (hrec : ∀ ch', r = some ch' → ch'.id = ch.id ∧
      (ch.closeState = .chanClosed → ch'.closeState = .chanClosed)) : LocalOp a c c' := by
  have hself : c'.chan a = r := by rw [hchan, update_self]
  refine ⟨⟨hopen, hcount, fun b hb => ?_, fun ch' hch' => ?_⟩, ⟨k, hsent⟩, fun ch₀ hch₀ hs => ?_,
    fun ch₀ ch' hch₀ hs hch' => ?_⟩
  · rw [hchan, update_of_ne hb]
  · exact ⟨ch, hch, (hrec ch' (hself.symm.trans hch')).1⟩
  · obtain rfl := some.inj (hch.symm.trans hch₀)
    rw [hself, hsent]
    refine (htold hs).imp_right fun hk => mem_append_right _ ?_
    exact mem_replicate.mpr ⟨Nat.ne_of_gt hk, rfl⟩
  · obtain rfl := some.inj (hch.symm.trans hch₀)
    exact (hrec ch' (hself.symm.trans hch')).2 hs

lemma localOp_events (hch : c.chan a = some ch) (hopen : c'.isOpen = c.isOpen)
    (hcount : c'.count = c.count) (hchan : c'.chan = c.chan) (hsent : c'.sent = c.sent) :
    LocalOp a c c' := by
  refine localOp_write (r := some ch) (k := 0) hch hopen hcount ?_ (by simp [hsent])
    (fun hs => .inl ⟨ch, rfl, hs⟩) fun ch' hch' => ?_
  · rw [hchan, update_eq_self_iff.mpr hch.symm]
  · obtain rfl := some.inj hch'
    exact ⟨rfl, id⟩

lemma localOp_set {ch' : NgcsChan} (hch : c.chan a = some ch) (hid : ch'.id = ch.id)
    (hs : ch'.closeState = ch.closeState) : LocalOp a c (c.set a (some ch')) := by
  refine localOp_write (k := 0) hch rfl rfl rfl (by simp [NgcsConn.set])
    (fun hopen => .inl ⟨ch', rfl, hs.trans hopen⟩) fun ch₀ hch₀ => ?_
  obtain rfl := some.inj hch₀
  exact ⟨hid, hs.trans⟩

lemma localOp_send (ch' : NgcsChan) (hch : c.chan a = some ch) (hid : ch'.id = ch.id)
    (hs : ch.closeState = .chanClosed → ch'.closeState = .chanClosed)
    (hopen : c'.isOpen = c.isOpen) (hcount : c'.count = c.count)
    (hchan : c'.chan = update c.chan a (some ch'))
    (hsent : c'.sent = c.sent ++ [⟨a, none⟩]) : LocalOp a c c' := by
  refine localOp_write (k := 1) hch hopen hcount hchan hsent (fun _ => .inr Nat.one_pos) ?_
  intro ch₀ hch₀
  obtain rfl := some.inj hch₀
  exact ⟨hid, hs⟩

lemma localOp_close (ho : c.isOpen) (hid : ∀ ch, c.chan a = some ch → ch.id = a)
    (h : ngcsChanClose false a c = some c') : LocalOp a c c' := by
  obtain ⟨ch, hch, hcloses⟩ := ngcsChanClose_cases h
  cases hcloses with
  | left hs => exact localOp_events hch rfl rfl rfl rfl
  | told hs _ =>
    rw [connSend_ok (c := c.set a (some ch.closing)) ho, hid ch hch]
    exact localOp_send ch.closing hch rfl (by simp [hs]) rfl rfl rfl rfl
  | shut hs hdown => exact absurd ho hdown

lemma localOp_closeNow (ho : c.isOpen) (hid : ∀ ch, c.chan a = some ch → ch.id = a)
    (h : ngcsChanCloseNow false a c = some c') : LocalOp a c c' := by
  obtain ⟨ch, hch, hcloses⟩ := ngcsChanCloseNow_cases h
  cases hcloses with
  | left hs => exact localOp_events hch rfl rfl rfl rfl
  | told hs _ =>
    rw [closeNowTold, connSend_ok (c := c.set a (some ch.closing)) ho, hid ch hch]
    exact localOp_send ch.closedNow hch rfl (by simp [hs]) rfl rfl (update_idem ..) rfl
  | shut hs hdown _ => exact absurd ho hdown

lemma localOp_chanDelEnd {ch' : NgcsChan} (hch : c.chan a = some ch) (hid : ch'.id = ch.id)
    (hs : ch'.closeState = ch.closeState) : LocalOp a c (chanDelEnd a ch' c) := by
  unfold chanDelEnd
  split
  next hclosed =>
    refine localOp_write (k := 0) hch rfl rfl rfl (by simp [NgcsConn.set]) ?_
      fun ch₀ hch₀ => (by cases hch₀)
    rw [← hs, hclosed]
    exact fun h => by cases h
  next => exact localOp_set hch hid hs

lemma localOp_del (ho : c.isOpen) (hid : ∀ ch, c.chan a = some ch → ch.id = a)
    (h : ngcsChanDel false a c = some c') : LocalOp a c c' := by
  obtain ⟨ch, hch, h⟩ := bind_eq_some_iff.mp h
  split at h
  · obtain rfl := some.inj h
    exact localOp_events hch rfl rfl rfl rfl
  have hset : LocalOp a c (c.set a (some { ch with isFreeing := true })) := localOp_set hch rfl rfl
  have hself := c.set_chan_self a (some { ch with isFreeing := true })
  split at h
  · obtain rfl := some.inj h
    exact hset.trans (localOp_chanDelEnd hself rfl rfl)
  · obtain ⟨c₁, hc₁, h⟩ := bind_eq_some_iff.mp h
    obtain ⟨ch₁, hch₁, h⟩ := bind_eq_some_iff.mp h
    obtain rfl := some.inj h
    have hnow : LocalOp a (c.set a (some { ch with isFreeing := true })) c₁ := by
      refine localOp_closeNow ho (fun ch' hch' => ?_) hc₁
      obtain rfl := some.inj (hself.symm.trans hch')
      exact hid ch hch
    have hfreed : LocalOp a c₁ (chanFreed a ch₁ c₁) ∧ (chanFreed a ch₁ c₁).chan a = some ch₁ := by
      unfold chanFreed
      split <;> exact ⟨localOp_events hch₁ rfl rfl rfl rfl, hch₁⟩
    exact ((hset.trans hnow).trans hfreed.1).trans (localOp_chanDelEnd hfreed.2 rfl rfl)

lemma localOp_closeChannel (ho : c.isOpen) (hid : ∀ ch, c.chan a = some ch → ch.id = a)
    (h : ngcsCloseChannel false false a c = some c') : LocalOp a c c' := by
  obtain ⟨ch, hch, h⟩ := bind_eq_some_iff.mp h
  rw [connSend_ok ho, hid ch hch] at h
  have hsend : LocalOp a c { c with sent := c.sent ++ [⟨a, none⟩] } :=
    localOp_send ch hch rfl id rfl rfl (update_eq_self_iff.mpr hch.symm).symm rfl
  exact hsend.trans (localOp_del ho hid h)

end

/-- The messages announce the channels from `n` up to `total`, in this order, and close only
those that were announced before. -/
def Script (total : ℕ) : ℕ → List (ChanMsg ℕ) → Prop
  | n, [] => n = total
  | n, ⟨chan, some id⟩ :: ms => chan = 0 ∧ id = n ∧ Script total (n + 1) ms
  | n, ⟨id, none⟩ :: ms => id < n ∧ Script total n ms

section
variable {total n : ℕ} {ms : List (ChanMsg ℕ)}

lemma Script.le (h : Script total n ms) : n ≤ total := by
  induction ms generalizing n with
  | nil => exact Nat.le_of_eq h
  | cons m ms ih =>
    obtain ⟨chan, _ | id⟩ := m
    · exact ih h.2
    · have := ih h.2.2
      omega

lemma Script.append_close (h : Script total n ms) {id : ℕ} (hid : id < total) (k : ℕ) :
    Script total n (ms ++ replicate k ⟨id, none⟩) := by
  induction ms generalizing n with
  | nil =>
    induction k with
    | zero => exact h
    | succ k ih =>
      have hn : n = total := h
      exact ⟨hn ▸ hid, ih⟩
  | cons m ms ih =>
    obtain ⟨chan, _ | body⟩ := m
    · exact ⟨h.1, ih h.2⟩
    · exact ⟨h.1, h.2.1, ih h.2.2⟩

lemma Script.append_open (h : Script total n ms) :
    Script (total + 1) n (ms ++ [⟨0, some total⟩]) := by
  induction ms generalizing n with
  | nil =>
    obtain rfl : n = total := h
    exact ⟨rfl, rfl, rfl⟩
  | cons m ms ih =>
    obtain ⟨chan, _ | body⟩ := m
    · exact ⟨h.1, ih h.2⟩
    · exact ⟨h.1, h.2.1, ih h.2.2⟩

end

def LeftAt (c : NgcsConn ℕ) (id : ℕ) : Prop :=
  id < c.count ∧ ∀ ch, c.chan id = some ch → ch.closeState ≠ .chanOpen

def DoneAt (c : NgcsConn ℕ) (id : ℕ) : Prop :=
  id < c.count ∧ ∀ ch, c.chan id = some ch → ch.closeState = .chanClosed

/-- An end that has left a channel has told the other one, which is done with it unless the
message is still on its way. -/
def ClosesTold (c d : NgcsConn ℕ) : Prop := ∀ id, LeftAt c id → ⟨id, none⟩ ∈ c.sent ∨ DoneAt d id

structure EndInv (c : NgcsConn ℕ) : Prop where
  isOpen : c.isOpen
  chans : ∀ a ch, c.chan a = some ch → ch.id = a ∧ a < c.count

structure LinkInv (l : NgcsLink) : Prop where
  ends : ∀ x, EndInv (l.conn x)
  nextid : l.nextid = (l.conn .server).count
  script : Script (l.conn .server).count (l.conn .client).count (l.conn .server).sent
  replies : ∀ m ∈ (l.conn .client).sent, m.body = none
  told : ∀ x, ClosesTold (l.conn x) (l.conn x.other)

section
variable {c c' d d' : NgcsConn ℕ} {a : ℕ}

lemma OneChan.endInv (op : OneChan a c c') (h : EndInv c) : EndInv c' := by
  refine ⟨op.isOpen.trans h.isOpen, fun b ch hch => ?_⟩
  rw [op.count]
  by_cases hb : b = a
  · subst hb
    obtain ⟨ch₀, hch₀, hid⟩ := op.id ch hch
    rw [hid]
    exact h.chans b ch₀ hch₀
  · rw [op.chan b hb] at hch
    exact h.chans b ch hch

variable {id i : ℕ} {ch : NgcsChan}

section
variable (op : LocalOp a c c')
include op

lemma LocalOp.left_cases (h : LeftAt c' id) : LeftAt c id ∨ ⟨id, none⟩ ∈ c'.sent := by
  obtain ⟨hlt, hstate⟩ := h
  rw [op.count] at hlt
  by_cases hid : id = a
  · subst hid
    by_cases hopen : ∃ ch, c.chan id = some ch ∧ ch.closeState = .chanOpen
    · obtain ⟨ch, hch, hs⟩ := hopen
      rcases op.told ch hch hs with ⟨ch', hch', hs'⟩ | hm
      · exact absurd hs' (hstate ch' hch')
      · exact .inr hm
    · exact .inl ⟨hlt, fun ch hch hs => hopen ⟨ch, hch, hs⟩⟩
  · exact .inl ⟨hlt, fun ch hch => hstate ch (by rw [op.chan id hid, hch])⟩

lemma LocalOp.done (h : DoneAt c id) : DoneAt c' id := by
  refine ⟨by rw [op.count]; exact h.1, fun ch' hch' => ?_⟩
  by_cases hid : id = a
  · subst hid
    obtain ⟨ch, hch, -⟩ := op.id ch' hch'
    exact op.closed ch ch' hch (h.2 ch hch) hch'
  · rw [op.chan id hid] at hch'
    exact h.2 ch' hch'

lemma LocalOp.told_from (h : ClosesTold c d) : ClosesTold c' d := by
  intro id hleft
  obtain ⟨k, hsent⟩ := op.sent
  rcases op.left_cases hleft with hleft | hm
  · rcases h id hleft with hm | hdone
    · exact .inl (by rw [hsent]; exact mem_append_left _ hm)
    · exact .inr hdone
  · exact .inl hm

end

structure ShutAt (a : ℕ) (c c' : NgcsConn ℕ) : Prop extends OneChan a c c' where
  sent : c'.sent = c.sent
  closed : ∀ ch', c'.chan a = some ch' → ch'.closeState = .chanClosed

lemma shutAt_chanClosed (hch : c.chan a = some ch) : ShutAt a c (ngcsChanClosed a ch c) := by
  have hshut {r : Option NgcsChan} {d : NgcsConn ℕ} (hd : d.chan = update c.chan a r)
      (hr : ∀ ch', r = some ch' → ch'.closeState = .chanClosed ∧ ch'.id = ch.id)
      (hopen : d.isOpen = c.isOpen) (hcount : d.count = c.count) (hsent : d.sent = c.sent) :
      ShutAt a c d := by
    have hself : d.chan a = r := by rw [hd, update_self]
    refine ⟨⟨hopen, hcount, fun b hb => ?_, fun ch' hch' => ⟨ch, hch, ?_⟩⟩, hsent, ?_⟩
    · rw [hd, update_of_ne hb]
    · exact (hr ch' (hself.symm.trans hch')).2
    · exact fun ch' hch' => (hr ch' (hself.symm.trans hch')).1
  unfold ngcsChanClosed
  split
  · exact hshut rfl (fun _ h => by cases h) rfl rfl rfl
  · rw [chanShut_eq]
    refine hshut rfl (fun ch' h => ?_) rfl rfl rfl
    unfold NgcsChan.shut at h
    split at h
    · cases h
    · obtain rfl := some.inj h
      exact ⟨rfl, rfl⟩

lemma ShutAt.doneAt (s : ShutAt a c c') (h : DoneAt c id ∨ id = a ∧ id < c.count) :
    DoneAt c' id := by
  have hlt : id < c.count := h.elim And.left And.right
  refine ⟨by rw [s.count]; exact hlt, fun ch' hch' => ?_⟩
  by_cases hid : id = a
  · subst hid
    exact s.closed ch' hch'
  · rw [s.chan id hid] at hch'
    exact (h.resolve_right fun hr => hid hr.1).2 ch' hch'

lemma ShutAt.leftAt (s : ShutAt a c c') (hleft : LeftAt c a) (h : LeftAt c' id) : LeftAt c id := by
  by_cases hid : id = a
  · rwa [hid]
  · refine ⟨by rw [← s.count]; exact h.1, fun ch hch => ?_⟩
    exact h.2 ch (by rw [s.chan id hid, hch])

lemma EndInv.find (h : EndInv c) {b : ℕ} (hf : c.find id = some (b, ch)) :
    b = id ∧ c.chan id = some ch ∧ id < c.count := by
  obtain ⟨hch, hid, -, hlt⟩ := find_eq_some hf
  obtain rfl : b = id := (h.chans b ch hch).1.symm.trans hid
  exact ⟨rfl, hch, hlt⟩

lemma EndInv.find_none (h : EndInv c) (hf : c.find id = none) (hlt : id < c.count) :
    DoneAt c id := by
  refine ⟨hlt, fun ch hch => ?_⟩
  have hnone := findSome?_eq_none_iff.mp hf id (mem_range.mpr hlt)
  by_contra hs
  simp [hch, (h.chans id ch hch).1, hs] at hnone

lemma dispatch_close (h : EndInv c)
    (hfine : ∀ b ch, c.find id = some (b, ch) → ch.closeState ≠ .chanOpen)
    (gotdata : ℕ → ℕ → NgcsConn ℕ → NgcsConn ℕ)
    (hc' : c' = ngcsConnDispatchOne gotdata false ⟨id, none⟩ c) :
    EndInv c' ∧ c'.count = c.count ∧ c'.sent = c.sent ∧
      (∀ i, DoneAt c i ∨ i = id ∧ id < c.count → DoneAt c' i) ∧
      ∀ i, LeftAt c' i → LeftAt c i := by
  subst hc'
  unfold ngcsConnDispatchOne
  cases hf : c.find id with
  | none =>
    refine ⟨h, rfl, rfl, fun i hi => ?_, fun i hi => hi⟩
    rcases hi with hi | ⟨rfl, hlt⟩
    · exact hi
    · exact h.find_none hf hlt
  | some x =>
    obtain ⟨b, ch⟩ := x
    obtain ⟨rfl, hch, hlt⟩ := h.find hf
    have s : ShutAt b c (ngcsChanClosed b ch c) := shutAt_chanClosed hch
    have hleft : LeftAt c b := by
      refine ⟨hlt, fun ch' hch' => ?_⟩
      obtain rfl := some.inj (hch.symm.trans hch')
      exact hfine b ch hf
    refine ⟨s.endInv h, s.count, s.sent, fun i hi => s.doneAt (hi.imp_right ?_),
      fun i hi => s.leftAt hleft hi⟩
    rintro ⟨rfl, hlt⟩
    exact ⟨rfl, hlt⟩

section
variable {gotdata onfree : Bool} {onclose : Option OnClose}

lemma endInv_reg (h : EndInv c) (hid : id = c.count) :
    EndInv (ngcsChanReg id gotdata onclose onfree c) := by
  refine ⟨h.isOpen, fun b ch hch => ?_⟩
  have hcount : (ngcsChanReg id gotdata onclose onfree c).count = c.count + 1 := rfl
  rw [hcount]
  by_cases hb : b = c.count
  · subst hb
    have hself : (ngcsChanReg id gotdata onclose onfree c).chan c.count =
        some ⟨id, gotdata, onclose, onfree, .chanOpen, false, false⟩ :=
      update_self ..
    obtain rfl := some.inj (hself.symm.trans hch)
    exact ⟨hid, Nat.lt_succ_self _⟩
  · rw [ngcsChanReg_chan_ne hb] at hch
    obtain ⟨hid, hlt⟩ := h.chans b ch hch
    exact ⟨hid, Nat.lt_succ_of_lt hlt⟩

lemma leftAt_of_reg (h : LeftAt (ngcsChanReg id gotdata onclose onfree c) i) : LeftAt c i := by
  obtain ⟨hlt, hstate⟩ := h
  have hlt : i < c.count + 1 := hlt
  have hne : i ≠ c.count := by
    rintro rfl
    exact hstate _ (update_self ..) rfl
  refine ⟨by omega, fun ch hch => hstate ch ?_⟩
  rw [ngcsChanReg_chan_ne hne, hch]

lemma doneAt_reg (h : DoneAt c i) : DoneAt (ngcsChanReg id gotdata onclose onfree c) i := by
  refine ⟨Nat.lt_succ_of_lt h.1, fun ch hch => h.2 ch ?_⟩
  rwa [ngcsChanReg_chan_ne (Nat.ne_of_lt h.1)] at hch

end

lemma not_activeAt (h : EndInv c)
    (hclosed : ∀ ch, c.chan id = some ch → ch.closeState = .chanClosed) : ¬ ActiveAt c id := by
  rintro ⟨a, ch, hch, hid, hs⟩
  obtain rfl : a = id := (h.chans a ch hch).1.symm.trans hid
  exact hs (hclosed ch hch)

end

/-- A close arrives at an end that has left the channel already, and an announcement at a
client whose channel 0 takes data. -/
def LinkStep.Fine (l : NgcsLink) : LinkStep → Prop
  | deliver x => ∀ m rest, (l.conn x).sent = m :: rest →
      match m.body with
      | none => ∀ a ch, (l.conn x.other).find m.chan = some (a, ch) → ch.closeState ≠ .chanOpen
      | some _ => ∃ a ch, (l.conn x.other).find m.chan = some (a, ch) ∧ ch.gotdata
  | _ => True

lemma Side.other_ne (x : Side) : x.other ≠ x := by cases x <;> decide

@[simp] lemma Side.other_other (x : Side) : x.other.other = x := by cases x <;> rfl

section
variable {l : NgcsLink} {x : Side} {c : NgcsConn ℕ}

@[simp] lemma set_conn_self : (l.set x c).conn x = c := update_self ..

@[simp] lemma set_conn_other : (l.set x c).conn x.other = l.conn x.other :=
  update_of_ne x.other_ne _ _

@[simp] lemma set_conn_of_other : (l.set x.other c).conn x = l.conn x :=
  update_of_ne x.other_ne.symm _ _

lemma forall_side {p : Side → Prop} (h : p x) (h' : p x.other) : ∀ y, p y := by
  intro y
  cases x <;> cases y <;> assumption

lemma LinkInv.localOp (h : LinkInv l) {a : ℕ} (op : LocalOp a (l.conn x) c)
    (ha : a < (l.conn x).count) : LinkInv (l.set x c) := by
  obtain ⟨k, hsent⟩ := op.sent
  have hends : ∀ y, EndInv ((l.set x c).conn y) :=
    forall_side (by rw [set_conn_self]; exact op.endInv (h.ends x))
      (by rw [set_conn_other]; exact h.ends _)
  have htold : ∀ y, ClosesTold ((l.set x c).conn y) ((l.set x c).conn y.other) := by
    refine forall_side (x := x) ?_ ?_
    · rw [set_conn_self, set_conn_other]
      exact op.told_from (h.told x)
    · have hback := h.told x.other
      rw [Side.other_other] at hback ⊢
      rw [set_conn_self, set_conn_other]
      exact fun id hleft => (hback id hleft).imp_right op.done
  have hcount := op.count
  cases x with
  | server =>
    refine ⟨hends, ?_, ?_, h.replies, htold⟩
    · show l.nextid = c.count
      rw [hcount]
      exact h.nextid
    · show Script c.count (l.conn .client).count c.sent
      rw [hcount, hsent]
      exact h.script.append_close ha k
  | client =>
    refine ⟨hends, h.nextid, ?_, ?_, htold⟩
    · show Script (l.conn .server).count c.count (l.conn .server).sent
      rw [hcount]
      exact h.script
    · show ∀ m ∈ c.sent, m.body = none
      rw [hsent]
      intro m hm
      rcases mem_append.mp hm with hm | hm
      · exact h.replies m hm
      · rw [eq_of_mem_replicate hm]

lemma LinkInv.openChannel (h : LinkInv l) : LinkInv (openChannel l) := by
  have hserver := h.ends .server
  have hreg : EndInv (ngcsChanReg l.nextid false (some .chanDel) true (l.conn .server)) :=
    endInv_reg hserver h.nextid
  have hconn : (Initng.openChannel l).conn .server =
      { ngcsChanReg l.nextid false (some .chanDel) true (l.conn .server) with
        sent := (l.conn .server).sent ++ [⟨0, some l.nextid⟩] } := by
    show connSend false _ _ = _
    rw [connSend_ok hreg.isOpen]
    rfl
  have hclient : (Initng.openChannel l).conn .client = l.conn .client := rfl
  refine ⟨?_, ?_, ?_, ?_, ?_⟩
  · intro y
    cases y with
    | server =>
      rw [hconn]
      exact ⟨hreg.isOpen, hreg.chans⟩
    | client => exact h.ends .client
  · rw [hconn]
    exact congrArg (· + 1) h.nextid
  · rw [hconn, hclient, h.nextid]
    exact h.script.append_open
  · exact h.replies
  · intro y
    cases y with
    | server =>
      show ClosesTold ((Initng.openChannel l).conn .server) _
      rw [hconn]
      intro i hi
      exact (h.told .server i (leftAt_of_reg hi)).imp_left (mem_append_left _)
    | client =>
      show ClosesTold _ ((Initng.openChannel l).conn .server)
      rw [hconn]
      intro i hi
      exact (h.told .client i hi).imp_right doneAt_reg

variable {rest : List (ChanMsg ℕ)} {id : ℕ}

lemma deliver_cons {m : ChanMsg ℕ} (hsent : (l.conn x).sent = m :: rest) :
    deliver x l = (l.set x { l.conn x with sent := rest }).set x.other
      (ngcsConnDispatchOne (gotdataOf x.other) false m (l.conn x.other)) := by
  rw [deliver, hsent]

variable (h : LinkInv l)
include h

lemma LinkInv.deliver_close (hsent : (l.conn x).sent = ⟨id, none⟩ :: rest)
    (hfine : ∀ b ch, (l.conn x.other).find id = some (b, ch) → ch.closeState ≠ .chanOpen) :
    LinkInv (deliver x l) := by
  rw [deliver_cons hsent]
  generalize hd' : ngcsConnDispatchOne (gotdataOf x.other) false ⟨id, none⟩ (l.conn x.other) = d'
  obtain ⟨hinv, hcount, hsame, hdone, hleft⟩ :=
    dispatch_close (h.ends x.other) hfine (gotdataOf x.other) hd'.symm
  set l' := (l.set x { l.conn x with sent := rest }).set x.other d' with hl'
  have hx : l'.conn x = { l.conn x with sent := rest } := by
    rw [hl', set_conn_of_other, set_conn_self]
  have hother : l'.conn x.other = d' := set_conn_self ..
  -- an end that has left the channel has learnt of it from the server
  have hknown : ∀ i, LeftAt (l.conn x) i → i = id → id < (l.conn x.other).count := by
    rintro i hi rfl
    cases x with
    | server =>
      have hscript := h.script
      rw [hsent] at hscript
      exact hscript.1
    | client => exact Nat.lt_of_lt_of_le hi.1 h.script.le
  have hends : ∀ y, EndInv (l'.conn y) := by
    refine forall_side (x := x) ?_ ?_
    · rw [hx]
      exact ⟨(h.ends x).isOpen, (h.ends x).chans⟩
    · rwa [hother]
  have htold : ∀ y, ClosesTold (l'.conn y) (l'.conn y.other) := by
    refine forall_side (x := x) ?_ ?_
    · rw [hx, hother]
      intro i hi
      have hi : LeftAt (l.conn x) i := hi
      rcases h.told x i hi with hm | hd
      · rw [hsent] at hm
        rcases mem_cons.mp hm with heq | hm
        · have hid : i = id := congrArg ChanMsg.chan heq
          exact .inr (hdone i (.inr ⟨hid, hknown i hi hid⟩))
        · exact .inl hm
      · exact .inr (hdone i (.inl hd))
    · rw [Side.other_other, hx, hother]
      intro i hi
      have hback := h.told x.other i (hleft i hi)
      rw [Side.other_other, ← hsame] at hback
      exact hback
  cases x with
  | server =>
    refine ⟨hends, h.nextid, ?_, ?_, htold⟩
    · show Script (l.conn .server).count d'.count rest
      have hscript := h.script
      rw [hsent] at hscript
      rw [hcount]
      exact hscript.2
    · show ∀ m ∈ d'.sent, m.body = none
      rw [hsame]
      exact h.replies
  | client =>
    refine ⟨hends, ?_, ?_, ?_, htold⟩
    · show l.nextid = d'.count
      rw [hcount]
      exact h.nextid
    · show Script d'.count (l.conn .client).count d'.sent
      rw [hcount, hsame]
      exact h.script
    · show ∀ m ∈ rest, m.body = none
      intro m hm
      exact h.replies m (by rw [hsent]; exact .tail _ hm)

lemma LinkInv.deliver_open {chan : ℕ}
    (hsent : (l.conn .server).sent = ⟨chan, some id⟩ :: rest)
    (hfine : ∃ a ch, (l.conn .client).find chan = some (a, ch) ∧ ch.gotdata) :
    LinkInv (deliver .server l) := by
  have hscript := h.script
  rw [hsent] at hscript
  obtain ⟨rfl, rfl, hscript⟩ := hscript
  obtain ⟨a, ch, hfind, hdata⟩ := hfine
  obtain ⟨rfl, -, -⟩ := (h.ends .client).find hfind
  have hreg : EndInv (ngcsChanReg (l.conn .client).count true (some .chanDel) true
      (l.conn .client)) := endInv_reg (h.ends .client) rfl
  have hdeliver : deliver .server l =
      (l.set .server { l.conn .server with sent := rest }).set .client
        (ngcsChanReg (l.conn .client).count true (some .chanDel) true (l.conn .client)) := by
    have hdispatch : ngcsConnDispatchOne (gotdataOf .client) false
        ⟨0, some (l.conn .client).count⟩ (l.conn .client) =
          ngcsChanReg (l.conn .client).count true (some .chanDel) true (l.conn .client) := by
      unfold ngcsConnDispatchOne
      rw [hfind]
      exact if_pos hdata
    rw [← hdispatch]
    exact deliver_cons hsent
  rw [hdeliver]
  refine ⟨?_, h.nextid, hscript, h.replies, ?_⟩
  · intro y
    cases y with
    | server => exact ⟨(h.ends .server).isOpen, (h.ends .server).chans⟩
    | client => exact hreg
  · intro y
    cases y with
    | server =>
      intro i hi
      rcases h.told .server i hi with hm | hd
      · rw [hsent] at hm
        rcases mem_cons.mp hm with heq | hm
        · cases heq
        · exact .inl hm
      · exact .inr (doneAt_reg hd)
    | client =>
      intro i hi
      exact h.told .client i (leftAt_of_reg hi)

lemma LinkInv.deliver (hfine : (LinkStep.deliver x).Fine l) : LinkInv (deliver x l) := by
  cases hsent : (l.conn x).sent with
  | nil =>
    have hsame : Initng.deliver x l = l := by rw [Initng.deliver, hsent]
    rw [hsame]
    exact h
  | cons m rest =>
    have hm := hfine m rest hsent
    obtain ⟨chan, _ | id⟩ := m
    · exact h.deliver_close hsent hm
    · cases x with
      | server => exact h.deliver_open hsent hm
      | client =>
        have hnone := h.replies _ (by rw [hsent]; exact .head _)
        cases hnone

lemma LinkInv.apply {step : LinkStep} (hf : step.Fine l) {l' : NgcsLink}
    (hstep : step.apply l = some l') : LinkInv l' := by
  have hid : ∀ y a ch, (l.conn y).chan a = some ch → ch.id = a := fun y a ch hch =>
    ((h.ends y).chans a ch hch).1
  have hlt : ∀ {y a} {f : NgcsChan → Option (NgcsConn ℕ)} {c},
      ((l.conn y).chan a).bind f = some c → a < (l.conn y).count := by
    intro y a f c hc
    obtain ⟨ch, hch, -⟩ := bind_eq_some_iff.mp hc
    exact ((h.ends y).chans a ch hch).2
  cases step with
  | openChannel =>
    obtain rfl := some.inj hstep
    exact h.openChannel
  | close y a =>
    obtain ⟨c, hc, rfl⟩ := map_eq_some_iff.mp hstep
    exact h.localOp (localOp_close (h.ends y).isOpen (hid y a) hc) (hlt hc)
  | closeChannel y a =>
    obtain ⟨c, hc, rfl⟩ := map_eq_some_iff.mp hstep
    exact h.localOp (localOp_closeChannel (h.ends y).isOpen (hid y a) hc) (hlt hc)
  | del y a =>
    obtain ⟨c, hc, rfl⟩ := map_eq_some_iff.mp hstep
    exact h.localOp (localOp_del (h.ends y).isOpen (hid y a) hc) (hlt hc)
  | deliver y =>
    obtain rfl := some.inj hstep
    exact h.deliver hf

/-- With nothing on its way, the two ends have registered the same channels, and one has left a
channel only if the other has closed it. -/
lemma LinkInv.agreed (hq : LinkQuiet l) : Agreed l := by
  have hcount : (l.conn .client).count = (l.conn .server).count := by
    have hscript := h.script
    rw [hq .server] at hscript
    exact hscript
  have hcounts : ∀ x y, (l.conn x).count = (l.conn y).count := by
    intro x y
    cases x <;> cases y <;> simp only [hcount]
  have hdone : ∀ x i, LeftAt (l.conn x) i → DoneAt (l.conn x.other) i := by
    intro x i hi
    rcases h.told x i hi with hm | hd
    · rw [hq x] at hm
      cases hm
    · exact hd
  intro id
  by_cases hopen : ∀ x, OpenAt (l.conn x) id
  · exact .inl hopen
  right
  by_cases hlt : id < (l.conn .server).count
  · -- one end has left the channel; the other one is done with it, and so the first one too
    obtain ⟨x, hx⟩ := not_forall.mp hopen
    have hleft : LeftAt (l.conn x) id := by
      refine ⟨by rw [hcounts x .server]; exact hlt, fun ch hch hs => hx ⟨id, ch, hch, ?_, hs⟩⟩
      exact ((h.ends x).chans id ch hch).1
    have hother := hdone x id hleft
    have hself : DoneAt (l.conn x) id := by
      have hleft' : LeftAt (l.conn x.other) id :=
        ⟨hother.1, fun ch hch => by rw [hother.2 ch hch]; decide⟩
      simpa using hdone x.other id hleft'
    refine forall_side (x := x) ?_ ?_
    · exact not_activeAt (h.ends x) hself.2
    · exact not_activeAt (h.ends x.other) hother.2
  · intro x
    refine not_activeAt (h.ends x) fun ch hch => ?_
    have hreg := ((h.ends x).chans id ch hch).2
    rw [hcounts x .server] at hreg
    exact absurd hreg hlt

end

lemma newLink_inv : LinkInv newLink where
  ends x := by
    have hnew : EndInv (⟨true, 0, fun _ => none, [], []⟩ : NgcsConn ℕ) :=
      ⟨rfl, fun a ch hch => by cases hch⟩
    cases x with
    | server | client => exact endInv_reg hnew rfl
  nextid := rfl
  script := rfl
  replies m hm := by cases hm
  told x i hi := by
    have hnone : ¬ LeftAt (⟨true, 0, fun _ => none, [], []⟩ : NgcsConn ℕ) i := fun hl => by
      cases hl.1
    cases x with
    | server | client => exact absurd (leftAt_of_reg hi) hnone

def stepLink (step : LinkStep) (o : Option NgcsLink) : Option NgcsLink :=
  o.bind fun l => step.apply l

def FineLinkSteps (steps : List LinkStep) : Prop :=
  Along stepLink (fun o step => ∀ l, o = some l → step.Fine l) (some newLink) steps

/-- If both ends have closed each channel before either learns of it, they agree whenever
nothing is on its way. -/
theorem link_agreed {steps : List LinkStep} {l : NgcsLink}
    (hrun : run stepLink steps (some newLink) = some l) (hfine : FineLinkSteps steps)
    (hquiet : LinkQuiet l) : Agreed l := by
  have hall : ∀ l, run stepLink steps (some newLink) = some l → LinkInv l := by
    refine Along.invariant (I := fun o => ∀ l, o = some l → LinkInv l) ?_ hfine ?_
    · intro o step hI hf l' hl'
      obtain ⟨l, rfl, hl⟩ := bind_eq_some_iff.mp hl'
      exact (hI l rfl).apply (hf l rfl) hl
    · intro l hl
      obtain rfl := some.inj hl
      exact newLink_inv
  exact (hall l hrun).agreed hquiet

/-- Both ends close the channel, and the messages cross. -/
theorem link_agreed_crossing :
    ∃ l, run stepLink [.openChannel, .deliver .server, .close .server 1, .close .client 1,
        .deliver .server, .deliver .client] (some newLink) = some l ∧
      LinkQuiet l ∧ Agreed l := by
  have hfine : FineLinkSteps [.openChannel, .deliver .server, .close .server 1,
      .close .client 1, .deliver .server, .deliver .client] := by
    refine ⟨fun _ _ => trivial, ?_, fun _ _ => trivial, fun _ _ => trivial, ?_, ?_, trivial⟩
    all_goals
      rintro l hl m rest hsent
      obtain rfl := some.inj hl
      cases hsent
    · exact ⟨0, _, rfl, rfl⟩
    all_goals
      intro a ch hf
      cases hf
      decide
  refine ⟨_, rfl, ?_⟩
  suffices hquiet : LinkQuiet _ from ⟨hquiet, link_agreed rfl hfine hquiet⟩
  intro x
  cases x <;> rfl

/-- The server closes a channel, and the client, which is told, does not answer. -/
theorem link_not_always_agreed :
    ¬ ∀ (steps : List LinkStep) (l : NgcsLink), run stepLink steps (some newLink) = some l →
      LinkQuiet l → Agreed l := by
  intro hall
  have hagreed := hall [.openChannel, .deliver .server, .close .server 1, .deliver .server] _ rfl
    (by intro x; cases x <;> rfl)
  rcases hagreed 1 with hopen | hnone
  · obtain ⟨a, ch, hch, hid, hs⟩ := hopen .server
    match a, hch with
    | 0, hch => cases hch; cases hid
    | 1, hch => cases hch; cases hs
  · exact hnone .server ⟨1, _, rfl, rfl, by decide⟩

end Initng
