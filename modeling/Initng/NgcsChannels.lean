import Mathlib.Data.Nat.Notation
import Mathlib.Logic.Function.Basic

/-! `modules/ngcs/ngcs_common.c` and `modules/ngcs/initng_ngcs.c`. -/

namespace Initng

open List Option Function

inductive ChanState
  | chanOpen
  | chanClosing
  | chanClosed
  deriving DecidableEq

/-- The functions that are registered as `onclose`: `ngcs_chan_del`, or one that leaves the
connection alone. -/
inductive OnClose
  | chanDel
  | other
  deriving DecidableEq

/-- `ngcs_chan`; `gotdata` and `onfree` say whether there are such hooks. -/
structure NgcsChan where
  id : ℕ
  gotdata : Bool
  onclose : Option OnClose
  onfree : Bool
  closeState : ChanState
  isFreed : Bool
  isFreeing : Bool
  deriving DecidableEq

/-- A message on a channel: `none` stands for the length -1, which closes it. -/
structure ChanMsg (β : Type) where
  chan : ℕ
  body : Option β
  deriving DecidableEq

inductive ChanEvent
  | registered (a : ℕ) (onclose : Option OnClose)
  | onclose (a : ℕ)
  | onfree (a : ℕ)
  deriving DecidableEq

structure NgcsConn (β : Type) where
  isOpen : Bool
  count : ℕ
  chan : ℕ → Option NgcsChan
  sent : List (ChanMsg β)
  events : List ChanEvent

section
variable {β : Type}

def NgcsConn.set (a : ℕ) (ch : Option NgcsChan) (c : NgcsConn β) : NgcsConn β :=
  { c with chan := update c.chan a ch }

def NgcsConn.event (e : ChanEvent) (c : NgcsConn β) : NgcsConn β :=
  { c with events := c.events ++ [e] }

def ngcsChanReg (id : ℕ) (gotdata : Bool) (onclose : Option OnClose) (onfree : Bool)
    (c : NgcsConn β) : NgcsConn β :=
  ({ c with count := c.count + 1 }.set c.count
    (some ⟨id, gotdata, onclose, onfree, .chanOpen, false, false⟩)).event
      (.registered c.count onclose)

lemma NgcsConn.set_chan_self (a : ℕ) (r : Option NgcsChan) (c : NgcsConn β) :
    (c.set a r).chan a = r := update_self ..

lemma NgcsConn.set_chan_ne {a b : ℕ} (hb : b ≠ a) (r : Option NgcsChan) (c : NgcsConn β) :
    (c.set a r).chan b = c.chan b := update_of_ne hb _ _

lemma ngcsChanReg_chan_ne {id b : ℕ} {gotdata onfree : Bool} {onclose : Option OnClose}
    {c : NgcsConn β} (hb : b ≠ c.count) :
    (ngcsChanReg id gotdata onclose onfree c).chan b = c.chan b := update_of_ne hb _ _

/-- `ngcs_chan_del` from the point where `is_freed` is set; `ch` is the channel then. -/
def chanDelEnd (a : ℕ) (ch : NgcsChan) (c : NgcsConn β) : NgcsConn β :=
  if ch.closeState = .chanClosed then c.set a none else c.set a (some ch)

def chanFreed (a : ℕ) (ch : NgcsChan) (c : NgcsConn β) : NgcsConn β :=
  if ch.onfree then c.event (.onfree a) else c

/-- `ngcs_chan_del` on a channel that is not open, where `ngcs_chan_close_now` returns at
once. -/
def chanDelShut (a : ℕ) (ch : NgcsChan) (c : NgcsConn β) : NgcsConn β :=
  if ch.isFreeing then c
  else if ch.isFreed then chanDelEnd a { ch with isFreeing := true } c
  else chanDelEnd a { ch with isFreeing := true, isFreed := true } (chanFreed a ch c)

def callOnclose (hook : OnClose) (a : ℕ) (ch : NgcsChan) (c : NgcsConn β) : NgcsConn β :=
  match hook with
  | .other => c.event (.onclose a)
  | .chanDel => chanDelShut a ch (c.event (.onclose a))

def chanShut (a : ℕ) (ch : NgcsChan) (c : NgcsConn β) : NgcsConn β :=
  let ch := { ch with closeState := .chanClosed }
  match ch.onclose with
  | none => c.set a (some ch)
  | some hook => callOnclose hook a ch (c.set a (some ch))

/-- `ngcs_chan_close` in the walk of `ngcs_conn_close`, where `fd` is negative. -/
def chanCloseDown (c : NgcsConn β) (a : ℕ) : NgcsConn β :=
  match c.chan a with
  | none => c
  | some ch => if ch.closeState ≠ .chanOpen then c else chanShut a ch c

def ngcsConnClose (c : NgcsConn β) : NgcsConn β :=
  if ¬ c.isOpen then c
  else (range c.count).foldl chanCloseDown { c with isOpen := false }

/-- `ngcs_conn_send`; `fails` says whether the socket fails, which closes the connection. -/
def connSend (fails : Bool) (m : ChanMsg β) (c : NgcsConn β) : NgcsConn β :=
  if ¬ c.isOpen then c
  else if fails then ngcsConnClose { c with sent := c.sent ++ [m] }
  else { c with sent := c.sent ++ [m] }

def ngcsChanClose (fails : Bool) (a : ℕ) (c : NgcsConn β) : Option (NgcsConn β) := do
  let ch ← c.chan a
  if ch.closeState ≠ .chanOpen then
    return c
  else if c.isOpen then
    return connSend fails ⟨ch.id, none⟩ (c.set a (some { ch with closeState := .chanClosing }))
  else
    return chanShut a ch c

def ngcsChanClosed (a : ℕ) (ch : NgcsChan) (c : NgcsConn β) : NgcsConn β :=
  if ch.isFreed then c.set a none else chanShut a ch c

def ngcsChanCloseNow (fails : Bool) (a : ℕ) (c : NgcsConn β) : Option (NgcsConn β) := do
  let ch ← c.chan a
  if ch.closeState ≠ .chanOpen then
    return c
  let c ← ngcsChanClose fails a c
  let ch ← c.chan a
  let shut := { ch with gotdata := false, onclose := none }
  match ch.closeState, ch.onclose with
  | .chanClosing, some hook => return callOnclose hook a shut (c.set a (some shut))
  | _, _ => return c.set a (some shut)

def ngcsChanDel (fails : Bool) (a : ℕ) (c : NgcsConn β) : Option (NgcsConn β) := do
  let ch ← c.chan a
  if ch.isFreeing then
    return c
  let c := c.set a (some { ch with isFreeing := true })
  if ch.isFreed then
    return chanDelEnd a { ch with isFreeing := true } c
  let c ← ngcsChanCloseNow fails a c
  let ch ← c.chan a
  return chanDelEnd a { ch with isFreed := true } (chanFreed a ch c)

def ngcsCloseChannel (fails failsAgain : Bool) (a : ℕ) (c : NgcsConn β) : Option (NgcsConn β) := do
  let ch ← c.chan a
  ngcsChanDel failsAgain a (connSend fails ⟨ch.id, none⟩ c)

def NgcsConn.find (id : ℕ) (c : NgcsConn β) : Option (ℕ × NgcsChan) :=
  (range c.count).findSome? fun a =>
    ((c.chan a).filter fun ch => ch.id = id ∧ ch.closeState ≠ .chanClosed).map fun ch => (a, ch)

/-- `ngcs_conn_dispatch_one`; `gotdata` is what the channel with this number does with data. -/
def ngcsConnDispatchOne (gotdata : ℕ → β → NgcsConn β → NgcsConn β) (fails : Bool)
    (m : ChanMsg β) (c : NgcsConn β) : NgcsConn β :=
  match c.find m.chan, m.body with
  | some (a, ch), none => ngcsChanClosed a ch c
  | some (a, ch), some data => if ch.gotdata then gotdata a data c else c
  | none, none => c
  | none, some _ => connSend fails ⟨m.chan, none⟩ c

def NgcsChan.shut (ch : NgcsChan) : Option NgcsChan :=
  if ch.onclose = some .chanDel ∧ ¬ ch.isFreeing then none
  else some { ch with closeState := .chanClosed }

def NgcsChan.freeEvents (a : ℕ) (ch : NgcsChan) : List ChanEvent :=
  if ch.onfree ∧ ¬ ch.isFreeing ∧ ¬ ch.isFreed then [.onfree a] else []

def NgcsChan.closeEvents (a : ℕ) (ch : NgcsChan) : List ChanEvent :=
  match ch.onclose with
  | none => []
  | some .other => [.onclose a]
  | some .chanDel => .onclose a :: ch.freeEvents a

lemma chanShut_eq (a : ℕ) (ch : NgcsChan) (c : NgcsConn β) :
    chanShut a ch c =
      { c with
        chan := update c.chan a ch.shut
        events := c.events ++ ch.closeEvents a } := by
  obtain ⟨id, gotdata, onclose, onfree, closeState, isFreed, isFreeing⟩ := ch
  rcases onclose with _ | _ | _ <;> cases isFreeing <;> cases isFreed <;> cases onfree <;>
    simp [chanShut, callOnclose, chanDelShut, chanDelEnd, chanFreed, NgcsConn.set,
      NgcsConn.event, NgcsChan.shut, NgcsChan.closeEvents, NgcsChan.freeEvents]

def downRecord (ch : Option NgcsChan) : Option NgcsChan :=
  ch.bind fun ch => if ch.closeState = .chanOpen then ch.shut else some ch

def downEvents (a : ℕ) (ch : Option NgcsChan) : List ChanEvent :=
  match ch with
  | none => []
  | some ch => if ch.closeState = .chanOpen then ch.closeEvents a else []

lemma chanCloseDown_eq (c : NgcsConn β) (a : ℕ) :
    chanCloseDown c a =
      { c with
        chan := update c.chan a (downRecord (c.chan a))
        events := c.events ++ downEvents a (c.chan a) } := by
  unfold chanCloseDown
  cases hch : c.chan a with
  | none =>
    have hself : update c.chan a none = c.chan := update_eq_self_iff.mpr hch.symm
    simp [downRecord, downEvents, hself]
  | some ch =>
    by_cases hopen : ch.closeState = .chanOpen
    · simp [downRecord, downEvents, hopen, chanShut_eq]
    · have hself : update c.chan a (some ch) = c.chan := update_eq_self_iff.mpr hch.symm
      simp [downRecord, downEvents, hopen, hself]

lemma foldl_chanCloseDown {l : List ℕ} (hl : l.Nodup) (c : NgcsConn β) :
    l.foldl chanCloseDown c =
      { c with
        chan := fun b => if b ∈ l then downRecord (c.chan b) else c.chan b
        events := c.events ++ l.flatMap fun b => downEvents b (c.chan b) } := by
  induction l generalizing c with
  | nil => simp
  | cons a l ih =>
    obtain ⟨ha, hl⟩ := nodup_cons.mp hl
    rw [foldl_cons, chanCloseDown_eq, ih hl]
    have hother : ∀ b ∈ l, update c.chan a (downRecord (c.chan a)) b = c.chan b :=
      fun b hb => update_of_ne (ne_of_mem_of_not_mem hb ha) _ _
    congr 1
    · funext b
      by_cases hb : b = a
      · subst hb
        simp [ha]
      · by_cases hbl : b ∈ l
        all_goals simp [hbl, hb]
    · rw [flatMap_cons, append_assoc]
      have hevents : l.map (fun b => downEvents b
          (update c.chan a (downRecord (c.chan a)) b)) =
          l.map fun b => downEvents b (c.chan b) :=
        map_congr_left fun b hb => by rw [hother b hb]
      rw [flatMap_def, flatMap_def, hevents]

variable {c : NgcsConn β}

lemma ngcsConnClose_eq (h : c.isOpen) :
    ngcsConnClose c =
      { c with
        isOpen := false
        chan := fun b => if b < c.count then downRecord (c.chan b) else c.chan b
        events := c.events ++ (range c.count).flatMap fun b => downEvents b (c.chan b) } := by
  rw [ngcsConnClose, if_neg (not_not.mpr h), foldl_chanCloseDown nodup_range]
  simp only [mem_range]

lemma connSend_ok (h : c.isOpen) (m : ChanMsg β) :
    connSend false m c = { c with sent := c.sent ++ [m] } := by
  simp [connSend, h]

lemma connSend_fails (h : c.isOpen) (m : ChanMsg β) :
    connSend true m c =
      { c with
        isOpen := false
        chan := fun b => if b < c.count then downRecord (c.chan b) else c.chan b
        sent := c.sent ++ [m]
        events := c.events ++ (range c.count).flatMap fun b => downEvents b (c.chan b) } := by
  have h' : ({ c with sent := c.sent ++ [m] } : NgcsConn β).isOpen := h
  rw [connSend, if_neg (not_not.mpr h), if_pos rfl, ngcsConnClose_eq h']

lemma find_eq_some {id a : ℕ} {ch : NgcsChan} (h : c.find id = some (a, ch)) :
    c.chan a = some ch ∧ ch.id = id ∧ ch.closeState ≠ .chanClosed ∧ a < c.count := by
  obtain ⟨b, hb, hfound⟩ := exists_of_findSome?_eq_some h
  obtain ⟨ch', hfilter, hpair⟩ := map_eq_some_iff.mp hfound
  obtain ⟨hch, hid⟩ := filter_eq_some_iff.mp hfilter
  obtain ⟨rfl, rfl⟩ := Prod.mk.inj hpair
  have hid := of_decide_eq_true hid
  exact ⟨hch, hid.1, hid.2, mem_range.mp hb⟩

def NgcsChan.closing (ch : NgcsChan) : NgcsChan := { ch with closeState := .chanClosing }

def NgcsChan.closedNow (ch : NgcsChan) : NgcsChan :=
  { ch with
    gotdata := false
    onclose := none
    closeState := .chanClosing
    isFreed := ch.isFreed || (ch.onclose = some .chanDel ∧ ¬ ch.isFreeing)
    isFreeing := ch.isFreeing || ch.onclose = some .chanDel }

section
variable {c : NgcsConn β} {a : ℕ} {ch : NgcsChan}

lemma ngcsChanClose_open (hch : c.chan a = some ch) (hs : ch.closeState = .chanOpen)
    (ho : c.isOpen) (fails : Bool) :
    ngcsChanClose fails a c = some (connSend fails ⟨ch.id, none⟩ (c.set a (some ch.closing))) := by
  simp [ngcsChanClose, hch, hs, ho, NgcsChan.closing]

lemma ngcsChanClose_down (hch : c.chan a = some ch) (hs : ch.closeState = .chanOpen)
    (ho : ¬ c.isOpen) (fails : Bool) : ngcsChanClose fails a c = some (chanShut a ch c) := by
  simp [ngcsChanClose, hch, hs, ho]

lemma connSend_closing (ho : c.isOpen) (a : ℕ) (ch : NgcsChan) (fails : Bool) (m : ChanMsg β) :
    (connSend fails m (c.set a (some ch.closing))).chan a = some ch.closing := by
  have ho' : (c.set a (some ch.closing)).isOpen := ho
  cases fails with
  | false =>
    rw [connSend_ok ho']
    exact update_self ..
  | true =>
    rw [connSend_fails ho']
    simp [NgcsConn.set, downRecord, NgcsChan.closing]

def closeNowTold (fails : Bool) (a : ℕ) (ch : NgcsChan) (c : NgcsConn β) : NgcsConn β :=
  let c := connSend fails ⟨ch.id, none⟩ (c.set a (some ch.closing))
  { c with
    chan := update c.chan a (some ch.closedNow)
    events := c.events ++ ch.closeEvents a }

lemma ngcsChanCloseNow_open (hch : c.chan a = some ch) (hs : ch.closeState = .chanOpen)
    (ho : c.isOpen) (fails : Bool) :
    ngcsChanCloseNow fails a c = some (closeNowTold fails a ch c) := by
  have hclosing := connSend_closing ho a ch fails ⟨ch.id, none⟩
  rw [ngcsChanCloseNow, ngcsChanClose_open hch hs ho]
  simp only [hch, hs, bind_eq_bind, bind_some, ne_eq, not_true_eq_false, if_false, hclosing]
  obtain ⟨id, gotdata, onclose, onfree, closeState, isFreed, isFreeing⟩ := ch
  rcases onclose with _ | _ | _ <;> cases isFreeing <;> cases isFreed <;> cases onfree <;>
    simp [closeNowTold, NgcsChan.closing, callOnclose, chanDelShut, chanDelEnd, chanFreed, NgcsConn.set,
      NgcsConn.event, NgcsChan.closedNow, NgcsChan.closeEvents, NgcsChan.freeEvents]

lemma ngcsChanCloseNow_down (hch : c.chan a = some ch) (hs : ch.closeState = .chanOpen)
    (ho : ¬ c.isOpen) (fails : Bool) :
    ngcsChanCloseNow fails a c = ch.shut.map fun ch' =>
      (chanShut a ch c).set a (some { ch' with gotdata := false, onclose := none }) := by
  have hself : (chanShut a ch c).chan a = ch.shut := by
    rw [chanShut_eq]
    exact update_self ..
  rw [ngcsChanCloseNow, ngcsChanClose_down hch hs ho]
  simp only [hch, hs, bind_eq_bind, bind_some, ne_eq, not_true_eq_false, if_false, hself]
  unfold NgcsChan.shut
  split <;> rfl

/-- What `ngcs_chan_close` does: nothing, unless the channel is open; it tells the other end, or
shuts the channel of a connection that is down. -/
inductive ChanCloses (fails : Bool) (a : ℕ) (ch : NgcsChan) (c : NgcsConn β) : NgcsConn β → Prop
  | left (hs : ch.closeState ≠ .chanOpen) : ChanCloses fails a ch c c
  | told (hs : ch.closeState = .chanOpen) (ho : c.isOpen) :
      ChanCloses fails a ch c (connSend fails ⟨ch.id, none⟩ (c.set a (some ch.closing)))
  | shut (hs : ch.closeState = .chanOpen) (ho : ¬ c.isOpen) :
      ChanCloses fails a ch c (chanShut a ch c)

/-- What `ngcs_chan_close_now` does; it does not return if the hook frees the channel. -/
inductive ChanClosesNow (fails : Bool) (a : ℕ) (ch : NgcsChan) (c : NgcsConn β) : NgcsConn β → Prop
  | left (hs : ch.closeState ≠ .chanOpen) : ChanClosesNow fails a ch c c
  | told (hs : ch.closeState = .chanOpen) (ho : c.isOpen) :
      ChanClosesNow fails a ch c (closeNowTold fails a ch c)
  | shut (hs : ch.closeState = .chanOpen) (ho : ¬ c.isOpen) {ch' : NgcsChan}
      (hshut : ch.shut = some ch') : ChanClosesNow fails a ch c
        ((chanShut a ch c).set a (some { ch' with gotdata := false, onclose := none }))

variable {fails : Bool} {c' : NgcsConn β}

lemma ngcsChanClose_cases (h : ngcsChanClose fails a c = some c') :
    ∃ ch, c.chan a = some ch ∧ ChanCloses fails a ch c c' := by
  obtain ⟨ch, hch, -⟩ := bind_eq_some_iff.mp h
  refine ⟨ch, hch, ?_⟩
  by_cases hs : ch.closeState = .chanOpen
  · by_cases ho : c.isOpen
    · rw [ngcsChanClose_open hch hs ho] at h
      exact some.inj h ▸ .told hs ho
    · rw [ngcsChanClose_down hch hs ho] at h
      exact some.inj h ▸ .shut hs ho
  · obtain rfl : c = c' := by simpa [ngcsChanClose, hch, hs] using h
    exact .left hs

lemma ngcsChanCloseNow_cases (h : ngcsChanCloseNow fails a c = some c') :
    ∃ ch, c.chan a = some ch ∧ ChanClosesNow fails a ch c c' := by
  obtain ⟨ch, hch, -⟩ := bind_eq_some_iff.mp h
  refine ⟨ch, hch, ?_⟩
  by_cases hs : ch.closeState = .chanOpen
  · by_cases ho : c.isOpen
    · rw [ngcsChanCloseNow_open hch hs ho] at h
      exact some.inj h ▸ .told hs ho
    · rw [ngcsChanCloseNow_down hch hs ho] at h
      obtain ⟨ch', hshut, rfl⟩ := map_eq_some_iff.mp h
      exact .shut hs ho hshut
  · obtain rfl : c = c' := by simpa [ngcsChanCloseNow, hch, hs] using h
    exact .left hs

end

end

end Initng
