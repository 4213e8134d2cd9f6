import Initng.NgcsCloseHooks

namespace Initng

open List Option

section
variable {β : Type}

inductive ConnAct (β : Type)
  | send (a : ℕ) (fails : Bool) (data : β)
  | close (a : ℕ) (fails : Bool)
  | closeNow (a : ℕ) (fails : Bool)
  | del (a : ℕ) (fails : Bool)
  | closeChannel (a : ℕ) (fails failsAgain : Bool)
  | peer (m : ChanMsg β) (fails : Bool)
  | down

def ngcsChanSend (fails : Bool) (a : ℕ) (data : β) (c : NgcsConn β) : Option (NgcsConn β) :=
  (c.chan a).map fun ch => connSend fails ⟨ch.id, some data⟩ c

def ConnAct.apply (c : NgcsConn β) : ConnAct β → Option (NgcsConn β)
  | send a fails data => ngcsChanSend fails a data c
  | close a fails => ngcsChanClose fails a c
  | closeNow a fails => ngcsChanCloseNow fails a c
  | del a fails => ngcsChanDel fails a c
  | closeChannel a fails failsAgain => ngcsCloseChannel fails failsAgain a c
  | peer m fails => some (ngcsConnDispatchOne (fun _ _ c => c) fails m c)
  | down => some (ngcsConnClose c)

def HeldAt (c : NgcsConn β) (a : ℕ) : Prop :=
  ∃ ch, c.chan a = some ch ∧ ch.onfree = true ∧ ch.isFreed = false

/-- Only the channels `p` are touched, the hooks `es` are called, and a channel is freed or
given up only behind its `onfree` hook. -/
structure ConnOp (p : ℕ → Bool) (es : List ChanEvent) (c c' : NgcsConn β) : Prop where
  count : c'.count = c.count
  events : c'.events = c.events ++ es
  absent : ∀ b, c.chan b = none → c'.chan b = none
  quiet : ∀ b, p b = false → .onfree b ∉ es
  held : ∀ b, HeldAt c b → HeldAt c' b ∨ .onfree b ∈ es

section
variable {c c' c'' : NgcsConn β} {p q : ℕ → Bool} {es es' : List ChanEvent} {a : ℕ} {ch : NgcsChan}

lemma ConnOp.refl (p : ℕ → Bool) (c : NgcsConn β) : ConnOp p [] c c :=
  ⟨rfl, (append_nil _).symm, fun _ h => h, fun _ _ => not_mem_nil, fun _ h => .inl h⟩

lemma ConnOp.mono (op : ConnOp p es c c') (h : ∀ b, p b → q b) : ConnOp q es c c' where
  count := op.count
  events := op.events
  absent := op.absent
  quiet b hb := op.quiet b (by
    by_contra hp
    rw [h b (by simpa using hp)] at hb
    cases hb)
  held := op.held

lemma ConnOp.trans (h₁ : ConnOp p es c c') (h₂ : ConnOp p es' c' c'') :
    ConnOp p (es ++ es') c c'' where
  count := h₂.count.trans h₁.count
  events := by rw [h₂.events, h₁.events, append_assoc]
  absent b hb := h₂.absent b (h₁.absent b hb)
  quiet b hb hm := (mem_append.mp hm).elim (h₁.quiet b hb) (h₂.quiet b hb)
  held b hb := by
    rcases h₁.held b hb with hb | hm
    · exact (h₂.held b hb).imp_right (mem_append_right _)
    · exact .inr (mem_append_left _ hm)

lemma Touches.connOp {r : Option NgcsChan} (t : Touches a r es c c')
    (hch : c.chan a = some ch)
    (hheld : ch.onfree → ch.isFreed = false →
      (∃ ch', r = some ch' ∧ ch'.onfree = true ∧ ch'.isFreed = false) ∨ .onfree a ∈ es) :
    ConnOp (· == a) es c c' := by
  refine ⟨t.count, t.events, fun b hb => ?_, fun b hb hm => ?_, fun b hb => ?_⟩
  · have hne : b ≠ a := by
      rintro rfl
      cases hb.symm.trans hch
    rw [(t.other hne).1, hb]
  · rcases t.own _ hm with he | he
    · cases he
    · simp [ChanEvent.onfree.inj he] at hb
  · obtain ⟨ch₀, hch₀, hfree, hfreed⟩ := hb
    by_cases hba : b = a
    · subst hba
      obtain rfl := some.inj (hch.symm.trans hch₀)
      rw [HeldAt, t.self.1]
      exact hheld hfree hfreed
    · rw [HeldAt, (t.other hba).1]
      exact .inl ⟨ch₀, hch₀, hfree, hfreed⟩

lemma mem_closeEvents (hdel : ch.onclose = some .chanDel ∧ ¬ ch.isFreeing)
    (hfree : ch.onfree) (hfreed : ch.isFreed = false) : .onfree a ∈ ch.closeEvents a := by
  simp [NgcsChan.closeEvents, NgcsChan.freeEvents, hdel.1, hdel.2, hfree, hfreed]

lemma held_shut (hfree : ch.onfree) (hfreed : ch.isFreed = false) :
    (∃ ch', ch.shut = some ch' ∧ ch'.onfree = true ∧ ch'.isFreed = false) ∨
      .onfree a ∈ ch.closeEvents a := by
  by_cases hdel : ch.onclose = some .chanDel ∧ ¬ ch.isFreeing
  · exact .inr (mem_closeEvents hdel hfree hfreed)
  · exact .inl ⟨{ ch with closeState := .chanClosed }, if_neg hdel, hfree, hfreed⟩

lemma held_closedNow (hfree : ch.onfree) (hfreed : ch.isFreed = false) :
    (∃ ch', some ch.closedNow = some ch' ∧ ch'.onfree = true ∧ ch'.isFreed = false) ∨
      .onfree a ∈ ch.closeEvents a := by
  by_cases hdel : ch.onclose = some .chanDel ∧ ¬ ch.isFreeing
  · exact .inr (mem_closeEvents hdel hfree hfreed)
  · refine .inl ⟨_, rfl, hfree, ?_⟩
    simpa [NgcsChan.closedNow, hfreed] using hdel

lemma connOp_set {ch ch' : NgcsChan} (hch : c.chan a = some ch) (hfree : ch'.onfree = ch.onfree)
    (hfreed : ch'.isFreed = ch.isFreed) : ConnOp (· == a) [] c (c.set a (some ch')) :=
  (touches_set ..).connOp hch fun h h' => .inl ⟨ch', rfl, hfree.trans h, hfreed.trans h'⟩

lemma connOp_chanShut (hch : c.chan a = some ch) :
    ConnOp (· == a) (ch.closeEvents a) c (chanShut a ch c) :=
  (touches_chanShut ..).connOp hch held_shut

lemma GoesDown.connOp (g : GoesDown c c') (hlt : ∀ b, c.count ≤ b → c.chan b = none) :
    ConnOp (fun _ => true) ((range c.count).flatMap fun b => downEvents b (c.chan b)) c c' := by
  have hchan : ∀ b, c'.chan b = downRecord (c.chan b) := by
    intro b
    rw [g.chan]
    by_cases hb : b < c.count
    · exact if_pos hb
    · simp only [if_neg hb, hlt b (Nat.le_of_not_lt hb)]
      rfl
  refine ⟨g.count, g.events, fun b hb => ?_, fun b hb => ?_, fun b hb => ?_⟩
  · rw [hchan, hb]
    rfl
  · cases hb
  · obtain ⟨ch, hch, hfree, hfreed⟩ := hb
    by_cases hs : ch.closeState = .chanOpen
    · have hdown : downRecord (c.chan b) = ch.shut := by simp [hch, downRecord, hs]
      rw [HeldAt, hchan, hdown]
      refine (held_shut (a := b) hfree hfreed).imp_right fun hm => ?_
      refine mem_flatMap.mpr ⟨b, mem_range.mpr ?_, ?_⟩
      swap
      · simpa [hch, downEvents, hs] using hm
      by_contra hge
      rw [hlt b (Nat.le_of_not_lt hge)] at hch
      cases hch
    · have hdown : downRecord (c.chan b) = some ch := by simp [hch, downRecord, hs]
      exact .inl ⟨ch, (hchan b).trans hdown, hfree, hfreed⟩

def Numbered (c : NgcsConn β) : Prop := ∀ b, c.count ≤ b → c.chan b = none

lemma ConnOp.numbered (op : ConnOp p es c c') (h : Numbered c) : Numbered c' :=
  fun b hb => op.absent b (h b (op.count ▸ hb))

lemma connOp_connSend (hn : Numbered c) (fails : Bool) (m : ChanMsg β) :
    ∃ es, ConnOp (fun _ => fails) es c (connSend fails m c) := by
  by_cases ho : c.isOpen
  · cases fails with
    | false =>
      rw [connSend_ok ho]
      exact ⟨[], rfl, (append_nil _).symm, fun _ h => h, fun _ _ => not_mem_nil, fun _ h => .inl h⟩
    | true => exact ⟨_, (goesDown_connSend ho m).connOp hn⟩
  · have hsame : connSend fails m c = c := if_pos ho
    rw [hsame]
    exact ⟨[], .refl _ c⟩

lemma connSend_fails_isOpen (m : ChanMsg β) (c : NgcsConn β) :
    (connSend true m c).isOpen = false := by
  by_cases ho : c.isOpen
  · rw [connSend_fails ho]
  · have hsame : connSend true m c = c := if_pos ho
    rw [hsame]
    exact Bool.eq_false_iff.mpr ho

variable {fails : Bool}

lemma connOp_told (hn : Numbered c) (hch : c.chan a = some ch) (fails : Bool) :
    ∃ es, ConnOp (fun b => b == a || fails) es c
      (connSend fails ⟨ch.id, none⟩ (c.set a (some ch.closing))) := by
  have hset : ConnOp (· == a) [] c (c.set a (some ch.closing)) := connOp_set hch rfl rfl
  obtain ⟨es, hsend⟩ := connOp_connSend (hset.numbered hn) fails ⟨ch.id, none⟩
  exact ⟨_, (hset.mono fun b hb => by simp [hb]).trans (hsend.mono fun b hb => by simp [hb])⟩

lemma connOp_close (hn : Numbered c) (h : ngcsChanClose fails a c = some c') :
    ∃ es, ConnOp (fun b => b == a || fails) es c c' := by
  obtain ⟨ch, hch, hcloses⟩ := ngcsChanClose_cases h
  cases hcloses with
  | left hs => exact ⟨[], .refl _ c⟩
  | told hs ho => exact connOp_told hn hch fails
  | shut hs ho => exact ⟨_, (connOp_chanShut hch).mono fun b hb => by simp [hb]⟩

lemma connOp_closeNow (hn : Numbered c) (h : ngcsChanCloseNow fails a c = some c') :
    ∃ es, ConnOp (fun b => b == a || fails) es c c' := by
  obtain ⟨ch, hch, hcloses⟩ := ngcsChanCloseNow_cases h
  cases hcloses with
  | left hs => exact ⟨[], .refl _ c⟩
  | told hs ho =>
    obtain ⟨es, htold⟩ := connOp_told hn hch fails
    have hhook := (touches_closeNowTold fails a ch c).connOp
      (connSend_closing ho a ch fails ⟨ch.id, none⟩) held_closedNow
    exact ⟨_, htold.trans (hhook.mono fun b hb => by simp [hb])⟩
  | @shut hs ho ch' hshut =>
    have hself : (chanShut a ch c).chan a = some ch' := (touches_chanShut a ch c).self.1.trans hshut
    have hset : ConnOp (· == a) [] (chanShut a ch c)
        ((chanShut a ch c).set a (some { ch' with gotdata := false, onclose := none })) :=
      connOp_set hself rfl rfl
    exact ⟨_, ((connOp_chanShut hch).trans hset).mono fun b hb => by simp [hb]⟩

lemma connOp_freed (hch : c.chan a = some ch) :
    ∃ es, ConnOp (· == a) es c (chanDelEnd a { ch with isFreed := true } (chanFreed a ch c)) := by
  refine ⟨if ch.onfree then [.onfree a] else [], Touches.connOp (r :=
    if ch.closeState = .chanClosed then none else some { ch with isFreed := true }) ?_ hch ?_⟩
  · unfold chanDelEnd chanFreed
    cases ch.onfree <;> by_cases hs : ch.closeState = .chanClosed <;>
      simp only [hs, if_true, if_false] <;>
      exact ⟨rfl, rfl, rfl, by simp [NgcsConn.set, NgcsConn.event], by simp⟩
  · intro hfree _
    right
    rw [if_pos hfree]
    exact .head _

lemma connOp_del (hn : Numbered c) (h : ngcsChanDel fails a c = some c') :
    ∃ es, ConnOp (fun b => b == a || fails) es c c' := by
  obtain ⟨ch, hch, h⟩ := bind_eq_some_iff.mp h
  split at h
  · obtain rfl := some.inj h
    exact ⟨[], .refl _ c⟩
  set ch' := { ch with isFreeing := true }
  have hset : ConnOp (· == a) [] c (c.set a (some ch')) := connOp_set hch rfl rfl
  have hself : (c.set a (some ch')).chan a = some ch' := Function.update_self ..
  split at h
  next hfreed =>
    obtain rfl := some.inj h
    have t : Touches a (if ch.closeState = .chanClosed then none else some ch') []
        (c.set a (some ch')) (chanDelEnd a ch' (c.set a (some ch'))) := by
      unfold chanDelEnd
      split <;> exact touches_set ..
    have hend := t.connOp hself fun _ hnot => by cases hfreed.symm.trans hnot
    exact ⟨_, (hset.trans hend).mono fun b hb => by simp [hb]⟩
  next =>
    obtain ⟨c₁, hc₁, h⟩ := bind_eq_some_iff.mp h
    obtain ⟨ch₁, hch₁, h⟩ := bind_eq_some_iff.mp h
    obtain rfl := some.inj h
    obtain ⟨es₁, hnow⟩ := connOp_closeNow (hset.numbered hn) hc₁
    obtain ⟨es₂, hfreed⟩ := connOp_freed hch₁
    exact ⟨_, ((hset.mono fun b hb => by simp [hb]).trans hnow).trans
      (hfreed.mono fun b hb => by simp [hb])⟩

lemma connOp_closeChannel (hn : Numbered c) {failsAgain : Bool}
    (h : ngcsCloseChannel fails failsAgain a c = some c') :
    ∃ es, ConnOp (fun b => b == a || fails || failsAgain) es c c' := by
  obtain ⟨ch, hch, h⟩ := bind_eq_some_iff.mp h
  obtain ⟨es, hsend⟩ := connOp_connSend hn fails ⟨ch.id, none⟩
  obtain ⟨es', hdel⟩ := connOp_del (hsend.numbered hn) h
  refine ⟨_, (hsend.mono fun b hb => ?_).trans (hdel.mono fun b hb => ?_)⟩
  · rw [hb, Bool.or_true, Bool.true_or]
  · rcases Bool.or_eq_true_iff.mp hb with hb | hb <;> simp [hb]

lemma connOp_closed (hch : c.chan a = some ch) :
    ∃ es, ConnOp (· == a) es c (ngcsChanClosed a ch c) := by
  unfold ngcsChanClosed
  split
  next hfreed =>
    exact ⟨[], (touches_set ..).connOp hch fun _ hnot => by cases hfreed.symm.trans hnot⟩
  next => exact ⟨_, connOp_chanShut hch⟩

end

/-- The channels that may be released: the one that is closed, and all of them if a send fails
or the connection goes down. -/
def ConnAct.mayRelease (c : NgcsConn β) (b : ℕ) : ConnAct β → Bool
  | send _ fails _ => fails
  | close a fails => b == a || fails
  | closeNow a fails => b == a || fails
  | del a fails => b == a || fails
  | closeChannel a fails failsAgain => b == a || fails || failsAgain
  | peer m fails => (m.body.isNone && (c.find m.chan).any fun x => b == x.1) || fails
  | down => true

section
variable {c c' : NgcsConn β}

lemma connOp_dispatch (hn : Numbered c) (m : ChanMsg β) (fails : Bool) :
    ∃ es, ConnOp (fun b => (ConnAct.peer m fails).mayRelease c b) es c
      (ngcsConnDispatchOne (fun _ _ c => c) fails m c) := by
  unfold ngcsConnDispatchOne
  obtain ⟨id, body⟩ := m
  cases hf : c.find id with
  | none =>
    cases body with
    | none => exact ⟨[], .refl _ c⟩
    | some data =>
      obtain ⟨es, hsend⟩ := connOp_connSend hn fails ⟨id, none⟩
      exact ⟨es, hsend.mono fun b hb => by simp [ConnAct.mayRelease, hb]⟩
  | some x =>
    obtain ⟨a, ch⟩ := x
    cases body with
    | none =>
      obtain ⟨es, hclosed⟩ := connOp_closed (find_eq_some hf).1
      exact ⟨es, hclosed.mono fun b hb => by
        simp [ConnAct.mayRelease, hf, hb]⟩
    | some data =>
      refine ⟨[], ?_⟩
      simp only [ite_self]
      exact .refl _ c

lemma ConnAct.connOp (hn : Numbered c) (op : ConnAct β) (h : op.apply c = some c') :
    ∃ es, ConnOp (fun b => op.mayRelease c b) es c c' := by
  cases op with
  | send a fails data =>
    obtain ⟨ch, -, rfl⟩ := map_eq_some_iff.mp h
    exact connOp_connSend hn fails _
  | close a fails => exact connOp_close hn h
  | closeNow a fails => exact connOp_closeNow hn h
  | del a fails => exact connOp_del hn h
  | closeChannel a fails failsAgain => exact connOp_closeChannel hn h
  | peer m fails =>
    obtain rfl := some.inj h
    exact connOp_dispatch hn m fails
  | down =>
    obtain rfl := some.inj h
    by_cases ho : c.isOpen
    · exact ⟨_, (goesDown_ngcsConnClose ho).connOp hn⟩
    · have hsame : ngcsConnClose c = c := if_pos ho
      rw [hsame]
      exact ⟨[], .refl _ c⟩

end

end

end Initng
