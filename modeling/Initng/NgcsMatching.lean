import Initng.NgcsClient

namespace Initng

open LinkRing LittleEndian List Function

def queued (n k : ℕ) : ReqAddr := if k < n then .req k else .pendingReqs

def lastQueued : ℕ → ReqAddr
  | 0 => .pendingReqs
  | n + 1 => .req n

structure Waiting (n : ℕ) (l : Links ReqAddr) : Prop where
  next_pending : l.next ReqAddr.pendingReqs = some (some (queued n 0))
  prev_pending : l.prev ReqAddr.pendingReqs = some (some (lastQueued n))
  next_resps : l.next ReqAddr.resps = some (some .resps)
  prev_resps : l.prev ReqAddr.resps = some (some .resps)
  next_req : ∀ k < n, l.next (ReqAddr.req k) = some (some (queued n (k + 1)))
  prev_req : ∀ k < n, l.prev (ReqAddr.req k) = some (some (.req k))

def Room (n : ℕ) (l : Links ReqAddr) : Prop :=
  2 ≤ n → l.prev ReqAddr.pendingReqs = some (some (lastQueued n)) ∧
    ∃ v, l.next (lastQueued n) = some v

structure Answered (n : ℕ) (l : Links ReqAddr) : Prop where
  next_pending : ∃ v, l.next ReqAddr.pendingReqs = some v
  next_resps : l.next ReqAddr.resps = some (some (.req 0))
  prev_resps : l.prev ReqAddr.resps = some (some (.req 0))
  next_req : l.next (ReqAddr.req 0) = some (some .resps)
  prev_req : l.prev (ReqAddr.req 0) = some (some (.req 0))
  room : Room n l

section
variable {n : ℕ} {l : Links ReqAddr}

abbrev mallocReq (n : ℕ) (l : Links ReqAddr) : Links ReqAddr :=
  update l (.req n) (some ⟨none, none⟩)

variable {n k : ℕ}

@[simp] lemma req_eq_lastQueued : .req k = lastQueued n ↔ n = k + 1 := by
  cases n with
  | zero => exact ⟨nofun, nofun⟩
  | succ n => simp [lastQueued, eq_comm]

lemma lastQueued_ne_new (n : ℕ) : lastQueued n ≠ .req n := fun h => by
  simpa using req_eq_lastQueued.mp h.symm

lemma lastQueued_ne_first (hn : 2 ≤ n) : lastQueued n ≠ .req 0 := fun h => by
  have := req_eq_lastQueued.mp h.symm
  omega

lemma lastQueued_ne_pending (hn : 2 ≤ n) : lastQueued n ≠ .pendingReqs := by
  cases n with
  | zero => exact absurd hn (by decide)
  | succ n => exact nofun

@[simp] lemma resps_ne_lastQueued (n : ℕ) : .resps ≠ lastQueued n := by
  cases n <;> exact nofun

@[simp] lemma resps_ne_queued (n k : ℕ) : .resps ≠ queued n k := by
  unfold queued
  split_ifs <;> exact nofun

lemma queued_of_lt (h : k < n) : queued n k = .req k := if_pos h

lemma Waiting.next_last (w : Waiting n l) : ∃ v, l.next (lastQueued n) = some v := by
  cases n with
  | zero => exact ⟨_, w.next_pending⟩
  | succ n => exact ⟨_, w.next_req n (Nat.lt_succ_self n)⟩

lemma addTail_pending {last : ReqAddr} (hlast : last ≠ .req n)
    (hp : l.prev ReqAddr.pendingReqs = some (some last)) (hl : ∃ v, l.next last = some v) :
    ∃ l', initngListAddTail (.req n) .pendingReqs (mallocReq n l) = some l' ∧
      (∀ b : ReqAddr, l'.next b = if b = .req n then some (some .pendingReqs)
        else if b = last then some (some (.req n)) else l.next b) ∧
      ∀ b : ReqAddr, l'.prev b = if b = .req n then some (some (.req n))
        else if b = .pendingReqs then some (some (.req n)) else l.prev b := by
  obtain ⟨v, hv⟩ := hl
  have hen : Links.next (mallocReq n l) (ReqAddr.req n) = some none := by
    rw [next_update, if_pos rfl]; rfl
  have hep : Links.prev (mallocReq n l) (ReqAddr.req n) = some none := by
    rw [prev_update, if_pos rfl]; rfl
  have hp' : Links.prev (mallocReq n l) ReqAddr.pendingReqs = some (some last) := by
    rw [prev_update, if_neg nofun, hp]
  have hv' : Links.next (mallocReq n l) last = some v := by
    rw [next_update, if_neg hlast, hv]
  obtain ⟨l', eq, next, prev⟩ := initngListAddTail_spec hen hep hp' hv' nofun hlast
  refine ⟨l', eq, fun b => ?_, fun b => ?_⟩
  · rw [next, next_update]
    split_ifs <;> rfl
  · rw [prev, prev_update]
    split_ifs <;> rfl

lemma Waiting.add (w : Waiting n l) :
    ∃ l', initngListAddTail (.req n) .pendingReqs (mallocReq n l) = some l' ∧
      Waiting (n + 1) l' := by
  obtain ⟨l', eq, next, prev⟩ := addTail_pending (lastQueued_ne_new n) w.prev_pending w.next_last
  refine ⟨l', eq, ?_, ?_, ?_, ?_, fun k hk => ?_, fun k hk => ?_⟩
  · cases n with
    | zero => simp [next, lastQueued, queued]
    | succ n => simp [next, lastQueued, w.next_pending, queued]
  · simp [prev, lastQueued]
  · simp [next, w.next_resps]
  · simp [prev, w.prev_resps]
  · rcases Nat.lt_succ_iff_lt_or_eq.mp hk with hk | rfl
    · by_cases hlast : n = k + 1
      · simp [next, hlast, queued]
      · have hk' : k + 1 < n := by omega
        simp [next, hk.ne, hlast, w.next_req k hk, queued, hk', hk]
    · simp [next, queued]
  · rcases Nat.lt_succ_iff_lt_or_eq.mp hk with hk | rfl
    · simp [prev, hk.ne, w.prev_req k hk]
    · simp [prev]

lemma Waiting.move (w : Waiting n l) (hn : 0 < n) :
    ∃ l', listMoveTail (.req 0) .resps l = some l' ∧ Answered n l' := by
  have hq : queued n 1 ≠ .req 0 := by
    unfold queued
    split_ifs <;> simp
  obtain ⟨v, hv⟩ : ∃ v, l.prev (queued n 1) = some v := by
    unfold queued
    split_ifs with h
    · exact ⟨_, w.prev_req 1 h⟩
    · exact ⟨_, w.prev_pending⟩
  -- the request is its own predecessor, so the head still leads to it
  obtain ⟨l₁, eq₁, next₁, prev₁⟩ :=
    initngListDel_spec (w.next_req 0 hn) (w.prev_req 0 hn) (w.next_req 0 hn) hv hq
  have hen : l₁.next (ReqAddr.req 0) = some none := by rw [next₁, if_pos rfl]
  have hep : l₁.prev (ReqAddr.req 0) = some none := by rw [prev₁, if_pos rfl]
  have hpq : l₁.prev ReqAddr.resps = some (some .resps) := by simp [prev₁, w.prev_resps]
  have hnq : l₁.next ReqAddr.resps = some (some .resps) := by simp [next₁, w.next_resps]
  obtain ⟨l₂, eq₂, next₂, prev₂⟩ := initngListAddTail_spec hen hep hpq hnq nofun nofun
  refine ⟨l₂, by simp [listMoveTail, eq₁, eq₂], ?_, ?_, ?_, ?_, ?_, fun hn => ⟨?_, ?_⟩⟩
  · exact ⟨_, by simp [next₂, next₁, w.next_pending]; rfl⟩
  · simp [next₂]
  · simp [prev₂]
  · simp [next₂]
  · simp [prev₂]
  · simp [prev₂, prev₁, w.prev_pending, queued_of_lt hn]
  · obtain ⟨v, hv⟩ := w.next_last
    refine ⟨v, ?_⟩
    simp [next₂, next₁, lastQueued_ne_first hn, hv, (resps_ne_lastQueued n).symm]

lemma Room.add (r : Room n l) (hn : 2 ≤ n) :
    ∃ l', initngListAddTail (.req n) .pendingReqs (mallocReq n l) = some l' ∧
      Room (n + 1) l' ∧
      (∀ b : ReqAddr, b ≠ .req n → b ≠ lastQueued n → l'.next b = l.next b) ∧
      ∀ b : ReqAddr, b ≠ .req n → b ≠ .pendingReqs → l'.prev b = l.prev b := by
  obtain ⟨hp, hl⟩ := r hn
  obtain ⟨l', eq, next, prev⟩ := addTail_pending (lastQueued_ne_new n) hp hl
  refine ⟨l', eq, fun _ => ⟨?_, ?_⟩, fun b hb hb' => ?_, fun b hb hb' => ?_⟩
  · simp [prev, lastQueued]
  · exact ⟨some .pendingReqs, by simp [next, lastQueued]⟩
  · rw [next, if_neg hb, if_neg hb']
  · rw [prev, if_neg hb, if_neg hb']

lemma Answered.add (a : Answered n l) (hn : 2 ≤ n) :
    ∃ l', initngListAddTail (.req n) .pendingReqs (mallocReq n l) = some l' ∧
      Answered (n + 1) l' := by
  obtain ⟨l', eq, room, next, prev⟩ := a.room.add hn
  have h0 : ReqAddr.req 0 ≠ .req n := fun h => by
    have := ReqAddr.req.inj h
    omega
  obtain ⟨v, hv⟩ := a.next_pending
  refine ⟨l', eq, ⟨v, ?_⟩, ?_, ?_, ?_, ?_, room⟩
  · rw [next .pendingReqs nofun (lastQueued_ne_pending hn).symm, hv]
  · rw [next .resps nofun (resps_ne_lastQueued n), a.next_resps]
  · rw [prev .resps nofun nofun, a.prev_resps]
  · rw [next _ h0 (lastQueued_ne_first hn).symm, a.next_req]
  · rw [prev _ h0 nofun, a.prev_req]

lemma Answered.free (a : Answered n l) :
    ∃ l', initngListDel (.req 0) l = some l' ∧ Room n (update l' (.req 0) none) ∧
      ∃ v, Links.next (update l' (.req 0) none) ReqAddr.resps = some v := by
  obtain ⟨l', eq, next, prev⟩ :=
    initngListDel_spec a.next_req a.prev_req a.next_req a.prev_resps nofun
  refine ⟨l', eq, fun hn => ⟨?_, ?_⟩, some (.req 0), ?_⟩
  · simp [prev_update, prev, (a.room hn).1]
  · obtain ⟨v, hv⟩ := (a.room hn).2
    exact ⟨v, by simp [next_update, next, lastQueued_ne_first hn, hv]⟩
  · simp [next_update, next, a.next_resps]

end

section
variable {H C : Type} {n : ℕ} {c : NgcsCliConn H C}

lemma NgcsMsg.unpack_eq (m : NgcsMsg) (old : BitVec 64) :
    ∃ r, ngcsUnpackOne m.type m.len m.data old = some r ∧ r.getD noResp = m.answer old := by
  have hlen : m.len.toNat ≤ m.data.length := by
    rw [NgcsMsg.len, BitVec.toNat_ofNat]
    exact Nat.mod_le _ _
  obtain ⟨r, hr⟩ := Option.isSome_iff_exists.mp (ngcsUnpackOne_isSome m.type old hlen)
  exact ⟨r, hr, by rw [NgcsMsg.answer, hr]; rfl⟩

lemma Waiting.gotdata (w : Waiting (n + 1) c.links) (m : NgcsMsg) :
    ∃ l', Answered (n + 1) l' ∧ chan0Gotdata m c = some { c with
      resp := update c.resp (.req 0) (m.answer (c.resp (.req 0)).bits)
      links := l' } := by
  obtain ⟨l', eq, a⟩ := w.move (Nat.succ_pos n)
  obtain ⟨r, hr, hanswer⟩ := m.unpack_eq (c.resp (.req 0)).bits
  refine ⟨l', a, ?_⟩
  simp [chan0Gotdata, initngListIsempty, w.next_pending, queued, hr, NgcsCliConn.relink, eq,
    hanswer]

lemma Waiting.close_none (w : Waiting 0 c.links) (fuel : ℕ) :
    chan0Close (fuel + 1) c = some { c with chan0 := false } := by
  simp [chan0Close, initngListForeachSafe_empty _ w.next_pending]

lemma Waiting.close_one (w : Waiting 1 c.links) (fuel : ℕ) :
    ∃ l', Answered 1 l' ∧ chan0Close (fuel + 2) c = some { c with
      resp := update c.resp (.req 0) noResp
      links := l'
      chan0 := false } := by
  obtain ⟨l', eq, a⟩ := w.move Nat.one_pos
  obtain ⟨v, hv⟩ := a.next_pending
  have hturn : cancelOne (.req 0) c =
      some { c with resp := update c.resp (.req 0) noResp, links := l' } := by
    simp [cancelOne, NgcsCliConn.relink, eq]
  have hloop : initngListForeachSafe NgcsCliConn.links cancelOne (fuel + 2) .pendingReqs c = _ :=
    initngListForeachSafe_single w.next_pending (by decide) (w.next_req 0 Nat.one_pos) hturn hv fuel
  exact ⟨l', a, by simp [chan0Close, hloop]⟩

lemma Answered.dispatch (a : Answered n c.links) {handler : Option H} {cookie : C}
    (hreq : c.reqs[0]? = some (handler, cookie)) (fuel : ℕ) :
    ∃ l', Room n l' ∧ ngcsClientDispatch (fuel + 2) c =
      some { c.callHandler 0 handler cookie with links := l' } := by
  obtain ⟨l', eq, room, v, hv⟩ := a.free
  have hturn : dispatchOne (.req 0) c = some { c.callHandler 0 handler cookie with
      links := update l' (.req 0) none } := by
    simp [dispatchOne, hreq, NgcsCliConn.relink, eq]
  exact ⟨_, room, initngListForeachSafe_single a.next_resps (by decide) a.next_req hturn hv fuel⟩

end

section
variable {H C : Type}

inductive Delivers (mem : ReqAddr → NgcsData) (s : Session H C) (c : NgcsCliConn H C) : Prop
  | waiting (answers : s.answers = []) (delivered : s.delivered = 0)
      (closed : s.closed → s.requests = []) (resp : c.resp = mem)
      (links : Waiting s.requests.length c.links)
  | answered (w : NgcsData) (answers : s.answers = [w]) (delivered : s.delivered = 0)
      (some_request : s.requests ≠ []) (resp : c.resp (.req 0) = w)
      (links : Answered s.requests.length c.links)
  | dispatched (w : NgcsData) (answers : s.answers = [w]) (delivered : s.delivered = 1)
      (links : Room s.requests.length c.links)

structure Follows (mem : ReqAddr → NgcsData) (s : Session H C) (c : NgcsCliConn H C) : Prop where
  consistent : s.Consistent
  reqs : c.reqs = s.requests
  chan0 : c.chan0 = !s.closed
  calls : c.calls = s.calls
  delivers : Delivers mem s c

/-- Where the client keeps up with the session: a request is made before the first answer or
while another one waits, only one answer arrives, a closure finds at most one request, and
nothing is dispatched after an answer was. -/
def Session.Allows (s : Session H C) : ClientStep H C → Prop
  | .cmdAsync sent _ _ =>
    s.closed ∨ sent = false ∨ s.answers = [] ∨ s.answers.length < s.requests.length
  | .gotdata _ => s.closed ∨ s.answers = []
  | .close => s.closed ∨ (s.answers = [] ∧ s.requests.length ≤ 1)
  | .dispatch => s.delivered = 0

variable {mem : ReqAddr → NgcsData} {s : Session H C} {c : NgcsCliConn H C}

lemma Delivers.cmdAsync (d : Delivers mem s c) (hopen : s.closed = false)
    (ok : s.answers = [] ∨ s.answers.length < s.requests.length) (r : Option H × C) :
    ∃ l', initngListAddTail (.req s.requests.length) .pendingReqs
        (mallocReq s.requests.length c.links) = some l' ∧
      Delivers mem { s with requests := s.requests ++ [r] }
        { c with reqs := c.reqs ++ [r], links := l' } := by
  have two {w : NgcsData} (h : s.answers = [w]) : 2 ≤ s.requests.length := by
    have : 1 < s.requests.length := by simpa [h] using ok
    omega
  have hlen : (s.requests ++ [r]).length = s.requests.length + 1 := length_append
  cases d with
  | waiting answers delivered closed resp links =>
    obtain ⟨l', eq, w⟩ := links.add
    refine ⟨l', eq, .waiting answers delivered ?_ resp (hlen ▸ w)⟩
    exact fun h => absurd (hopen.symm.trans h) nofun
  | answered w answers delivered some_request resp links =>
    obtain ⟨l', eq, a⟩ := links.add (two answers)
    exact ⟨l', eq, .answered w answers delivered (by simp) resp (hlen ▸ a)⟩
  | dispatched w answers delivered links =>
    obtain ⟨l', eq, room, -, -⟩ := links.add (two answers)
    exact ⟨l', eq, .dispatched w answers delivered (hlen ▸ room)⟩

lemma Follows.extend {t : Session H C} {c' : NgcsCliConn H C} (f : Follows mem s c)
    (ht : t.Consistent) (hd : t.delivered = s.delivered) (hr : s.requests <+: t.requests)
    (ha : s.answers <+: t.answers) (reqs : c'.reqs = t.requests) (chan0 : c'.chan0 = !t.closed)
    (calls : c'.calls = c.calls) (d : Delivers mem t c') : Follows mem t c' :=
  ⟨ht, reqs, chan0, (calls.trans f.calls).trans (f.consistent.calls_eq hd hr ha), d⟩

lemma Follows.cmdAsync (f : Follows mem s c) (fuel : ℕ) {sent : Bool} {handler : Option H}
    {cookie : C} (ok : s.Allows (.cmdAsync sent handler cookie)) :
    ∃ c', ClientStep.apply fuel c (.cmdAsync sent handler cookie) = some c' ∧
      Follows mem (s.apply mem (.cmdAsync sent handler cookie)) c' := by
  have hs := f.consistent.apply mem (.cmdAsync sent handler cookie)
  by_cases h : s.closed ∨ sent = false
  · refine ⟨c, ?_, by simpa [Session.apply, h] using f⟩
    have hno : ¬ (c.chan0 ∧ sent) := by
      rw [f.chan0]
      rcases h with h | h <;> simp [h]
    simp [ClientStep.apply, ngcsCmdAsync, hno]
  · rw [not_or, Bool.not_eq_true, Bool.not_eq_false] at h
    obtain ⟨hopen, rfl⟩ := h
    have ok' : s.answers = [] ∨ s.answers.length < s.requests.length := by
      simpa [Session.Allows, hopen] using ok
    obtain ⟨l', eq, d⟩ := f.delivers.cmdAsync hopen ok' (handler, cookie)
    have hchan : c.chan0 = true := by simp [f.chan0, hopen]
    have happly : s.apply mem (.cmdAsync true handler cookie) =
        { s with requests := s.requests ++ [(handler, cookie)] } := by
      simp [Session.apply, hopen]
    rw [happly] at hs ⊢
    refine ⟨{ c with reqs := c.reqs ++ [(handler, cookie)], links := l' }, ?_,
      f.extend hs rfl (prefix_append ..) (prefix_refl _) ?_ f.chan0 rfl d⟩
    · rw [← f.reqs] at eq
      simp [ClientStep.apply, ngcsCmdAsync, hchan, NgcsCliConn.relink, eq]
    · simp [f.reqs]

lemma Delivers.waiting_of_nil (d : Delivers mem s c) (h : s.answers = []) :
    s.delivered = 0 ∧ c.resp = mem ∧ Waiting s.requests.length c.links := by
  cases d with
  | waiting _ delivered _ resp links => exact ⟨delivered, resp, links⟩
  | answered w answers | dispatched w answers => exact absurd (h.symm.trans answers) nofun

section
variable (f : Follows mem s c)
include f

variable (fuel : ℕ)

lemma Follows.gotdata {m : NgcsMsg}
    (ok : s.Allows (.gotdata m)) :
    ∃ c', ClientStep.apply fuel c (.gotdata m) = some c' ∧
      Follows mem (s.apply mem (.gotdata m)) c' := by
  have hs := f.consistent.apply mem (.gotdata m)
  by_cases hcl : s.closed = true
  · exact ⟨c, by simp [ClientStep.apply, f.chan0, hcl], by simpa [Session.apply, hcl] using f⟩
  have hchan : c.chan0 = true := by simp [f.chan0, hcl]
  have hans : s.answers = [] := by simpa [Session.Allows, hcl] using ok
  obtain ⟨delivered, resp, links⟩ := f.delivers.waiting_of_nil hans
  cases hn : s.requests.length with
  | zero =>
    rw [hn] at links
    refine ⟨c, ?_, by simpa [Session.apply, hn] using f⟩
    simp [ClientStep.apply, hchan, chan0Gotdata, initngListIsempty, links.next_pending, queued]
  | succ n =>
    rw [hn] at links
    obtain ⟨l', a, eq⟩ := links.gotdata m
    have happly : s.apply mem (.gotdata m) =
        { s with answers := [m.answer (c.resp (.req 0)).bits] } := by
      simp [Session.apply, hcl, hans, resp, hn]
    rw [happly] at hs ⊢
    refine ⟨_, (if_pos hchan).trans eq,
      f.extend hs rfl (prefix_refl _) (hans ▸ nil_prefix) f.reqs f.chan0 rfl
        (.answered _ rfl delivered (fun h => ?_) ?_ (hn ▸ a))⟩
    · simp [show s.requests = [] from h] at hn
    · simp

lemma Follows.close (ok : s.Allows .close) :
    ∃ c', ClientStep.apply (fuel + 2) c .close = some c' ∧ Follows mem (s.apply mem .close) c' := by
  have hs := f.consistent.apply mem .close
  by_cases hcl : s.closed = true
  · exact ⟨c, by simp [ClientStep.apply, f.chan0, hcl], by simpa [Session.apply, hcl] using f⟩
  have hchan : c.chan0 = true := by simp [f.chan0, hcl]
  obtain ⟨hans, hone⟩ : s.answers = [] ∧ s.requests.length ≤ 1 := by
    simpa [Session.Allows, hcl] using ok
  obtain ⟨delivered, resp, links⟩ := f.delivers.waiting_of_nil hans
  have happly : s.apply mem .close = { s with
      answers := replicate s.requests.length noResp
      closed := true } := by
    simp [Session.apply, hcl, hans]
  rw [happly] at hs ⊢
  have hprefix : s.answers <+: replicate s.requests.length noResp := hans ▸ nil_prefix
  rcases Nat.le_one_iff_eq_zero_or_eq_one.mp hone with hn | hn
  · rw [hn] at links
    refine ⟨_, (if_pos hchan).trans (links.close_none _),
      f.extend hs rfl (prefix_refl _) hprefix f.reqs rfl rfl
        (.waiting ?_ delivered (fun _ => length_eq_zero_iff.mp hn) resp (hn ▸ links))⟩
    simp [hn]
  · rw [hn] at links
    obtain ⟨l', a, eq⟩ := links.close_one fuel
    refine ⟨_, (if_pos hchan).trans eq,
      f.extend hs rfl (prefix_refl _) hprefix f.reqs rfl rfl
        (.answered noResp ?_ delivered (fun h => ?_) ?_ (hn ▸ a))⟩
    · simp [hn]
    · simp [show s.requests = [] from h] at hn
    · simp

lemma Follows.dispatch (ok : s.Allows .dispatch) :
    ∃ c', ClientStep.apply (fuel + 2) c .dispatch = some c' ∧
      Follows mem (s.apply mem .dispatch) c' := by
  have hs := f.consistent.apply mem .dispatch
  cases f.delivers with
  | waiting answers delivered closed resp links =>
    refine ⟨c, initngListForeachSafe_empty _ links.next_resps _,
      f.extend hs ?_ (prefix_refl _) (prefix_refl _) f.reqs f.chan0 rfl
        (.waiting answers ?_ closed resp links)⟩
    · simp [Session.apply, answers, delivered]
    · simp [Session.apply, answers]
  | dispatched w answers delivered links =>
    exact absurd (delivered.symm.trans ok) Nat.one_ne_zero
  | answered w answers delivered some_request resp links =>
    obtain ⟨⟨handler, cookie⟩, hreq⟩ : ∃ r, s.requests[0]? = some r :=
      ⟨_, getElem?_eq_getElem (length_pos_iff.mpr some_request)⟩
    obtain ⟨l', room, eq⟩ := links.dispatch (f.reqs ▸ hreq) fuel
    refine ⟨_, eq, hs, (callHandler_reqs ..).trans f.reqs, (callHandler_chan0 ..).trans f.chan0,
      ?_, .dispatched w answers ?_ room⟩
    · cases handler <;> simp [NgcsCliConn.callHandler, f.calls, resp, Session.calls, Session.apply,
        Session.call, answers, hreq, delivered]
    · simp [Session.apply, answers]

lemma Follows.apply {a : ClientStep H C} (ok : s.Allows a) :
    ∃ c', ClientStep.apply (fuel + 2) c a = some c' ∧ Follows mem (s.apply mem a) c' := by
  cases a with
  | cmdAsync sent handler cookie => exact f.cmdAsync (fuel + 2) ok
  | gotdata m => exact f.gotdata (fuel + 2) ok
  | close => exact f.close fuel ok
  | dispatch => exact f.dispatch fuel ok

end

lemma follows_connect : Follows mem Session.new (ngcsClientConnect (H := H) (C := C) mem) where
  consistent := Session.consistent_new
  reqs := rfl
  chan0 := rfl
  calls := rfl
  delivers := .waiting rfl rfl nofun rfl ⟨rfl, rfl, rfl, rfl, nofun, nofun⟩

instance (s : Session H C) : DecidablePred s.Allows
  | .cmdAsync .. => inferInstanceAs (Decidable (_ ∨ _ ∨ _ ∨ _))
  | .gotdata _ => inferInstanceAs (Decidable (_ ∨ _))
  | .close => inferInstanceAs (Decidable (_ ∨ _ ∧ _))
  | .dispatch => inferInstanceAs (Decidable (_ = _))

def Session.AllowsAll (mem : ReqAddr → NgcsData) : Session H C → List (ClientStep H C) → Prop
  | _, [] => True
  | s, a :: steps => s.Allows a ∧ (s.apply mem a).AllowsAll mem steps

instance decidableAllowsAll (mem : ReqAddr → NgcsData) :
    ∀ (s : Session H C) (steps : List (ClientStep H C)), Decidable (s.AllowsAll mem steps)
  | _, [] => inferInstanceAs (Decidable True)
  | s, a :: steps =>
    have := decidableAllowsAll mem (s.apply mem a) steps
    inferInstanceAs (Decidable (_ ∧ _))

lemma Follows.run (f : Follows mem s c) (fuel : ℕ) {steps : List (ClientStep H C)}
    (ok : s.AllowsAll mem steps) :
    ∃ c', c.run (fuel + 2) steps = some c' ∧ Follows mem (s.run mem steps) c' := by
  induction steps generalizing s c with
  | nil => exact ⟨c, rfl, f⟩
  | cons a steps ih =>
    obtain ⟨c₁, eq₁, f₁⟩ := f.apply fuel ok.1
    obtain ⟨c', eq', f'⟩ := ih f₁ ok.2
    refine ⟨c', ?_, f'⟩
    rw [NgcsCliConn.run, foldlM_cons, eq₁]
    exact eq'

/-- A run in which every step is allowed does not fail, and its calls match the session. -/
theorem ngcsClient_matched (fuel : ℕ) (mem : ReqAddr → NgcsData)
    (steps : List (ClientStep H C)) (ok : Session.new.AllowsAll mem steps) :
    ∃ c, (ngcsClientConnect mem).run (fuel + 2) steps = some c ∧
      (Session.new.run mem steps).Matches c.calls := by
  obtain ⟨c, eq, f⟩ := follows_connect.run fuel ok
  exact ⟨c, eq, f.calls ▸ f.consistent.matches⟩

end

def intReply (n : Byte) : NgcsMsg := ⟨ngcsTypeInt, [n, 0, 0, 0], by simp⟩

def oneReply : List (ClientStep ℕ ℕ) :=
  [.cmdAsync true (some 1) 10, .cmdAsync true (some 2) 20, .gotdata (intReply 1), .dispatch,
    .cmdAsync true (some 3) 30]

theorem ngcsClient_matched_oneReply :
    Session.new.AllowsAll (fun _ => noResp) oneReply ∧
    ∃ c, (ngcsClientConnect fun _ => noResp).run 2 oneReply = some c ∧
      (Session.new.run (fun _ => noResp) oneReply).Matches c.calls :=
  ⟨by decide, ngcsClient_matched 0 _ _ (by decide)⟩

def twoReplies : List (ClientStep ℕ ℕ) :=
  [.cmdAsync true (some 1) 10, .cmdAsync true (some 2) 20, .gotdata (intReply 1),
    .gotdata (intReply 2), .dispatch]

/-- The first handler gets the second reply, and the second handler is not called. -/
theorem ngcsClient_mismatched :
    ((ngcsClientConnect fun _ => noResp).run 4 twoReplies).map NgcsCliConn.calls =
        some [⟨0, 1, 10, ⟨ngcsTypeInt, 4, 2, []⟩⟩] ∧
      (Session.new.run (fun _ => noResp) twoReplies).answers =
        [⟨ngcsTypeInt, 4, 1, []⟩, ⟨ngcsTypeInt, 4, 2, []⟩] ∧
      ¬ (Session.new.run (fun _ => noResp) twoReplies).Matches
        [⟨0, 1, 10, ⟨ngcsTypeInt, 4, 2, []⟩⟩] := by
  refine ⟨by decide +kernel, by decide +kernel, fun h => ?_⟩
  have hret := (h.answered _ (mem_singleton_self _)).2
  exact absurd hret (by decide +kernel)

-- a second dispatch follows `resps` into the request that the first one has freed
example : (ngcsClientConnect fun _ => noResp).run 9
    [.cmdAsync true (some 1) 10, .gotdata (intReply 1), .dispatch, .dispatch] = none := by
  decide +kernel

-- of two cancelled requests, taking out the second writes to the first, freed one
example : (ngcsClientConnect fun _ => noResp).run 9
    [.cmdAsync true (some 1) 10, .cmdAsync true (some 2) 20, .close, .dispatch] = none := by
  decide +kernel

end Initng
