import Initng.ListHead
import Initng.NgcsRoundTrip

/-! `modules/ngcs/ngcs_client.c`. -/

namespace Initng

open LinkRing LittleEndian List Option Function

/-- Addresses of `ngcs_cli_req`: the two list heads, which are part of the connection, and
the requests in the order of their allocation. -/
inductive ReqAddr
  | pendingReqs
  | resps
  | req (k : ℕ)
  deriving DecidableEq

structure NgcsMsg where
  type : CInt
  data : List Byte
  small : data.length < 2 ^ 31
  deriving DecidableEq

def NgcsMsg.len (m : NgcsMsg) : CInt := BitVec.ofNat 32 m.data.length

structure HandlerCall (H C : Type) where
  req : ℕ
  handler : H
  cookie : C
  ret : NgcsData
  deriving DecidableEq

/-- `ngcs_cli_conn`, with the calls it has made.  Handlers are values of `H`, cookies values
of `C`. -/
structure NgcsCliConn (H C : Type) where
  /-- The `list` of every allocated request. -/
  links : Links ReqAddr
  /-- `handler`, which may be NULL, and `cookie` of every request. -/
  reqs : List (Option H × C)
  resp : ReqAddr → NgcsData
  /-- `chan0` is not NULL. -/
  chan0 : Bool
  calls : List (HandlerCall H C)

section
variable {H C : Type}

def NgcsCliConn.relink (c : NgcsCliConn H C) (f : Links ReqAddr → Option (Links ReqAddr)) :
    Option (NgcsCliConn H C) :=
  (f c.links).map fun l => { c with links := l }

def ngcsClientConnect (mem : ReqAddr → NgcsData) : NgcsCliConn H C where
  links
    | .pendingReqs => some ⟨some .pendingReqs, some .pendingReqs⟩
    | .resps => some ⟨some .resps, some .resps⟩
    | .req _ => none
  reqs := []
  resp := mem
  chan0 := true
  calls := []

/-- `ngcs_cmd_async`; `sent` says whether the command was packed and sent.  The result is
true for the return value 0. -/
def ngcsCmdAsync (sent : Bool) (handler : Option H) (cookie : C) (c : NgcsCliConn H C) :
    Option (Bool × NgcsCliConn H C) :=
  if c.chan0 ∧ sent then do
    let req := ReqAddr.req c.reqs.length
    let c := { c with
      reqs := c.reqs ++ [(handler, cookie)]
      links := update c.links req (some ⟨none, none⟩) }
    return (true, ← c.relink (initngListAddTail req .pendingReqs))
  else some (false, c)

def ngcsTypeNull : CInt := 0

def noResp : NgcsData := ⟨ngcsTypeNull, -1, 0, []⟩

def chan0Gotdata (m : NgcsMsg) (c : NgcsCliConn H C) : Option (NgcsCliConn H C) := do
  if ← initngListIsempty .pendingReqs c.links then
    -- `ngcs_chan_close` only sends a message
    return c
  let req ← (← c.links.next ReqAddr.pendingReqs)
  let resp ← ngcsUnpackOne m.type m.len m.data (c.resp req).bits
  let c := { c with resp := update c.resp req (resp.getD noResp) }
  c.relink (listMoveTail req .resps)

def cancelOne (req : ReqAddr) (c : NgcsCliConn H C) : Option (NgcsCliConn H C) :=
  { c with resp := update c.resp req noResp }.relink (listMoveTail req .resps)

def chan0Close (fuel : ℕ) (c : NgcsCliConn H C) : Option (NgcsCliConn H C) := do
  let c ← initngListForeachSafe NgcsCliConn.links cancelOne fuel .pendingReqs c
  return { c with chan0 := false }

def NgcsCliConn.callHandler (c : NgcsCliConn H C) (k : ℕ) (handler : Option H) (cookie : C) :
    NgcsCliConn H C :=
  match handler with
  | none => c
  | some h => { c with calls := c.calls ++ [⟨k, h, cookie, c.resp (.req k)⟩] }

section
variable (c : NgcsCliConn H C) (k : ℕ) (handler : Option H) (cookie : C)

@[simp] lemma callHandler_links : (c.callHandler k handler cookie).links = c.links := by
  cases handler <;> rfl

@[simp] lemma callHandler_reqs : (c.callHandler k handler cookie).reqs = c.reqs := by
  cases handler <;> rfl

@[simp] lemma callHandler_chan0 : (c.callHandler k handler cookie).chan0 = c.chan0 := by
  cases handler <;> rfl

end

/-- The body of the loop of `ngcs_client_dispatch`.  The list heads have no handler. -/
def dispatchOne (req : ReqAddr) (c : NgcsCliConn H C) : Option (NgcsCliConn H C) :=
  match req with
  | .pendingReqs | .resps => none
  | .req k => do
    let (handler, cookie) ← c.reqs[k]?
    let c ← (c.callHandler k handler cookie).relink (initngListDel (.req k))
    -- `free(req)`
    return { c with links := update c.links (.req k) none }

def ngcsClientDispatch (fuel : ℕ) (c : NgcsCliConn H C) : Option (NgcsCliConn H C) :=
  initngListForeachSafe NgcsCliConn.links dispatchOne fuel .resps c

inductive ClientStep (H C : Type)
  | cmdAsync (sent : Bool) (handler : Option H) (cookie : C)
  | gotdata (m : NgcsMsg)
  | close
  | dispatch
  deriving DecidableEq

def ClientStep.apply (fuel : ℕ) (c : NgcsCliConn H C) : ClientStep H C → Option (NgcsCliConn H C)
  | .cmdAsync sent handler cookie => (ngcsCmdAsync sent handler cookie c).map Prod.snd
  | .gotdata m => if c.chan0 then chan0Gotdata m c else some c
  | .close => if c.chan0 then chan0Close fuel c else some c
  | .dispatch => ngcsClientDispatch fuel c

def NgcsCliConn.run (fuel : ℕ) (c : NgcsCliConn H C) (steps : List (ClientStep H C)) :
    Option (NgcsCliConn H C) :=
  steps.foldlM (ClientStep.apply fuel) c

def NgcsMsg.answer (m : NgcsMsg) (old : BitVec 64) : NgcsData :=
  ((ngcsUnpackOne m.type m.len m.data old).getD none).getD noResp

/-- What is true of a session.  The `k`-th answer belongs to the `k`-th request. -/
structure Session (H C : Type) where
  requests : List (Option H × C)
  answers : List NgcsData
  delivered : ℕ
  closed : Bool
  flushed : Bool
  deriving DecidableEq

def Session.new : Session H C := ⟨[], [], 0, false, false⟩

def Session.apply (mem : ReqAddr → NgcsData) (s : Session H C) : ClientStep H C → Session H C
  | .cmdAsync sent handler cookie =>
    if s.closed ∨ sent = false then s
    else { s with requests := s.requests ++ [(handler, cookie)] }
  | .gotdata m =>
    if s.closed ∨ s.requests.length ≤ s.answers.length then s
    else { s with answers := s.answers ++ [m.answer (mem (.req s.answers.length)).bits] }
  | .close =>
    if s.closed then s
    else { s with
      answers := s.answers ++ replicate (s.requests.length - s.answers.length) noResp
      closed := true }
  | .dispatch => { s with delivered := s.answers.length, flushed := s.closed }

def Session.run (mem : ReqAddr → NgcsData) (s : Session H C) (steps : List (ClientStep H C)) :
    Session H C :=
  steps.foldl (Session.apply mem) s

def Session.call (s : Session H C) (k : ℕ) : Option (HandlerCall H C) := do
  let (handler, cookie) ← s.requests[k]?
  return ⟨k, ← handler, cookie, ← s.answers[k]?⟩

def Session.calls (s : Session H C) : List (HandlerCall H C) := (range s.delivered).filterMap s.call

/-- Every call hands the answer to a request to its handler and cookie, no request's handler
is called twice, and once a closure is dispatched all handlers were called. -/
structure Session.Matches (s : Session H C) (calls : List (HandlerCall H C)) : Prop where
  answered : ∀ call ∈ calls, s.requests[call.req]? = some (some call.handler, call.cookie) ∧
    s.answers[call.req]? = some call.ret
  once : (calls.map HandlerCall.req).Nodup
  all : s.flushed → ∀ k handler cookie, s.requests[k]? = some (some handler, cookie) →
    k ∈ calls.map HandlerCall.req

structure Session.Consistent (s : Session H C) : Prop where
  delivered_le : s.delivered ≤ s.answers.length
  answers_le : s.answers.length ≤ s.requests.length
  answers_eq : s.closed → s.answers.length = s.requests.length
  delivered_eq : s.flushed → s.closed ∧ s.delivered = s.requests.length

lemma Session.consistent_new : (Session.new : Session H C).Consistent :=
  ⟨le_rfl, le_rfl, nofun, nofun⟩

variable {s : Session H C}

lemma Session.Consistent.apply (hs : s.Consistent)
    (mem : ReqAddr → NgcsData) (a : ClientStep H C) : (s.apply mem a).Consistent := by
  obtain ⟨hd, ha, hc, hf⟩ := hs
  cases a with
  | cmdAsync sent handler cookie =>
    simp only [Session.apply]
    split_ifs with h
    · exact ⟨hd, ha, hc, hf⟩
    · rw [not_or] at h
      refine ⟨hd, ?_, fun hcl => absurd hcl h.1, fun hfl => absurd (hf hfl).1 h.1⟩
      simp only [length_append]
      omega
  | gotdata m =>
    simp only [Session.apply]
    split_ifs with h
    · exact ⟨hd, ha, hc, hf⟩
    · rw [not_or, not_le] at h
      refine ⟨?_, ?_, fun hcl => absurd hcl h.1, fun hfl => absurd (hf hfl).1 h.1⟩
      · simp only [length_append]
        omega
      · simp only [length_append, length_singleton]
        omega
  | close =>
    simp only [Session.apply]
    split_ifs with h
    · exact ⟨hd, ha, hc, hf⟩
    · have hlen : (s.answers ++ replicate (s.requests.length - s.answers.length)
          noResp).length = s.requests.length := by
        rw [length_append, length_replicate]
        omega
      exact ⟨hd.trans (ha.trans hlen.ge), hlen.le, fun _ => hlen, fun hfl => absurd (hf hfl).1 h⟩
  | dispatch => exact ⟨le_rfl, ha, hc, fun hcl => ⟨hcl, hc hcl⟩⟩

variable {call : HandlerCall H C}

lemma Session.call_eq_some {k : ℕ} :
    s.call k = some call ↔ call.req = k ∧
      s.requests[k]? = some (some call.handler, call.cookie) ∧ s.answers[k]? = some call.ret := by
  obtain ⟨req, handler, cookie, ret⟩ := call
  simp only [Session.call, Option.bind_eq_bind, Option.bind_eq_some_iff, Option.pure_def,
    some.injEq, HandlerCall.mk.injEq]
  constructor
  · rintro ⟨⟨h, ck⟩, hr, h', rfl, w, hw, rfl, rfl, rfl, rfl⟩
    exact ⟨rfl, hr, hw⟩
  · rintro ⟨rfl, hr, hw⟩
    exact ⟨_, hr, _, rfl, _, hw, rfl, rfl, rfl, rfl⟩

lemma Session.mem_calls :
    call ∈ s.calls ↔ call.req < s.delivered ∧ s.call call.req = some call := by
  rw [Session.calls, mem_filterMap]
  constructor
  · rintro ⟨k, hk, h⟩
    obtain rfl := (Session.call_eq_some.mp h).1
    exact ⟨mem_range.mp hk, h⟩
  · rintro ⟨hk, h⟩
    exact ⟨call.req, mem_range.mpr hk, h⟩

lemma Session.Consistent.calls_eq {s t : Session H C} (hs : s.Consistent)
    (hd : t.delivered = s.delivered) (hr : s.requests <+: t.requests)
    (ha : s.answers <+: t.answers) : s.calls = t.calls := by
  rw [Session.calls, Session.calls, hd]
  apply filterMap_congr
  intro k hk
  have hka : k < s.answers.length := (mem_range.mp hk).trans_le hs.delivered_le
  have hkr : k < s.requests.length := hka.trans_le hs.answers_le
  obtain ⟨rs, hrs⟩ := hr
  obtain ⟨ws, hws⟩ := ha
  rw [Session.call, Session.call, ← hrs, ← hws, getElem?_append_left hka, getElem?_append_left hkr]

lemma Session.Consistent.matches (hs : s.Consistent) : s.Matches s.calls where
  answered call hc := (Session.call_eq_some.mp (Session.mem_calls.mp hc).2).2
  once := by
    rw [Session.calls, map_filterMap]
    have hreq (k r : ℕ) (h : r ∈ (s.call k).map HandlerCall.req) : k = r := by
      obtain ⟨call, hc, rfl⟩ := map_eq_some_iff.mp h
      exact (Session.call_eq_some.mp hc).1.symm
    exact nodup_range.filterMap fun k k' r h h' => (hreq k r h).trans (hreq k' r h').symm
  all hf k handler cookie hk := by
    have hlt : k < s.requests.length := (List.getElem?_eq_some_iff.mp hk).1
    obtain ⟨hcl, hd⟩ := hs.delivered_eq hf
    obtain ⟨w, hw⟩ : ∃ w, s.answers[k]? = some w :=
      ⟨_, getElem?_eq_getElem ((hs.answers_eq hcl).symm ▸ hlt)⟩
    have hcall : (⟨k, handler, cookie, w⟩ : HandlerCall H C) ∈ s.calls :=
      Session.mem_calls.mpr ⟨hd.symm ▸ hlt, Session.call_eq_some.mpr ⟨rfl, hk, hw⟩⟩
    exact mem_map_of_mem (f := HandlerCall.req) hcall

end

end Initng
