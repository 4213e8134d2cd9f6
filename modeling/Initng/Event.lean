import Initng.State

/-! `event/send.c`. -/

namespace Initng

inductive EventStatus
  | failed | unknown | handled | waiting
  deriving DecidableEq

/-- `initng_event_send`: the hooks run in turn until one handles or fails the event.  A
hook returns the status it leaves and what it did to the state. -/
def eventSend {σ : Type*} : List (σ → EventStatus × σ) → σ → EventStatus × σ
  | [], st => (.unknown, st)
  | hook :: hooks, st =>
    match hook st with
    | (.handled, st) => (.handled, st)
    | (.failed, st) => (.failed, st)
    | (_, st) => eventSend hooks st

lemma eventSend_rel {σ : Type*} {R : σ → σ → Prop} (hrefl : ∀ st, R st st)
    (htrans : ∀ st st' st'', R st st' → R st' st'' → R st st'')
    {hooks : List (σ → EventStatus × σ)} (h : ∀ hook ∈ hooks, ∀ st, R st (hook st).2) (st : σ) :
    R st (eventSend hooks st).2 := by
  induction hooks generalizing st with
  | nil => exact hrefl st
  | cons hook hooks ih =>
    have hhook := h hook (.head _) st
    have hrest := ih (fun hook' hmem => h hook' (List.mem_cons_of_mem _ hmem)) (hook st).2
    rw [eventSend]
    split
    next st' heq => simpa [heq] using hhook
    next st' heq => simpa [heq] using hhook
    next status st' _ _ heq =>
      rw [heq] at hhook hrest
      exact htrans _ _ _ hhook hrest

/-- A hook of `EVENT_START_DEP_MET` or `EVENT_STOP_DEP_MET`.  A module may mark the service
when it refuses; otherwise it changes nothing. -/
structure DepMetHook where
  run : Sid → G → EventStatus × G
  quiet : ∀ s g, (run s g).1 ≠ .failed → (run s g).2 = g

/-- What the loaded modules supply.  A hook of `EVENT_DEP_ON` answers for a pair of services; one of
`EVENT_NEW_ACTIVE` fills `event.ret`. -/
structure Modules where
  start : Stype → Option (Sid → G → Bool × G) := fun _ => none
  stop : Stype → Option (Sid → G → Bool × G) := fun _ => none
  restart : Stype → Option (Sid → G → Bool × G) := fun _ => none
  depOn : List (Sid → Sid → EventStatus) := []
  newActive : List (String → G × Option Sid → EventStatus × (G × Option Sid)) := []
  startDepMet : List DepMetHook := []
  stopDepMet : List DepMetHook := []

def askDepMet (hooks : List DepMetHook) (s : Sid) (g : G) : EventStatus × G :=
  eventSend (hooks.map fun hook => hook.run s) g

lemma askDepMet_quiet (hooks : List DepMetHook) (s : Sid) (g : G)
    (h : (askDepMet hooks s g).1 ≠ .failed) : (askDepMet hooks s g).2 = g := by
  induction hooks with
  | nil => rfl
  | cons hook hooks ih =>
    have hquiet := hook.quiet s g
    simp only [askDepMet, List.map_cons, eventSend] at h ih ⊢
    rcases hr : hook.run s g with ⟨status, g'⟩
    rw [hr] at hquiet
    cases status with
    | failed => simp [hr] at h
    | handled => simpa [hr] using hquiet
    | unknown | waiting =>
      obtain rfl : g' = g := by simpa using hquiet
      simpa [hr] using ih (by simpa [hr] using h)

def moduleActiveNew (m : Modules) (name : String) (g : G) : Option Sid × G :=
  match eventSend (m.newActive.map fun hook => hook name) (g, none) with
  | (.handled, (g, ret)) => (ret, g)
  | (_, (g, _)) => (none, g)

end Initng
