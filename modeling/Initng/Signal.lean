import Initng.StepRun
import Mathlib.Data.Fintype.Basic
import Mathlib.Data.List.Sort

/-! `signal/set.c` and `signal/dispatch.c`. -/

namespace Initng

open List Function

inductive Signal
  | sigchld | sigint | sigwinch | sigalrm | sighup | sigpipe
  deriving DecidableEq

instance : Fintype Signal where
  elems := {.sigchld, .sigint, .sigwinch, .sigalrm, .sighup, .sigpipe}
  complete sig := by cases sig <;> decide

abbrev signalStack : ℕ := 10

abbrev SignalsGot := Fin signalStack → Option Signal

/-- The loop of `set_signal`, over the slots that are left; `none` if they are all taken. -/
def setSignalLoop (sig : Signal) (got : SignalsGot) : List (Fin signalStack) → Option SignalsGot
  | [] => none
  | i :: rest =>
    if got i = some sig then some got
    else if got i = none then some (update got i (some sig))
    else setSignalLoop sig got rest

def setSignal (sig : Signal) (got : SignalsGot) : Option SignalsGot :=
  setSignalLoop sig got (finRange signalStack)

/-- Where a handler stands at a slot: comparing it with the signal, comparing it with -1, or
storing the signal. -/
inductive HandlerPc
  | isSig | isFree | store
  deriving DecidableEq

structure Frame where
  sig : Signal
  i : ℕ
  pc : HandlerPc
  deriving DecidableEq

inductive Pass
  | outside
  | test (i : ℕ)
  | read (i : Fin signalStack)
  | reset (i : Fin signalStack) (sig : Option Signal)
  | callers (i : Fin signalStack) (sig : Option Signal)
  | handling (i : Fin signalStack)
  deriving DecidableEq

inductive SigEvent
  | delivered (sig : Signal)
  | stackFull (sig : Signal)
  | passBegin
  | passEnd
  | dispatched (sig : Signal)
  deriving DecidableEq

/-- The slots, the running handlers, the innermost first, the dispatch they interrupt, and
what was observed, latest first. -/
structure Signals where
  got : SignalsGot
  frames : List Frame
  pass : Pass
  log : List SigEvent

def signalEnable : Signals := ⟨fun _ => none, [], .outside, []⟩

def Signals.deliver (sig : Signal) (c : Signals) : Signals :=
  if c.frames.any fun f => f.sig = sig then c
  else { c with frames := ⟨sig, 0, .isSig⟩ :: c.frames, log := .delivered sig :: c.log }

def Signals.handler (c : Signals) : Signals :=
  match c.frames with
  | [] => c
  | f :: rest =>
    if h : f.i < signalStack then
      match f.pc with
      | .isSig =>
        if c.got ⟨f.i, h⟩ = some f.sig then { c with frames := rest }
        else { c with frames := { f with pc := .isFree } :: rest }
      | .isFree =>
        if c.got ⟨f.i, h⟩ = none then { c with frames := { f with pc := .store } :: rest }
        else { c with frames := { f with i := f.i + 1, pc := .isSig } :: rest }
      | .store => { c with
          got := update c.got ⟨f.i, h⟩ (some f.sig)
          frames := rest }
    else { c with frames := rest, log := .stackFull f.sig :: c.log }

def Signals.dispatch (c : Signals) : Signals :=
  match c.pass with
  | .outside => { c with pass := .test 0, log := .passBegin :: c.log }
  | .test i =>
    if h : i < signalStack then
      if c.got ⟨i, h⟩ = none then { c with pass := .test (i + 1) }
      else { c with pass := .read ⟨i, h⟩ }
    else { c with pass := .outside, log := .passEnd :: c.log }
  | .read i => { c with pass := .reset i (c.got i) }
  | .reset i sig => { c with
      got := update c.got i none
      pass := .callers i sig }
  | .callers i sig => { c with
      pass := .handling i
      log := (sig.map SigEvent.dispatched).toList ++ c.log }
  | .handling i => { c with pass := .test (i + 1) }

def Pass.emptied : Pass → ℕ
  | outside => 0
  | test i => i
  | read i => i
  | reset i _ => i
  | callers i _ => i + 1
  | handling i => i + 1

def Holding (sig : Signal) (got : SignalsGot) : Prop := ∃ i, got i = some sig

instance (sig : Signal) (got : SignalsGot) : Decidable (Holding sig got) :=
  inferInstanceAs (Decidable (∃ i, got i = some sig))

section
variable {sig : Signal} {got got' : SignalsGot} {slots : List (Fin signalStack)}

lemma setSignalLoop_eq_none :
    setSignalLoop sig got slots = none ↔ ∀ i ∈ slots, got i ≠ none ∧ got i ≠ some sig := by
  induction slots with
  | nil => simp [setSignalLoop]
  | cons i slots ih =>
    rw [setSignalLoop, forall_mem_cons]
    by_cases hsig : got i = some sig
    · simp [hsig]
    · by_cases hfree : got i = none
      · simp [hfree]
      · rw [if_neg hsig, if_neg hfree, ih]
        simp [hsig, hfree]

lemma setSignal_eq_some (h : setSignal sig got = some got') :
    (got' = got ∧ Holding sig got) ∨
      ∃ i, got i = none ∧ (∀ j < i, got j ≠ none ∧ got j ≠ some sig) ∧
        got' = update got i (some sig) := by
  -- the slots split into those passed by and those still to come
  have main : ∀ a b, a ++ b = finRange signalStack →
      (∀ i ∈ a, got i ≠ none ∧ got i ≠ some sig) → setSignalLoop sig got b = some got' →
      (got' = got ∧ Holding sig got) ∨
        ∃ i, got i = none ∧ (∀ j < i, got j ≠ none ∧ got j ≠ some sig) ∧
          got' = update got i (some sig) := by
    intro a b hab ha hb
    induction b generalizing a with
    | nil => cases hb
    | cons i b ih =>
      rw [setSignalLoop] at hb
      split at hb
      next hsig =>
        left
        exact ⟨(Option.some.inj hb).symm, i, hsig⟩
      next hsig =>
        split at hb
        next hfree =>
          right
          refine ⟨i, hfree, fun j hj => ha j ?_, (Option.some.inj hb).symm⟩
          have hsorted := sortedLT_finRange signalStack
          rw [← hab] at hsorted
          have hmem : j ∈ a ++ i :: b := hab ▸ mem_finRange j
          rcases mem_append.mp hmem with hja | hjb
          · exact hja
          · have hle : i ≤ j := by
              rcases mem_cons.mp hjb with rfl | hjb
              · exact le_refl _
              · have hib := (pairwise_append.mp hsorted.pairwise).2.1
                exact le_of_lt ((pairwise_cons.mp hib).1 j hjb)
            exact absurd hj (not_lt.mpr hle)
        next hfree =>
          refine ih (a ++ [i]) (by simpa using hab) (fun j hj => ?_) hb
          rcases mem_append.mp hj with hj | hj
          · exact ha j hj
          · rw [mem_singleton.mp hj]
            exact ⟨hfree, hsig⟩
  exact main [] _ rfl (fun _ hi => absurd hi not_mem_nil) h

end

def Signals.handlerSteps (n : ℕ) (c : Signals) : Signals := Signals.handler^[n] c

lemma Signals.handlerSteps_eq {c : Signals} {sig : Signal} {rest : List Frame} (i : ℕ)
    (hi : i ≤ signalStack) (hf : c.frames = ⟨sig, i, .isSig⟩ :: rest) :
    ∃ n, c.handlerSteps n =
      match setSignalLoop sig c.got ((finRange signalStack).drop i) with
      | some got => { c with got := got, frames := rest }
      | none => { c with frames := rest, log := .stackFull sig :: c.log } := by
  induction hk : signalStack - i generalizing i c with
  | zero =>
    have hi' : ¬ i < signalStack := by omega
    refine ⟨1, ?_⟩
    rw [drop_eq_nil_of_le (by rw [length_finRange]; omega)]
    simp [handlerSteps, handler, hf, setSignalLoop, hi']
  | succ k ih =>
    have hi' : i < signalStack := by omega
    have hdrop : (finRange signalStack).drop i =
        ⟨i, hi'⟩ :: (finRange signalStack).drop (i + 1) := by
      rw [drop_eq_getElem_cons (by rwa [length_finRange])]
      simp
    rw [hdrop, setSignalLoop]
    by_cases hsig : c.got ⟨i, hi'⟩ = some sig
    · refine ⟨1, ?_⟩
      simp [handlerSteps, handler, hf, hi', hsig]
    · by_cases hfree : c.got ⟨i, hi'⟩ = none
      · refine ⟨3, ?_⟩
        simp [handlerSteps, handler, hf, hi', hfree]
      · rw [if_neg hsig, if_neg hfree]
        obtain ⟨n, hn⟩ := ih (c := { c with frames := ⟨sig, i + 1, .isSig⟩ :: rest }) (i + 1)
          hi' rfl (by omega)
        refine ⟨n + 2, ?_⟩
        rw [← hn]
        simp [handlerSteps, handler, hf, hi', hsig, hfree]

end Initng
