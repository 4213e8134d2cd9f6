import Initng.Handler

/-! `depend/start_dep_met.c` and `depend/stop_dep_met.c`. -/

namespace Initng

open List Option

inductive Ret
  | true | false | fail
  deriving DecidableEq

def isDepEntry (d : SData) : Bool :=
  (d.type = .require ∨ d.type = .need ∨ d.type = .use) ∧ d.s.isSome

def setDependCache (s : Sid) (count : ℕ) (g : G) : G :=
  g.modify s fun a => { a with dependCache := count }

def startDepMetLoop (m : Modules) (fuel : ℕ) (s : Sid) :
    List SData → ℕ → G → Option (Option Ret × G)
  | [], _, g => some (none, g)
  | current :: rest, count, g =>
    if isDepEntry current = false then startDepMetLoop m fuel s rest count g
    else if (g.svc s).dependCache ≥ count + 1 then startDepMetLoop m fuel s rest (count + 1) g
    else
      match current.s.bind (activeDbFindByName g) with
      | none =>
        match current.type with
        | .use => startDepMetLoop m fuel s rest (count + 1) g
        | .require => some (some .fail, (commonMarkService s .reqNotFound g).2)
        | _ => some (some .false, g)
      | some dep =>
        match getState g dep with
        | .isStarting => some (some .false, g)
        | .isFailed => some (some .fail, g)
        | .isNew => some (some .false, g)
        | .isDown => (handlerStartService m fuel dep g).map fun r => (some .false, r.2)
        | .isUp => startDepMetLoop m fuel s rest (count + 1) (setDependCache s (count + 1) g)
        | _ => some (some .false, g)

/-- `initng_depend_start_dep_met`; `none` means that a start it triggers has not returned. -/
def dependStartDepMet (m : Modules) (fuel : ℕ) (s : Sid) (g : G) : Option (Ret × G) :=
  (startDepMetLoop m fuel s (g.svc s).data 0 g).map fun r =>
    match r.1 with
    | some ret => (ret, r.2)
    | none =>
      let event := askDepMet m.startDepMet s r.2
      if event.1 = .failed then (.false, event.2) else (.true, setDependCache s 0 event.2)

def strstr (haystack needle : String) : Bool :=
  haystack.toList.tails.any fun tail => needle.toList.isPrefixOf tail

def released (state : AState) : Bool :=
  match state.is with
  | .isDown | .isFailed => true
  | .isStarting => strstr state.name "WAITING_FOR_START_DEP"
  | _ => false

def stopDepMetLoop (m : Modules) (s : Sid) : List Sid → ℕ → G → Bool × G
  | [], _, g => (true, g)
  | currentA :: rest, count, g =>
    if (g.svc s).dependCache ≥ count + 1 then stopDepMetLoop m s rest (count + 1) g
    else
      let g' := setDependCache s ((g.svc s).dependCache + 1) g
      if currentA = s then stopDepMetLoop m s rest (count + 1) g'
      else if depend m g' currentA s = false then stopDepMetLoop m s rest (count + 1) g'
      else if released (g'.svc currentA).currentState then stopDepMetLoop m s rest (count + 1) g'
      else (false, setDependCache s ((g'.svc s).dependCache - 1) g')

def dependStopDepMet (m : Modules) (s : Sid) (g : G) : Ret × G :=
  let r := stopDepMetLoop m s g.activeDb 0 g
  if r.1 = false then (.false, r.2)
  else
    let event := askDepMet m.stopDepMet s r.2
    if event.1 = .failed then (.false, event.2) else (.true, setDependCache s 0 event.2)

section
variable (s t : Sid) (count : ℕ) (g : G)

@[simp] lemma setDependCache_activeDb : (setDependCache s count g).activeDb = g.activeDb := rfl

@[simp] lemma setDependCache_dependCache :
    ((setDependCache s count g).svc s).dependCache = count := by
  simp [setDependCache]

@[simp] lemma setDependCache_twice (count' : ℕ) :
    setDependCache s count' (setDependCache s count g) = setDependCache s count' g := by
  simp [setDependCache, G.modify]

lemma setDependCache_self : setDependCache s (g.svc s).dependCache g = g := by
  simp [setDependCache, G.modify]

lemma setDependCache_svc : ∃ n, (setDependCache s count g).svc t =
    { g.svc t with dependCache := n } := by
  by_cases h : t = s
  · subst h
    exact ⟨count, by simp [setDependCache]⟩
  · exact ⟨(g.svc t).dependCache, by simp [setDependCache, h]⟩

@[simp] lemma setDependCache_currentState :
    ((setDependCache s count g).svc t).currentState = (g.svc t).currentState := by
  obtain ⟨n, h⟩ := setDependCache_svc s t count g
  rw [h]

@[simp] lemma setDependCache_data : ((setDependCache s count g).svc t).data = (g.svc t).data := by
  obtain ⟨n, h⟩ := setDependCache_svc s t count g
  rw [h]

@[simp] lemma setDependCache_name : ((setDependCache s count g).svc t).name = (g.svc t).name := by
  obtain ⟨n, h⟩ := setDependCache_svc s t count g
  rw [h]

@[simp] lemma getState_setDependCache : getState (setDependCache s count g) t = getState g t := by
  simp [getState]

@[simp] lemma find_setDependCache :
    activeDbFindByName (setDependCache s count g) = activeDbFindByName g :=
  activeDbFindByName_congr rfl fun _ => by simp

@[simp] lemma depend_setDependCache (m : Modules) :
    depend m (setDependCache s count g) = depend m g := by
  funext x y
  simp [depend, depOn]

end

def entryMet (g : G) (d : SData) : Bool :=
  match d.s.bind (activeDbFindByName g) with
  | some dep => getState g dep = .isUp
  | none => d.type = .use

def depEntries (data : List SData) : List SData := data.filter isDepEntry

def cacheAfter (g : G) : List SData → ℕ → ℕ → ℕ
  | [], _, cache => cache
  | d :: rest, count, cache =>
    if cache ≥ count + 1 then cacheAfter g rest (count + 1) cache
    else if (d.s.bind (activeDbFindByName g)).isSome then cacheAfter g rest (count + 1) (count + 1)
    else cacheAfter g rest (count + 1) cache

variable {m : Modules} {fuel : ℕ} {g : G} {s : Sid}

lemma startDepMetLoop_through (m : Modules) (fuel : ℕ) (s : Sid) (g g' : G) (data : List SData)
    (count cache : ℕ) :
    startDepMetLoop m fuel s data count (setDependCache s cache g) = some (none, g') ↔
      (∀ d ∈ (depEntries data).drop (cache - count), entryMet g d = true) ∧
        g' = setDependCache s (cacheAfter g (depEntries data) count cache) g := by
  induction data generalizing count cache with
  | nil => simpa [startDepMetLoop, depEntries, cacheAfter] using eq_comm
  | cons d data ih =>
    by_cases hd : isDepEntry d = true
    · have hentries : depEntries (d :: data) = d :: depEntries data := by simp [depEntries, hd]
      rw [hentries]
      by_cases hskip : cache ≥ count + 1
      · have hdrop : cache - count = (cache - (count + 1)) + 1 := by omega
        simp only [startDepMetLoop, hd, setDependCache_dependCache, hskip, if_true, ih, hdrop,
          drop_succ_cons, cacheAfter, reduceCtorEq, if_false]
      · have hdrop : cache - count = 0 := by omega
        have hdrop' : cache - (count + 1) = 0 := by omega
        have hhead : (∀ x ∈ d :: depEntries data, entryMet g x = true) ↔
            entryMet g d = true ∧ ∀ x ∈ depEntries data, entryMet g x = true := by simp
        simp only [startDepMetLoop, hd, setDependCache_dependCache, hskip, if_false, reduceCtorEq,
          find_setDependCache, getState_setDependCache, setDependCache_twice, hdrop,
          drop_zero, hhead, cacheAfter]
        cases hfind : d.s.bind (activeDbFindByName g) with
        | none =>
          cases htype : d.type with
          | use => simp [entryMet, hfind, htype, ih, hdrop']
          | _ => simp [entryMet, hfind, htype]
        | some dep =>
          cases hst : getState g dep with
          | isUp => simp [entryMet, hfind, hst, ih]
          | _ => simp [entryMet, hfind, hst]
    · have hentries : depEntries (d :: data) = depEntries data := by simp [depEntries, hd]
      simpa [hentries, startDepMetLoop, hd] using ih count cache

lemma startDepMetLoop_ne_true (data : List SData) (count : ℕ) (g g' : G) :
    startDepMetLoop m fuel s data count g ≠ some (some .true, g') := by
  induction data generalizing count g with
  | nil => simp [startDepMetLoop]
  | cons d data ih =>
    unfold startDepMetLoop
    split_ifs
    · exact ih _ _
    · exact ih _ _
    split
    · split
      · exact ih _ _
      all_goals simp
    · split
      · simp
      · simp
      · simp
      · simp
      · exact ih _ _
      · simp

def skippedEntries (g : G) (s : Sid) : List SData :=
  (depEntries (g.svc s).data).take (g.svc s).dependCache

def checkedEntries (g : G) (s : Sid) : List SData :=
  (depEntries (g.svc s).data).drop (g.svc s).dependCache

def startRefused (m : Modules) (g : G) (s : Sid) : Bool :=
  (askDepMet m.startDepMet s (setDependCache s
    (cacheAfter g (depEntries (g.svc s).data) 0 (g.svc s).dependCache) g)).1 = .failed

lemma dependStartDepMet_true_iff {g' : G} :
    dependStartDepMet m fuel s g = some (.true, g') ↔
      (∀ d ∈ checkedEntries g s, entryMet g d = true) ∧ startRefused m g s = false ∧
        g' = setDependCache s 0 g := by
  have hloop (g₁ : G) := startDepMetLoop_through m fuel s g g₁ (g.svc s).data 0
    (g.svc s).dependCache
  simp only [setDependCache_self, Nat.sub_zero] at hloop
  unfold dependStartDepMet
  rcases hl : startDepMetLoop m fuel s (g.svc s).data 0 g with _ | ⟨_ | ret, g₁⟩
  · -- a start that does not return
    simp only [map_none, reduceCtorEq, false_iff]
    rintro ⟨hmet, -⟩
    simp [(hloop _).mpr ⟨hmet, rfl⟩] at hl
  · obtain ⟨hmet, rfl⟩ := (hloop g₁).mp hl
    have hquiet := askDepMet_quiet m.startDepMet s (setDependCache s
      (cacheAfter g (depEntries (g.svc s).data) 0 (g.svc s).dependCache) g)
    by_cases hev : startRefused m g s = true
    · have hfailed := of_decide_eq_true hev
      simp [hev, hfailed]
    · have hnot := of_decide_eq_false (Bool.not_eq_true _ ▸ hev)
      simp only [map_some, some.injEq, if_neg hnot, hquiet hnot, Prod.mk.injEq,
        true_and, setDependCache_twice, hev]
      constructor
      · rintro rfl
        exact ⟨hmet, rfl⟩
      · rintro ⟨-, rfl⟩
        rfl
  · simp only [map_some, some.injEq, Prod.mk.injEq]
    constructor
    · rintro ⟨rfl, -⟩
      exact absurd hl (startDepMetLoop_ne_true _ _ _ _)
    · rintro ⟨hmet, -⟩
      simp [(hloop _).mpr ⟨hmet, rfl⟩] at hl

def holdsUp (m : Modules) (g : G) (s c : Sid) : Bool :=
  c ≠ s ∧ depend m g c s = true ∧ released (g.svc c).currentState = false

lemma stopDepMetLoop_through (m : Modules) (s : Sid) (g : G) (l : List Sid)
    (count cache : ℕ) (h : count ≤ cache) :
    ((stopDepMetLoop m s l count (setDependCache s cache g)).1 = true ↔
      ∀ c ∈ l.drop (cache - count), holdsUp m g s c = false) ∧
    ((stopDepMetLoop m s l count (setDependCache s cache g)).1 = true →
      (stopDepMetLoop m s l count (setDependCache s cache g)).2 =
        setDependCache s (max cache (count + l.length)) g) := by
  induction l generalizing count cache with
  | nil => simp [stopDepMetLoop, h]
  | cons c l ih =>
    by_cases hskip : cache ≥ count + 1
    · have hdrop : cache - count = (cache - (count + 1)) + 1 := by omega
      have hlen : count + (c :: l).length = count + 1 + l.length := by simp; omega
      simp only [stopDepMetLoop, setDependCache_dependCache, hskip, if_true, hdrop,
        drop_succ_cons, hlen]
      exact ih (count + 1) cache hskip
    · obtain rfl : cache = count := by omega
      have hlen : max cache (cache + (c :: l).length) = max (cache + 1) (cache + 1 + l.length) := by
        simp
        omega
      have hrest := ih (cache + 1) (cache + 1) (Nat.le_refl _)
      simp only [Nat.sub_self, drop_zero, forall_mem_cons, hlen] at hrest ⊢
      by_cases hup : holdsUp m g s c = true
      · have hc : c ≠ s ∧ depend m g c s = true ∧ released (g.svc c).currentState = false := by
          simpa [holdsUp] using hup
        simp [stopDepMetLoop, hc, hup, Nat.not_succ_le_self]
      · have hstep : stopDepMetLoop m s (c :: l) cache (setDependCache s cache g) =
            stopDepMetLoop m s l (cache + 1) (setDependCache s (cache + 1) g) := by
          have hc : c = s ∨ depend m g c s = false ∨ released (g.svc c).currentState = true := by
            by_contra hcon
            simp only [not_or, Bool.not_eq_false, Bool.not_eq_true] at hcon
            exact hup (by simpa [holdsUp] using hcon)
          rcases hc with hc | hc | hc <;> simp [stopDepMetLoop, hc, Nat.not_succ_le_self]
        rw [hstep]
        simpa [hup] using hrest

def stopRefused (m : Modules) (g : G) (s : Sid) : Bool :=
  (askDepMet m.stopDepMet s
    (setDependCache s (max (g.svc s).dependCache g.activeDb.length) g)).1 = .failed

def skippedServices (g : G) (s : Sid) : List Sid := g.activeDb.take (g.svc s).dependCache

def checkedServices (g : G) (s : Sid) : List Sid := g.activeDb.drop (g.svc s).dependCache

lemma dependStopDepMet_true_iff :
    (dependStopDepMet m s g).1 = .true ↔
      (∀ c ∈ checkedServices g s, holdsUp m g s c = false) ∧ stopRefused m g s = false := by
  have hloop := stopDepMetLoop_through m s g g.activeDb 0 (g.svc s).dependCache (Nat.zero_le _)
  simp only [setDependCache_self, Nat.sub_zero, Nat.zero_add] at hloop
  obtain ⟨hiff, hstate⟩ := hloop
  unfold dependStopDepMet
  cases hr : (stopDepMetLoop m s g.activeDb 0 g).1 with
  | false =>
    have hnot := hiff.not.mp (by simp [hr])
    simp only [hr, if_true, reduceCtorEq, checkedServices, hnot, false_and]
  | true =>
    have hall := hiff.mp hr
    simp only [hr, hstate hr, Bool.true_eq_false, if_false, checkedServices]
    by_cases hev : stopRefused m g s = true
    · have hfailed := of_decide_eq_true hev
      simp [hev, hfailed]
    · have hnot := of_decide_eq_false (Bool.not_eq_true _ ▸ hev)
      simp only [if_neg hnot, hev, true_iff]
      exact ⟨hall, trivial⟩

lemma dependStopDepMet_state (h : (dependStopDepMet m s g).1 = .true) :
    (dependStopDepMet m s g).2 = setDependCache s 0 g := by
  obtain ⟨hall, hev⟩ := dependStopDepMet_true_iff.mp h
  have hloop := stopDepMetLoop_through m s g g.activeDb 0 (g.svc s).dependCache (Nat.zero_le _)
  simp only [setDependCache_self, Nat.sub_zero, Nat.zero_add] at hloop
  have hthrough := hloop.1.mpr hall
  have hnot := of_decide_eq_false hev
  unfold dependStopDepMet
  simp only [hthrough, hloop.2 hthrough, Bool.true_eq_false, if_false, if_neg hnot,
    askDepMet_quiet m.stopDepMet s _ hnot, setDependCache_twice]

end Initng
