import Initng.DepMet
import Initng.ServiceTypes

namespace Initng

inductive DepStep
  | startCheck (m : Modules) (fuel : ℕ) (s : Sid)
  | stopCheck (m : Modules) (s : Sid)
  | change (f : G → G)

def DepStep.next : DepStep → G → Option G
  | startCheck m fuel s, g => (dependStartDepMet m fuel s g).map fun r => r.2
  | stopCheck m s, g => some (dependStopDepMet m s g).2
  | change f, g => some (f g)

def DepStep.visited : G → List DepStep → List (G × DepStep)
  | _, [] => []
  | g, step :: rest =>
    (g, step) :: match step.next g with
      | some g => visited g rest
      | none => []

def StartDepsMet (g : G) (s : Sid) : Prop :=
  ∀ d ∈ (g.svc s).data, ∀ name, d.s = some name →
    (d.type = .require ∨ d.type = .need →
      ∃ dep, activeDbFindByName g name = some dep ∧ getState g dep = .isUp) ∧
    (d.type = .use → ∀ dep, activeDbFindByName g name = some dep → getState g dep = .isUp)

variable {g : G} {s : Sid} {m : Modules}

lemma startDepsMet_iff :
    StartDepsMet g s ↔ ∀ d ∈ depEntries (g.svc s).data, entryMet g d = true := by
  constructor
  · intro h d hd
    obtain ⟨hmem, hdep⟩ := List.mem_filter.mp hd
    obtain ⟨htype, hsome⟩ : (d.type = .require ∨ d.type = .need ∨ d.type = .use) ∧ d.s.isSome := by
      simpa [isDepEntry] using hdep
    obtain ⟨name, hname⟩ := Option.isSome_iff_exists.mp hsome
    obtain ⟨hmust, huse⟩ := h d hmem name hname
    cases hfind : activeDbFindByName g name with
    | none =>
      have hty : d.type = .use := by
        by_contra hne
        obtain ⟨dep, hdep, -⟩ := hmust (by tauto)
        simp [hfind] at hdep
      simp [entryMet, hname, hfind, hty]
    | some dep =>
      have hup : getState g dep = .isUp := by
        rcases htype with hty | hty | hty
        · obtain ⟨dep', hdep', hup⟩ := hmust (.inl hty)
          rw [hfind] at hdep'
          cases hdep'
          exact hup
        · obtain ⟨dep', hdep', hup⟩ := hmust (.inr hty)
          rw [hfind] at hdep'
          cases hdep'
          exact hup
        · exact huse hty dep hfind
      simp [entryMet, hname, hfind, hup]
  · intro h d hd name hname
    have hmet : d.type = .require ∨ d.type = .need ∨ d.type = .use → entryMet g d = true :=
      fun hty => h d (List.mem_filter.mpr ⟨hd, by simp [isDepEntry, hty, hname]⟩)
    refine ⟨fun hty => ?_, fun hty dep hfind => ?_⟩
    · have hd := hmet (by tauto)
      cases hfind : activeDbFindByName g name with
      | none => rcases hty with hty | hty <;> simp [entryMet, hname, hfind, hty] at hd
      | some dep => exact ⟨dep, rfl, by simpa [entryMet, hname, hfind] using hd⟩
    · have hd := hmet (by tauto)
      simpa [entryMet, hname, hfind] using hd

@[simp] lemma entryMet_setDependCache (s : Sid) (count : ℕ) (g : G) (d : SData) :
    entryMet (setDependCache s count g) d = entryMet g d := by
  simp [entryMet]

/-- A check that passes over the first `n` entries and may be refused vouches for all entries
exactly if the first `n` are good, or it comes upon one that is not, or it is refused. -/
lemma vouches_iff {α : Type} {p : α → Bool} {l : List α} {n : ℕ} {refused b : Bool} :
    ((∀ x ∈ l.drop n, p x = b) → refused = false → ∀ x ∈ l, p x = b) ↔
      (∀ x ∈ l.take n, p x = b) ∨ (∃ x ∈ l.drop n, p x = !b) ∨ refused = true := by
  have hall : (∀ x ∈ l, p x = b) ↔ (∀ x ∈ l.take n, p x = b) ∧ ∀ x ∈ l.drop n, p x = b := by
    rw [← List.forall_mem_append, List.take_append_drop]
  have hbad : (∃ x ∈ l.drop n, p x = !b) ↔ ¬ ∀ x ∈ l.drop n, p x = b := by
    simp [Bool.eq_not]
  rw [hall, hbad, ← Bool.not_eq_true]
  tauto

lemma dependStartDepMet_valid_iff {fuel : ℕ} :
    (∀ g', dependStartDepMet m fuel s g = some (.true, g') → StartDepsMet g' s) ↔
      (∀ d ∈ skippedEntries g s, entryMet g d = true) ∨
        (∃ d ∈ checkedEntries g s, entryMet g d = false) ∨ startRefused m g s = true := by
  refine Iff.trans ?_ vouches_iff
  have hall : StartDepsMet (setDependCache s 0 g) s ↔
      ∀ d ∈ depEntries (g.svc s).data, entryMet g d = true := by
    simp only [startDepsMet_iff, setDependCache_data, entryMet_setDependCache]
  rw [← hall]
  constructor
  · exact fun h hchecked href => h _ (dependStartDepMet_true_iff.mpr ⟨hchecked, href, rfl⟩)
  · intro h g' hcall
    obtain ⟨hchecked, href, rfl⟩ := dependStartDepMet_true_iff.mp hcall
    exact h hchecked href

/-- In a run, every TRUE of a start check is right exactly if, whenever a start is checked,
the entries skipped through `depend_cache` are met, or the check comes upon an entry that
is not, or a module refuses. -/
theorem startGrants_valid_iff (g₀ : G) (steps : List DepStep) :
    (∀ g m fuel s, (g, DepStep.startCheck m fuel s) ∈ DepStep.visited g₀ steps →
      ∀ g', dependStartDepMet m fuel s g = some (.true, g') → StartDepsMet g' s) ↔
    ∀ g m fuel s, (g, DepStep.startCheck m fuel s) ∈ DepStep.visited g₀ steps →
      (∀ d ∈ skippedEntries g s, entryMet g d = true) ∨
        (∃ d ∈ checkedEntries g s, entryMet g d = false) ∨ startRefused m g s = true := by
  constructor
  · intro h g m fuel s hmem
    exact dependStartDepMet_valid_iff.mp (h g m fuel s hmem)
  · intro h g m fuel s hmem
    exact dependStartDepMet_valid_iff.mpr (h g m fuel s hmem)

def waitingDb : G :=
  G.ofServices .stateUp
    [.needing "a" ⟨"daemon"⟩ .daemonWaitingForStartDep ["b", "c"],
      .needing "b" ⟨"daemon"⟩ .daemonRunning [],
      .needing "c" ⟨"daemon"⟩ .daemonStartMarked []]

/-- The check counts `"b"` and waits for `"c"`.  Then `"b"` stops, `"c"` comes up, and the
next check grants the start. -/
def staleStart : List DepStep :=
  [.startCheck typeModules 9 0,
    .change fun g => (commonMarkService 1 .daemonStopped g).2,
    .change fun g => (commonMarkService 2 .daemonRunning g).2,
    .startCheck typeModules 9 0]

theorem startGrants_invalid_stale :
    ¬ ∀ g m fuel s, (g, DepStep.startCheck m fuel s) ∈ DepStep.visited waitingDb staleStart →
      ∀ g', dependStartDepMet m fuel s g = some (.true, g') → StartDepsMet g' s := by
  simp only [dependStartDepMet_valid_iff]
  intro h
  let g₁ := ((dependStartDepMet typeModules 9 0 waitingDb).get (by decide)).2
  let g₂ := (commonMarkService 2 .daemonRunning (commonMarkService 1 .daemonStopped g₁).2).2
  have hlast : (g₂, DepStep.startCheck typeModules 9 0) ∈
      DepStep.visited waitingDb staleStart :=
    .tail _ (.tail _ (.tail _ (.head _)))
  exact absurd (h g₂ typeModules 9 0 hlast) (by decide)

def StopDepsMet (m : Modules) (g : G) (s : Sid) : Prop :=
  ∀ c ∈ g.activeDb, c ≠ s → depend m g c s = true →
    getState g c = .isDown ∨ getState g c = .isFailed ∨
      (getState g c = .isStarting ∧
        strstr (g.svc c).currentState.name "WAITING_FOR_START_DEP" = true)

lemma released_iff {state : AState} :
    released state = true ↔ state.is = .isDown ∨ state.is = .isFailed ∨
      (state.is = .isStarting ∧ strstr state.name "WAITING_FOR_START_DEP" = true) := by
  unfold released
  cases state.is <;> simp

lemma stopDepsMet_iff : StopDepsMet m g s ↔ ∀ c ∈ g.activeDb, holdsUp m g s c = false := by
  have hc (c : Sid) : holdsUp m g s c = false ↔
      (c ≠ s → depend m g c s = true → released (g.svc c).currentState = true) := by
    simp [holdsUp]
  simp only [hc, released_iff]
  rfl

@[simp] lemma holdsUp_setDependCache (m : Modules) (t : Sid) (count : ℕ) (g : G) (s c : Sid) :
    holdsUp m (setDependCache t count g) s c = holdsUp m g s c := by
  simp [holdsUp]

lemma dependStopDepMet_valid_iff :
    ((dependStopDepMet m s g).1 = .true → StopDepsMet m (dependStopDepMet m s g).2 s) ↔
      (∀ c ∈ skippedServices g s, holdsUp m g s c = false) ∨
        (∃ c ∈ checkedServices g s, holdsUp m g s c = true) ∨ stopRefused m g s = true := by
  refine Iff.trans ?_ vouches_iff
  have hall : StopDepsMet m (setDependCache s 0 g) s ↔
      ∀ c ∈ g.activeDb, holdsUp m g s c = false := by
    simp only [stopDepsMet_iff, setDependCache_activeDb, holdsUp_setDependCache]
  rw [← hall]
  constructor
  · intro h hchecked href
    have htrue := dependStopDepMet_true_iff.mpr ⟨hchecked, href⟩
    exact dependStopDepMet_state htrue ▸ h htrue
  · intro h htrue
    obtain ⟨hchecked, href⟩ := dependStopDepMet_true_iff.mp htrue
    exact (dependStopDepMet_state htrue).symm ▸ h hchecked href

/-- In a run, every TRUE of a stop check is right exactly if, whenever a stop is checked,
no service skipped through `depend_cache` holds it up, or the check comes upon one that
does, or a module refuses. -/
theorem stopGrants_valid_iff (g₀ : G) (steps : List DepStep) :
    (∀ g m s, (g, DepStep.stopCheck m s) ∈ DepStep.visited g₀ steps →
      (dependStopDepMet m s g).1 = .true → StopDepsMet m (dependStopDepMet m s g).2 s) ↔
    ∀ g m s, (g, DepStep.stopCheck m s) ∈ DepStep.visited g₀ steps →
      (∀ c ∈ skippedServices g s, holdsUp m g s c = false) ∨
        (∃ c ∈ checkedServices g s, holdsUp m g s c = true) ∨ stopRefused m g s = true := by
  constructor
  · intro h g m s hmem
    exact dependStopDepMet_valid_iff.mp (h g m s hmem)
  · intro h g m s hmem
    exact dependStopDepMet_valid_iff.mpr (h g m s hmem)

def stoppingDb : G :=
  G.ofServices .stateUp
    [.needing "old" ⟨"daemon"⟩ .daemonStopped [],
      .needing "s" ⟨"daemon"⟩ .daemonWaitingForStopDep [],
      .needing "user" ⟨"daemon"⟩ .daemonRunning ["s"]]

/-- The check counts two services and waits for `"user"`.  When `"old"` is cleaned away,
`"user"` moves into the counted positions, and the next check grants the stop. -/
def shiftedStop : List DepStep :=
  [.stopCheck typeModules 1, .change (activeDbCleanDown ⟨100, 0⟩), .stopCheck typeModules 1]

theorem stopGrants_invalid_shifted :
    ¬ ∀ g m s, (g, DepStep.stopCheck m s) ∈ DepStep.visited stoppingDb shiftedStop →
      (dependStopDepMet m s g).1 = .true → StopDepsMet m (dependStopDepMet m s g).2 s := by
  simp only [dependStopDepMet_valid_iff]
  intro h
  let g₁ := (dependStopDepMet typeModules 1 stoppingDb).2
  let g₂ := activeDbCleanDown ⟨100, 0⟩ g₁
  have hlast : (g₂, DepStep.stopCheck typeModules 1) ∈
      DepStep.visited stoppingDb shiftedStop := .tail _ (.tail _ (.head _))
  exact absurd (h g₂ typeModules 1 hlast) (by decide)

end Initng
