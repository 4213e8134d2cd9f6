import Mathlib.Data.Fintype.Card
import Mathlib.Data.List.Basic
import Mathlib.Data.List.Nodup
import Mathlib.Data.Set.Finite.Basic
import Mathlib.Logic.Relation

/-! A walk that enters a vertex, walks all its successors and only then leaves it, and whose only
protection against entering a vertex again is that a vertex which has been left can no longer be
entered. -/

namespace PostorderWalk

open List Relation

variable {α σ : Type*}

variable {r : α → α → Prop} {x : α}

lemma acc_of_reach {y : α} (a : Acc (fun y x => r x y) x) (p : ReflTransGen r x y) :
    Acc (fun y x => r x y) y := by
  induction p with
  | refl => exact a
  | tail _ e ih => exact ih.inv e

lemma acc_no_cycle (a : Acc (fun y x => r x y) x) : ¬ TransGen r x x := by
  induction a with
  | intro x _ ih =>
    intro c
    obtain ⟨y, e, p⟩ := TransGen.head'_iff.mp c
    exact ih y e (TransGen.tail' p e)

lemma acc_iff_no_cycle (l : List α) (hl : ∀ {a b}, r a b → b ∈ l) (x : α) :
    Acc (fun y x => r x y) x ↔ ¬ ∃ t, ReflTransGen r x t ∧ TransGen r t t := by
  constructor
  · rintro a ⟨t, p, c⟩
    exact acc_no_cycle (acc_of_reach a p) c
  · intro h
    -- the vertices in reach are finitely many, and the path order on them has no cycle
    let β := {b : α // b ∈ l ∧ ReflTransGen r x b}
    have : Finite β := (l.finite_toSet.subset fun b (hb : b ∈ l ∧ _) => hb.1).to_subtype
    let below : β → β → Prop := fun c b => TransGen r b.1 c.1
    have : IsTrans β below := ⟨fun _ _ _ p q => q.trans p⟩
    have : Std.Irrefl below := ⟨fun b c => h ⟨b.1, b.2.2, c⟩⟩
    have wf : WellFounded below := Finite.wellFounded_of_trans_of_irrefl below
    have hβ : ∀ b : β, Acc (fun y x => r x y) b.1 := by
      intro b
      induction b using wf.induction with
      | _ b ih =>
        exact Acc.intro b.1 fun c e => ih ⟨c, hl e, b.2.2.tail e⟩ (.single e)
    exact Acc.intro x fun c e => hβ ⟨c, hl e, .single e⟩

/-- A walk over states `σ`: which vertices can be entered, where they lead, and what
leaving one does.  Leaving a vertex closes that vertex and no other. -/
structure Walk (α σ : Type*) where
  Inv : σ → Prop
  enterable : σ → α → Bool
  succ : α → List α
  leave : α → σ → σ
  inv_leave : ∀ {x st}, Inv st → enterable st x = true → Inv (leave x st)
  enterable_leave : ∀ {x st}, Inv st → enterable st x = true →
    ∀ y, enterable (leave x st) y = true ↔ enterable st y = true ∧ y ≠ x

/-- A fold whose steps return what those of another return, as long as `I` holds. -/
lemma foldlM_of_step {f f' : σ → α → Option σ} {I : σ → Prop} {ys : List α} {st st' : σ}
    (hstep : ∀ y ∈ ys, ∀ st st', I st → f st y = some st' → f' st y = some st' ∧ I st')
    (hi : I st) (h : ys.foldlM f st = some st') : ys.foldlM f' st = some st' := by
  induction ys generalizing st with
  | nil => exact h
  | cons y ys ih =>
    simp only [foldlM_cons, Option.bind_eq_bind, Option.bind_eq_some_iff] at h ⊢
    obtain ⟨st₁, h₁, h₂⟩ := h
    obtain ⟨h₁, hi₁⟩ := hstep y (.head _) st st₁ hi h₁
    exact ⟨st₁, h₁, ih (fun y hy => hstep y (.tail _ hy)) hi₁ h₂⟩

namespace Walk

variable (w : Walk α σ)

def visit : ℕ → α → σ → Option σ
  | 0, _, _ => none
  | n + 1, x, st =>
    if w.enterable st x then
      ((w.succ x).foldlM (fun st y => visit n y st) st).map (w.leave x)
    else some st

def Edge (st : σ) (x y : α) : Prop := y ∈ w.succ x ∧ w.enterable st y = true

abbrev Reach (st : σ) : α → α → Prop := ReflTransGen (w.Edge st)

abbrev Founded (st : σ) : α → Prop := Acc (fun y x => w.Edge st x y)

def leaveAll (xs : List α) (st : σ) : σ := xs.foldl (fun st x => w.leave x st) st

variable {w}

variable {st' st₁ : σ} {x y a : α} {xs : List α} {n m : ℕ} {st : σ} {ys : List α}

lemma Edge.mono (h : ∀ y, w.enterable st' y = true → w.enterable st y = true)
    (e : w.Edge st' x y) : w.Edge st x y := ⟨e.1, h y e.2⟩

lemma Reach.mono (h : ∀ y, w.enterable st' y = true → w.enterable st y = true)
    (r : w.Reach st' x y) : w.Reach st x y := by
  induction r with
  | refl => exact .refl
  | tail _ e ih => exact ih.tail (Edge.mono h e)

lemma Reach.enterable (hx : w.enterable st x = true) (r : w.Reach st x y) :
    w.enterable st y = true := by
  cases r with
  | refl => exact hx
  | tail _ e => exact e.2

lemma leaveAll_append (xs ys : List α) (st : σ) :
    w.leaveAll (xs ++ ys) st = w.leaveAll ys (w.leaveAll xs st) := by
  simp [leaveAll]

lemma leaveAll_spec (xs : List α) (hi : w.Inv st) (hn : xs.Nodup)
    (he : ∀ x ∈ xs, w.enterable st x = true) :
    w.Inv (w.leaveAll xs st) ∧
      ∀ y, w.enterable (w.leaveAll xs st) y = true ↔ w.enterable st y = true ∧ y ∉ xs := by
  induction xs generalizing st with
  | nil => exact ⟨hi, by simp [leaveAll]⟩
  | cons x xs ih =>
    obtain ⟨hx, hn⟩ := nodup_cons.mp hn
    have hex := he x (by simp)
    have hclose := w.enterable_leave hi hex
    have h := ih (w.inv_leave hi hex) hn (by
      intro y hy
      refine (hclose y).mpr ⟨he y (by simp [hy]), ?_⟩
      rintro rfl
      exact hx hy)
    refine ⟨h.1, fun y => ?_⟩
    rw [show w.leaveAll (x :: xs) st = w.leaveAll xs (w.leave x st) from rfl, h.2 y, hclose y]
    simp [and_assoc]

/-- What a walk over the vertices `ys` has done when it returns: it has left, once
each, exactly the vertices in reach, and none of these starts an infinite descent. -/
structure Walked (w : Walk α σ) (ys : List α) (st st' : σ) (xs : List α) : Prop where
  result : st' = w.leaveAll xs st
  nodup : xs.Nodup
  mem : ∀ a, a ∈ xs ↔ ∃ y ∈ ys, w.enterable st y = true ∧ w.Reach st y a
  founded : ∀ y ∈ ys, w.enterable st y = true → w.Founded st y

section
variable (h : Walked w ys st st' xs)
include h

lemma Walked.all_enterable : ∀ x ∈ xs, w.enterable st x = true := by
  intro x hx
  obtain ⟨y, -, hy, r⟩ := (h.mem x).mp hx
  exact Reach.enterable hy r

lemma Walked.inv (hi : w.Inv st) : w.Inv st' := by
  rw [h.result]
  exact (leaveAll_spec xs hi h.nodup h.all_enterable).1

lemma Walked.enterable_iff (hi : w.Inv st)
    (y : α) : w.enterable st' y = true ↔ w.enterable st y = true ∧ y ∉ xs := by
  rw [h.result]
  exact (leaveAll_spec xs hi h.nodup h.all_enterable).2 y

lemma Walked.closed {b : α} (ha : a ∈ xs) (e : w.Edge st a b) : b ∈ xs := by
  obtain ⟨y, hy, hey, r⟩ := (h.mem a).mp ha
  exact (h.mem b).mpr ⟨y, hy, hey, r.tail e⟩

lemma Walked.reach_avoids (hi : w.Inv st)
    {u : α} (r : w.Reach st u a) (ha : a ∉ xs) : w.Reach st' u a ∧ u ∉ xs := by
  induction r using ReflTransGen.head_induction_on with
  | refl => exact ⟨.refl, ha⟩
  | head e _ ih =>
    refine ⟨.head ⟨e.1, (h.enterable_iff hi _).mpr ⟨e.2, ih.2⟩⟩ ih.1, ?_⟩
    intro hu
    exact ih.2 (h.closed hu e)

lemma Walked.founded_before (hi : w.Inv st) (a : w.Founded st' x) : w.Founded st x := by
  have hleft : ∀ y ∈ xs, w.Founded st y := by
    intro y hy
    obtain ⟨z, hz, hez, r⟩ := (h.mem y).mp hy
    exact acc_of_reach (h.founded z hz hez) r
  induction a with
  | intro x _ ih =>
    refine Acc.intro x fun y e => ?_
    by_cases hy : y ∈ xs
    · exact hleft y hy
    · exact ih y ⟨e.1, (h.enterable_iff hi y).mpr ⟨e.2, hy⟩⟩

end

lemma Walked.append {ys zs xs' : List α} {st st₂ : σ} (hi : w.Inv st) (h : Walked w ys st st₁ xs)
    (h' : Walked w zs st₁ st₂ xs') : Walked w (ys ++ zs) st st₂ (xs ++ xs') := by
  have hmono : ∀ y, w.enterable st₁ y = true → w.enterable st y = true := fun y hy =>
    ((h.enterable_iff hi y).mp hy).1
  refine ⟨?_, ?_, ?_, ?_⟩
  · rw [leaveAll_append, ← h.result]
    exact h'.result
  · refine nodup_append'.mpr ⟨h.nodup, h'.nodup, ?_⟩
    intro a ha ha'
    exact ((h.enterable_iff hi a).mp (h'.all_enterable a ha')).2 ha
  · intro a
    constructor
    · intro ha
      rcases mem_append.mp ha with ha | ha
      · obtain ⟨y, hy, r⟩ := (h.mem a).mp ha
        exact ⟨y, mem_append_left _ hy, r⟩
      · obtain ⟨y, hy, hey, r⟩ := (h'.mem a).mp ha
        exact ⟨y, mem_append_right _ hy, hmono y hey, r.mono hmono⟩
    · rintro ⟨y, hy, hey, r⟩
      by_cases ha : a ∈ xs
      · exact mem_append_left _ ha
      rcases mem_append.mp hy with hy | hy
      · exact mem_append_left _ ((h.mem a).mpr ⟨y, hy, hey, r⟩)
      · obtain ⟨r', hya⟩ := h.reach_avoids hi r ha
        exact mem_append_right _ ((h'.mem a).mpr ⟨y, hy, (h.enterable_iff hi y).mpr ⟨hey, hya⟩, r'⟩)
  · intro y hy hey
    rcases mem_append.mp hy with hy | hy
    · exact h.founded y hy hey
    by_cases hyx : y ∈ xs
    · obtain ⟨z, hz, hez, r⟩ := (h.mem y).mp hyx
      exact acc_of_reach (h.founded z hz hez) r
    · exact h.founded_before hi (h'.founded y hy ((h.enterable_iff hi y).mpr ⟨hey, hyx⟩))

lemma Walked.leave (hx : w.enterable st x = true) (h : Walked w (w.succ x) st st₁ xs) :
    Walked w [x] st (w.leave x st₁) (xs ++ [x]) := by
  have hf : w.Founded st x := Acc.intro x fun y e => h.founded y e.1 e.2
  have hnot : x ∉ xs := by
    intro hmem
    obtain ⟨y, hy, hey, r⟩ := (h.mem x).mp hmem
    exact acc_no_cycle hf (TransGen.head' ⟨hy, hey⟩ r)
  refine ⟨?_, ?_, ?_, ?_⟩
  · rw [leaveAll_append, ← h.result]
    rfl
  · refine nodup_append'.mpr ⟨h.nodup, nodup_singleton x, ?_⟩
    simpa using hnot
  · intro a
    simp only [mem_append, mem_singleton, exists_eq_left, hx, true_and, h.mem a]
    constructor
    · rintro (⟨y, hy, hey, r⟩ | rfl)
      · exact .head ⟨hy, hey⟩ r
      · exact .refl
    · intro r
      rcases ReflTransGen.cases_head r with rfl | ⟨y, e, r⟩
      · exact Or.inr rfl
      · exact Or.inl ⟨y, e.1, e.2, r⟩
  · simpa [hx] using hf

def visitAll (w : Walk α σ) (n : ℕ) (ys : List α) (st : σ) : Option σ :=
  ys.foldlM (fun st y => w.visit n y st) st

@[simp] lemma visitAll_nil (n : ℕ) (st : σ) : w.visitAll n [] st = some st := rfl

lemma visitAll_cons_eq_some :
    w.visitAll n (y :: ys) st = some st' ↔
      ∃ st₁, w.visit n y st = some st₁ ∧ w.visitAll n ys st₁ = some st' := by
  simp [visitAll, Option.bind_eq_some_iff]

lemma visit_succ (hx : w.enterable st x = true) :
    w.visit (n + 1) x st = (w.visitAll n (w.succ x) st).map (w.leave x) := by
  simp [visit, hx, visitAll]

lemma visit_succ_eq_some (hx : w.enterable st x = true) :
    w.visit (n + 1) x st = some st' ↔
      ∃ st₁, w.visitAll n (w.succ x) st = some st₁ ∧ w.leave x st₁ = st' := by
  rw [visit_succ hx, Option.map_eq_some_iff]

lemma visit_closed (hx : w.enterable st x = false) : w.visit (n + 1) x st = some st := by
  simp [visit, hx]

lemma visitAll_walked
    (hv : ∀ {x st st'}, w.Inv st → w.visit n x st = some st' → ∃ xs, Walked w [x] st st' xs)
    (hi : w.Inv st) (h : w.visitAll n ys st = some st') :
    ∃ xs, Walked w ys st st' xs := by
  induction ys generalizing st with
  | nil =>
    obtain rfl : st = st' := by simpa using h
    exact ⟨[], rfl, nodup_nil, by simp, by simp⟩
  | cons y ys ih =>
    obtain ⟨st₁, h₁, h₂⟩ := visitAll_cons_eq_some.mp h
    obtain ⟨xs, hw⟩ := hv hi h₁
    obtain ⟨xs', hw'⟩ := ih (hw.inv hi) h₂
    exact ⟨xs ++ xs', by simpa using hw.append hi hw'⟩

/-- Whatever a returning walk did, it did as `Walked` says. -/
lemma visit_walked (n : ℕ) (hi : w.Inv st) (h : w.visit n x st = some st') :
    ∃ xs, Walked w [x] st st' xs := by
  induction n generalizing x st st' with
  | zero => simp [visit] at h
  | succ n ih =>
    by_cases hx : w.enterable st x = true
    · obtain ⟨st₁, h₁, rfl⟩ := (visit_succ_eq_some hx).mp h
      obtain ⟨xs, hw⟩ := visitAll_walked ih hi h₁
      exact ⟨xs ++ [x], hw.leave hx⟩
    · rw [visit_closed (by simpa using hx)] at h
      obtain rfl : st = st' := by simpa using h
      exact ⟨[], rfl, nodup_nil, by simp [hx], by simp [hx]⟩

lemma visitAll_mono (hv : ∀ {x st st'}, w.visit n x st = some st' → w.visit m x st = some st')
    (h : w.visitAll n ys st = some st') : w.visitAll m ys st = some st' :=
  foldlM_of_step (I := fun _ => True) (fun _ _ _ _ _ h => ⟨hv h, trivial⟩) trivial h

lemma visit_mono (hnm : n ≤ m) (h : w.visit n x st = some st') : w.visit m x st = some st' := by
  induction n generalizing m x st st' with
  | zero => simp [visit] at h
  | succ n ih =>
    obtain ⟨m, rfl⟩ : ∃ k, m = k + 1 := ⟨m - 1, by omega⟩
    by_cases hx : w.enterable st x = true
    · obtain ⟨st₁, h₁, rfl⟩ := (visit_succ_eq_some hx).mp h
      exact (visit_succ_eq_some hx).mpr ⟨st₁, visitAll_mono (ih (by omega)) h₁, rfl⟩
    · rw [visit_closed (by simpa using hx)] at h ⊢
      exact h

lemma visitAll_returns {st₀ : σ}
    (hv : ∀ y ∈ ys, ∀ st, w.Inv st → (∀ z, w.enterable st z = true → w.enterable st₀ z = true) →
      ∃ n st', w.visit n y st = some st') (hi : w.Inv st)
    (hmono : ∀ z, w.enterable st z = true → w.enterable st₀ z = true) :
    ∃ n st', w.visitAll n ys st = some st' := by
  induction ys generalizing st with
  | nil => exact ⟨0, st, rfl⟩
  | cons y ys ih =>
    obtain ⟨n₁, st₁, h₁⟩ := hv y (by simp) st hi hmono
    obtain ⟨xs, hw⟩ := visit_walked n₁ hi h₁
    obtain ⟨n₂, st₂, h₂⟩ := ih (fun z hz => hv z (by simp [hz])) (hw.inv hi)
      (fun z hz => hmono z ((hw.enterable_iff hi z).mp hz).1)
    -- the larger of the two nestings serves both
    exact ⟨max n₁ n₂, st₂, visitAll_cons_eq_some.mpr ⟨st₁, visit_mono (le_max_left _ _) h₁,
      visitAll_mono (visit_mono (le_max_right _ _)) h₂⟩⟩

lemma visit_returns {st₀ : σ} (a : w.Founded st₀ x) (hi : w.Inv st)
    (hmono : ∀ y, w.enterable st y = true → w.enterable st₀ y = true) :
    ∃ n st', w.visit n x st = some st' := by
  induction a generalizing st with
  | intro x _ ih =>
    by_cases hx : w.enterable st x = true
    · have hsucc : ∀ y ∈ w.succ x, ∀ st, w.Inv st →
          (∀ z, w.enterable st z = true → w.enterable st₀ z = true) →
          ∃ n st', w.visit n y st = some st' := by
        intro y hy st hi hmono
        by_cases he : w.enterable st y = true
        · exact ih y ⟨hy, hmono y he⟩ hi hmono
        · exact ⟨1, st, visit_closed (by simpa using he)⟩
      obtain ⟨n, st', h⟩ := visitAll_returns hsucc hi hmono
      exact ⟨n + 1, w.leave x st', (visit_succ_eq_some hx).mpr ⟨st', h, rfl⟩⟩
    · exact ⟨1, st, visit_closed (by simpa using hx)⟩

/-- A walk over the successors of a vertex returns exactly when the vertex starts no
infinite descent. -/
lemma visitAll_succ_returns_iff (hi : w.Inv st) :
    (∃ n st', w.visitAll n (w.succ x) st = some st') ↔ w.Founded st x := by
  constructor
  · rintro ⟨n, st', h⟩
    obtain ⟨xs, hw⟩ := visitAll_walked (visit_walked n) hi h
    exact Acc.intro x fun y e => hw.founded y e.1 e.2
  · intro a
    refine visitAll_returns (fun y hy st' hi' hmono => ?_) hi (fun _ h => h)
    by_cases he : w.enterable st' y = true
    · exact visit_returns (a.inv ⟨hy, hmono y he⟩) hi' hmono
    · exact ⟨1, st', visit_closed (by simpa using he)⟩

/-- A walk returns exactly when the vertex is closed already or starts no infinite descent. -/
lemma visit_returns_iff (hi : w.Inv st) :
    (∃ n st', w.visit n x st = some st') ↔ (w.enterable st x = true → w.Founded st x) := by
  constructor
  · rintro ⟨n, st', h⟩ hx
    obtain ⟨xs, hw⟩ := visit_walked n hi h
    exact hw.founded x (by simp) hx
  · intro h
    by_cases hx : w.enterable st x = true
    · exact visit_returns (h hx) hi fun _ h => h
    · exact ⟨1, st, visit_closed (by simpa using hx)⟩

end Walk

end PostorderWalk
