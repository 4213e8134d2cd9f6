import Initng.ListHead

namespace Initng

open LinkRing List

variable {α : Type} [DecidableEq α]

structure TailSelf (h : Links α) (head e : α) (xs : List α) : Prop where
  forward : (head :: (xs ++ [e] ++ [head])).IsChain fun a b : α => h.next a = some (some b)
  behind : h.prev head = some (some e)
  self : h.prev e = some (some e)
  head_notMem : head ∉ xs
  notMem : e ∉ head :: xs

variable {h : Links α} {head e other : α} {xs ws : List α}

lemma Holds.addTail_self (r : Holds h head xs) (hen : h.next e = some none)
    (hep : h.prev e = some none) :
    ∃ h', initngListAddTail e head h = some h' ∧ TailSelf h' head e xs := by
  have he : e ∉ head :: xs := by simpa [and_comm] using r.notMem hen
  obtain ⟨front, last, hfl⟩ : ∃ front last, head :: xs = front ++ [last] :=
    ⟨_, _, (dropLast_append_getLast (cons_ne_nil head xs)).symm⟩
  have hchain : (head :: xs ++ [head]).IsChain h.Linked := Ring.chain r
  have hlast : h.Linked last head := by
    rw [hfl, append_assoc] at hchain
    exact isChain_pair.mp (isChain_append.mp hchain).2.1
  have hne : head ≠ e := fun hh => he (hh ▸ .head _)
  have hle : last ≠ e := fun hl => he (hfl ▸ hl ▸ mem_append_right front (.head _))
  obtain ⟨h', eq, next, prev⟩ := initngListAddTail_spec hen hep hlast.2 hlast.1 hne hle
  refine ⟨h', eq, ?_, ?_, ?_, r.head_notMem, he⟩
  · -- the links up to the old last entry are as they were
    have hinner : (head :: xs).IsChain fun a b : α => h'.next a = some (some b) := by
      apply (isChain_append.mp hchain).1.imp_of_mem_tail_imp
      intro a b ha hb hab
      have hae : a ≠ e := fun h => he (h ▸ ha)
      have hal : a ≠ last := by
        rintro rfl
        exact r.head_notMem (eq_of_link hab.1 hlast.1 ▸ hb)
      rw [next, if_neg hae, if_neg hal, hab.1]
    rw [append_assoc, ← cons_append, hfl, append_assoc,
      singleton_append, singleton_append, isChain_append_cons_cons, ← hfl]
    refine ⟨hinner, ?_, isChain_pair.mpr ?_⟩
    · rw [next, if_neg hle, if_pos rfl]
    · rw [next, if_pos rfl]
  · rw [prev, if_neg hne, if_pos rfl]
  · rw [prev, if_pos rfl]

section
variable {h : Links α} {head e : α} {xs : List α}

omit [DecidableEq α] in
lemma TailSelf.head_ne (t : TailSelf h head e xs) : head ≠ e :=
  fun hh => t.notMem (hh ▸ .head _)

lemma TailSelf.foreach (t : TailSelf h head e xs) {fuel : ℕ} (hf : xs.length + 1 < fuel) :
    initngListForeach fuel head h = some (xs ++ [e]) :=
  walk_from_head (by simpa using hf) (by simp [t.head_notMem, t.head_ne]) t.forward

lemma TailSelf.foreachRev (t : TailSelf h head e xs) (fuel : ℕ) :
    initngListForeachRev fuel head h = none := by
  rw [initngListForeachRev, t.behind]
  exact walk_stuck t.self t.head_ne.symm fuel

lemma TailSelf.del (t : TailSelf h head e xs) :
    ∃ h', initngListDel e h = some h' ∧ ∀ fuel, initngListForeach fuel head h' = none := by
  have hx := t.forward
  rw [← cons_append, ← cons_append, append_assoc, isChain_append] at hx
  have hen : h.next e = some (some head) := (isChain_cons_cons.mp hx.2.1).1
  obtain ⟨h', eq, next, -⟩ := initngListDel_spec hen t.self hen t.behind t.head_ne
  refine ⟨h', eq, fun fuel => ?_⟩
  have hhead : head ∉ xs ++ [e] := by simp [t.head_notMem, t.head_ne]
  have hchain : (head :: (xs ++ [e])).IsChain fun a b : α => h'.next a = some (some b) := by
    apply (isChain_append.mp t.forward).1.imp_of_mem_tail_imp
    intro a b ha hb hab
    -- the only link that is changed leads to `head`
    have hae : a ≠ e := by
      rintro rfl
      exact hhead (eq_of_link hab hen ▸ hb)
    rw [next, if_neg hae, if_neg hae, hab]
  have hnull := walk_null (isChain_cons.mp hchain).2 (by rw [next, if_pos rfl]) hhead fuel
  obtain ⟨y, l, hyl⟩ : ∃ y l, xs ++ [e] = y :: l := exists_cons_of_ne_nil (by simp)
  rw [hyl, isChain_cons_cons] at hchain
  rw [hyl] at hnull
  rw [initngListForeach, hchain.1]
  exact hnull

end

lemma Holds.del_linked (r : Holds h head xs) (ro : Holds h other ws) (he : e ∈ ws)
    (hne : e ≠ head) :
    ∃ h', initngListDel e h = some h' ∧ Holds h' head (xs.erase e) ∧
      h'.next e = some none ∧ h'.prev e = some none := by
  by_cases hx : e ∈ xs
  · obtain ⟨front, back, hf, rfl, herase⟩ := exists_erase_eq hx
    obtain ⟨h', eq, hholds, hen, hep, -⟩ := r.del
    exact ⟨h', eq, herase ▸ hholds, hen, hep⟩
  · obtain ⟨front, back, rfl⟩ := append_of_mem he
    obtain ⟨h', eq, -, hen, hep, hframe⟩ := ro.del
    refine ⟨h', eq, ?_, hen, hep⟩
    rw [erase_of_not_mem hx]
    apply r.congr
    intro a ha
    apply hframe
    intro hm
    have hao : a ∈ front ++ e :: back ++ [other] :=
      mem_append.mpr ((mem_cons.mp hm).symm.imp_right mem_singleton.mpr)
    -- a cell in common would make `e` a cell of this ring too
    have hme : e ∈ xs ++ [head] := Cycle.mem_coe_iff.mp <|
      Ring.mem_of_mem ro r (Cycle.mem_coe_iff.mpr hao) (Cycle.mem_coe_iff.mpr ha)
        (Cycle.mem_coe_iff.mpr (by simp))
    simp [hx, hne] at hme

lemma Holds.moveTail_self (r : Holds h head xs) (ro : Holds h other ws) (he : e ∈ ws)
    (hne : e ≠ head) : ∃ h', listMoveTail e head h = some h' ∧ TailSelf h' head e (xs.erase e) := by
  obtain ⟨h₁, eq₁, r₁, hen, hep⟩ := r.del_linked ro he hne
  obtain ⟨h', eq, t⟩ := r₁.addTail_self hen hep
  exact ⟨h', by simp [listMoveTail, eq₁, eq], t⟩

lemma Holds.moveTail_head (ro : Holds h other ws) (he : head ∈ ws) :
    listMoveTail head head h = none := by
  obtain ⟨front, back, rfl⟩ := append_of_mem he
  obtain ⟨h₁, eq₁, -, hen, hep, -⟩ := ro.del
  simp [listMoveTail, eq₁, initngListAddTail, hen, hep, Links.setNext]

/-- The entry stands last in a list that is linked both ways, and taking it out again gives
the list without it. -/
def Appended (h : Links α) (head e : α) (xs : List α) : Prop :=
  Holds h head (xs ++ [e]) ∧ ∃ h', initngListDel e h = some h' ∧ Holds h' head xs

lemma TailSelf.not_appended (t : TailSelf h head e xs) : ¬ Appended h head e xs :=
  fun ha => ha.1.prev_ne_self (by simp) t.self

/-- Insertion at the tail appends for no list and no entry.  The walk along `next` is right,
the walk along `prev` does not return, and neither does a walk along `next` once the entry is
taken out. -/
theorem tail_never_appended :
    (∀ (h : Links α) (head e : α) (xs : List α), Holds h head xs →
      h.next e = some none → h.prev e = some none →
      (¬ ∃ h', initngListAddTail e head h = some h' ∧ Appended h' head e xs) ∧
      ∃ h', initngListAddTail e head h = some h' ∧
        initngListForeach (xs.length + 2) head h' = some (xs ++ [e]) ∧
        (∀ fuel, initngListForeachRev fuel head h' = none) ∧
        ∃ h'', initngListDel e h' = some h'' ∧
          ∀ fuel, initngListForeach fuel head h'' = none) ∧
    ∀ (h : Links α) (head other e : α) (xs ws : List α), Holds h head xs →
      Holds h other ws → e ∈ ws →
      ¬ ∃ h', listMoveTail e head h = some h' ∧ Appended h' head e (xs.erase e) := by
  constructor
  · intro h head e xs r hen hep
    obtain ⟨h', eq, t⟩ := r.addTail_self hen hep
    refine ⟨?_, h', eq, t.foreach (by omega), t.foreachRev, t.del⟩
    rintro ⟨h₁, eq₁, ha⟩
    obtain rfl : h' = h₁ := Option.some.inj (eq.symm.trans eq₁)
    exact t.not_appended ha
  · rintro h head other e xs ws r ro he ⟨h₁, eq₁, ha⟩
    by_cases hne : e = head
    · subst hne
      simp [ro.moveTail_head he] at eq₁
    · obtain ⟨h', eq, t⟩ := r.moveTail_self ro he hne
      obtain rfl : h' = h₁ := Option.some.inj (eq.symm.trans eq₁)
      exact t.not_appended ha

def freshHead : Links ℕ := fun a => some (if a = 0 then ⟨some 0, some 0⟩ else ⟨none, none⟩)

lemma freshHead_holds : Holds freshHead 0 [] :=
  Ring.of_chain (l := []) (nodup_singleton 0) (isChain_pair.mpr ⟨rfl, rfl⟩)

theorem tail_never_appended_first :
    Holds freshHead 0 [] ∧ freshHead.next (some 1) = some none ∧
    freshHead.prev (some 1) = some none ∧
    ¬ ∃ h', initngListAddTail 1 0 freshHead = some h' ∧ Appended h' 0 1 [] :=
  ⟨freshHead_holds, rfl, rfl, (tail_never_appended.1 freshHead 0 1 [] freshHead_holds rfl rfl).1⟩

/-- The entry of a list of one is not found by the walk along `prev`, which a list that holds
it would give. -/
theorem tail_not_always_appended :
    ¬ ∀ (h : Links ℕ) (head e : ℕ) (xs : List ℕ), Holds h head xs →
      h.next e = some none → h.prev e = some none →
      ∃ h', initngListAddTail e head h = some h' ∧ Appended h' head e xs := by
  intro hall
  obtain ⟨h', eq, ha, -⟩ := hall freshHead 0 1 [] freshHead_holds rfl rfl
  have hself : (initngListAddTail 1 0 freshHead).bind (fun h => h.prev (some 1)) =
      some (some 1) := by decide
  rw [eq] at hself
  exact ha.prev_ne_self (by simp) hself

end Initng
