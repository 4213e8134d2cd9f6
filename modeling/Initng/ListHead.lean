import Initng.LinkRing

namespace Initng

open LinkRing List

section
variable {α : Type} [DecidableEq α]

def initngListInit (list : α) (h : Links α) : Option (Links α) := do
  let h ← h.setNext list list
  h.setPrev list list

def initngListAdd (newe head : α) (h : Links α) : Option (Links α) := do
  if (← h.next newe) ≠ none ∨ (← h.prev newe) ≠ none then
    return h
  let h ← h.setPrev (← h.next head) newe
  let h ← h.setNext newe (← h.next head)
  let h ← h.setPrev newe head
  h.setNext head newe

def initngListAddTail (newe head : α) (h : Links α) : Option (Links α) := do
  if (← h.next newe) ≠ none ∨ (← h.prev newe) ≠ none then
    return h
  let h ← h.setNext (← h.prev head) newe
  let h ← h.setPrev head newe
  let h ← h.setNext newe head
  -- `head->prev` is the new entry by now
  h.setPrev newe (← h.prev head)

def initngListDel (entry : α) (h : Links α) : Option (Links α) := do
  if (← h.next entry) = none ∧ (← h.prev entry) = none then
    return h
  let h ← h.setPrev (← h.next entry) (← h.prev entry)
  let h ← h.setNext (← h.prev entry) (← h.next entry)
  let h ← h.setNext entry none
  h.setPrev entry none

def initngListMove (list head : α) (h : Links α) : Option (Links α) := do
  initngListAdd list head (← initngListDel list h)

def listMoveTail (list head : α) (h : Links α) : Option (Links α) := do
  initngListAddTail list head (← initngListDel list h)

def initngListIsempty (list : α) (h : Links α) : Option Bool :=
  (h.next list).map fun n => n = some list

def initngListJoin (list head : α) (h : Links α) : Option (Links α) := do
  if ← initngListIsempty list h then
    return h
  let first ← h.next list
  let last ← h.prev list
  let at_ ← h.next head
  let h ← h.setPrev first head
  let h ← h.setNext head first
  let h ← h.setNext last at_
  let h ← h.setPrev at_ last
  initngListInit list h

def initngListForeach (fuel : ℕ) (head : α) (h : Links α) : Option (List α) := do
  walk h.next head fuel (← h.next head)

def initngListForeachRev (fuel : ℕ) (head : α) (h : Links α) : Option (List α) := do
  walk h.prev head fuel (← h.prev head)

/-- The turns of `initng_list_foreach_safe`: the body runs on `pos` and may take it out, and
`n` was read before. -/
def foreachSafe {σ : Type} (links : σ → Links α) (body : α → σ → Option σ) (head : α) :
    ℕ → α → Option α → σ → Option σ
  | 0, _, _, _ => none
  | fuel + 1, pos, n, s =>
    if pos = head then some s
    else do
      let s ← body pos s
      let next ← (links s).next n
      foreachSafe links body head fuel (← n) next s

def initngListForeachSafe {σ : Type} (links : σ → Links α) (body : α → σ → Option σ)
    (fuel : ℕ) (head : α) (s : σ) : Option σ := do
  let pos ← (links s).next head
  let n ← (links s).next pos
  foreachSafe links body head fuel (← pos) n s

def foreachRevSafe {σ : Type} (links : σ → Links α) (body : α → σ → Option σ) (head : α) :
    ℕ → α → Option α → σ → Option σ
  | 0, _, _, _ => none
  | fuel + 1, pos, n, s =>
    if pos = head then some s
    else do
      let s ← body pos s
      let prev ← (links s).prev n
      foreachRevSafe links body head fuel (← n) prev s

def initngListForeachRevSafe {σ : Type} (links : σ → Links α) (body : α → σ → Option σ)
    (fuel : ℕ) (head : α) (s : σ) : Option σ := do
  let pos ← (links s).prev head
  let n ← (links s).prev pos
  foreachRevSafe links body head fuel (← pos) n s

variable {h h' : Links α} {list head e f first last : α} {l ln lp : Option α} {xs ys : List α}

lemma initngListAdd_spec
    (hen : h.next e = some none) (hep : h.prev e = some none)
    (hn : h.next head = some (some f)) (hf : h.prev f = some l) (hne : head ≠ e) (hfe : f ≠ e) :
    ∃ h', initngListAdd e head h = some h' ∧
      (∀ b : α, h'.next b =
        if b = head then some (some e) else if b = e then some (some f) else h.next b) ∧
      ∀ b : α, h'.prev b =
        if b = e then some (some head) else if b = f then some (some e) else h.prev b := by
  obtain ⟨h₁, eq₁, prev₁, next₁⟩ := setPrev_spec hf (some e)
  obtain ⟨h₂, eq₂, next₂, prev₂⟩ := setNext_spec ((next₁ e).trans hen) (some f)
  have hep₂ : h₂.prev e = some none := by rw [prev₂, prev₁, if_neg hfe.symm, hep]
  obtain ⟨h₃, eq₃, prev₃, next₃⟩ := setPrev_spec hep₂ (some head)
  have hn₃ : h₃.next head = some (some f) := by rw [next₃, next₂, if_neg hne, next₁, hn]
  obtain ⟨h₄, eq₄, next₄, prev₄⟩ := setNext_spec hn₃ (some e)
  refine ⟨h₄, ?_, fun b => ?_, fun b => ?_⟩
  · simp [initngListAdd, hen, hep, hn, eq₁, next₁, eq₂, eq₃, eq₄]
  · rw [next₄, next₃, next₂, next₁]
  · rw [prev₄, prev₃, prev₂, prev₁]

lemma initngListDel_spec {p n : α}
    (hen : h.next e = some (some n)) (hep : h.prev e = some (some p))
    (hp : h.next p = some lp) (hn : h.prev n = some ln) (hne : n ≠ e) :
    ∃ h', initngListDel e h = some h' ∧
      (∀ b : α, h'.next b =
        if b = e then some none else if b = p then some (some n) else h.next b) ∧
      ∀ b : α, h'.prev b =
        if b = e then some none else if b = n then some (some p) else h.prev b := by
  obtain ⟨h₁, eq₁, prev₁, next₁⟩ := setPrev_spec hn (some p)
  have hep₁ : h₁.prev e = some (some p) := by rw [prev₁, if_neg hne.symm, hep]
  obtain ⟨h₂, eq₂, next₂, prev₂⟩ := setNext_spec ((next₁ p).trans hp) (some n)
  have hen₂ : h₂.next e = some (some n) := by rw [next₂, next₁, hen, ite_self]
  obtain ⟨h₃, eq₃, next₃, prev₃⟩ := setNext_spec hen₂ none
  have hep₃ : h₃.prev e = some (some p) := by rw [prev₃, prev₂, hep₁]
  obtain ⟨h₄, eq₄, prev₄, next₄⟩ := setPrev_spec hep₃ none
  refine ⟨h₄, ?_, fun b => ?_, fun b => ?_⟩
  · simp [initngListDel, hen, hep, eq₁, hep₁, next₁, eq₂, eq₃, eq₄]
  · rw [next₄, next₃, next₂, next₁]
  · rw [prev₄, prev₃, prev₂, prev₁]

lemma initngListAddTail_spec
    (hen : h.next e = some none) (hep : h.prev e = some none)
    (hp : h.prev head = some (some last)) (hl : h.next last = some l)
    (hne : head ≠ e) (hle : last ≠ e) :
    ∃ h', initngListAddTail e head h = some h' ∧
      (∀ b : α, h'.next b =
        if b = e then some (some head) else if b = last then some (some e) else h.next b) ∧
      ∀ b : α, h'.prev b =
        if b = e then some (some e) else if b = head then some (some e) else h.prev b := by
  obtain ⟨h₁, eq₁, next₁, prev₁⟩ := setNext_spec hl (some e)
  obtain ⟨h₂, eq₂, prev₂, next₂⟩ := setPrev_spec ((prev₁ head).trans hp) (some e)
  have hen₂ : h₂.next e = some none := by rw [next₂, next₁, if_neg hle.symm, hen]
  obtain ⟨h₃, eq₃, next₃, prev₃⟩ := setNext_spec hen₂ (some head)
  have hep₃ : h₃.prev e = some none := by rw [prev₃, prev₂, if_neg hne.symm, prev₁, hep]
  have hp₃ : h₃.prev head = some (some e) := by rw [prev₃, prev₂, if_pos rfl]
  obtain ⟨h₄, eq₄, prev₄, next₄⟩ := setPrev_spec hep₃ (some e)
  refine ⟨h₄, ?_, fun b => ?_, fun b => ?_⟩
  · simp [initngListAddTail, hen, hep, hp, eq₁, eq₂, eq₃, hp₃, eq₄]
  · rw [next₄, next₃, next₂, next₁]
  · rw [prev₄, prev₃, prev₂, prev₁]

lemma initngListInit_spec (hn : h.next list = some ln) (hp : h.prev list = some lp) :
    ∃ h', initngListInit list h = some h' ∧
      (∀ b : α, h'.next b = if b = list then some (some list) else h.next b) ∧
      ∀ b : α, h'.prev b = if b = list then some (some list) else h.prev b := by
  obtain ⟨h₁, eq₁, next₁, prev₁⟩ := setNext_spec hn (some list)
  obtain ⟨h₂, eq₂, prev₂, next₂⟩ := setPrev_spec ((prev₁ list).trans hp) (some list)
  refine ⟨h₂, by simp [initngListInit, eq₁, eq₂], fun b => ?_, fun b => ?_⟩
  · rw [next₂, next₁]
  · rw [prev₂, prev₁]

lemma initngListJoin_spec {at_ : α} {lf ll la : Option α} (hn : h.next list = some (some first))
    (hp : h.prev list = some (some last)) (hh : h.next head = some (some at_))
    (hf : h.prev first = some lf) (hl : h.next last = some ll) (ha : h.prev at_ = some la)
    (hfl : first ≠ list) (hlh : last ≠ head) (hfa : first ≠ at_) :
    ∃ h', initngListJoin list head h = some h' ∧
      (∀ b : α, h'.next b = if b = list then some (some list) else
        if b = last then some (some at_) else if b = head then some (some first)
        else h.next b) ∧
      ∀ b : α, h'.prev b = if b = list then some (some list) else
        if b = at_ then some (some last) else if b = first then some (some head)
        else h.prev b := by
  obtain ⟨h₁, eq₁, prev₁, next₁⟩ := setPrev_spec hf (some head)
  obtain ⟨h₂, eq₂, next₂, prev₂⟩ := setNext_spec ((next₁ head).trans hh) (some first)
  have hl₂ : h₂.next last = some ll := by rw [next₂, if_neg hlh, next₁, hl]
  obtain ⟨h₃, eq₃, next₃, prev₃⟩ := setNext_spec hl₂ (some at_)
  have ha₃ : h₃.prev at_ = some la := by rw [prev₃, prev₂, prev₁, if_neg hfa.symm, ha]
  obtain ⟨h₄, eq₄, prev₄, next₄⟩ := setPrev_spec ha₃ (some last)
  have hnext : ∀ b : α, h₄.next b = if b = last then some (some at_) else
      if b = head then some (some first) else h.next b := fun b => by
    rw [next₄, next₃, next₂, next₁]
  have hprev : ∀ b : α, h₄.prev b = if b = at_ then some (some last) else
      if b = first then some (some head) else h.prev b := fun b => by
    rw [prev₄, prev₃, prev₂, prev₁]
  obtain ⟨ln, hln⟩ : ∃ ln, h₄.next list = some ln := by
    rw [hnext, hn, ← apply_ite some, ← apply_ite some]
    exact ⟨_, rfl⟩
  obtain ⟨lp, hlp⟩ : ∃ lp, h₄.prev list = some lp := by
    rw [hprev, hp, ← apply_ite some, ← apply_ite some]
    exact ⟨_, rfl⟩
  obtain ⟨h₅, eq₅, next₅, prev₅⟩ := initngListInit_spec hln hlp
  refine ⟨h₅, ?_, fun b => ?_, fun b => ?_⟩
  · simp [initngListJoin, initngListIsempty, hn, hp, hh, hfl, eq₁, eq₂, eq₃, eq₄, eq₅]
  · rw [next₅, hnext]
  · rw [prev₅, hprev]

lemma initngListForeachSafe_empty {σ : Type} {links : σ → Links α} {s : σ}
    (body : α → σ → Option σ) (hn : (links s).next head = some (some head)) (fuel : ℕ) :
    initngListForeachSafe links body (fuel + 1) head s = some s := by
  simp [initngListForeachSafe, hn, foreachSafe]

lemma initngListForeachSafe_single {σ : Type} {links : σ → Links α}
    {body : α → σ → Option σ} {s s' : σ} {v : Option α} (hn : (links s).next head = some (some e))
    (hne : e ≠ head) (hen : (links s).next e = some (some head)) (hb : body e s = some s')
    (hv : (links s').next head = some v) (fuel : ℕ) :
    initngListForeachSafe links body (fuel + 2) head s = some s' := by
  simp [initngListForeachSafe, hn, hen, foreachSafe, hne, hb, hv]

def Holds (h : Links α) (head : α) (xs : List α) : Prop := Ring h ↑(xs ++ [head])

lemma initngListInit_holds (hl : h list ≠ none) :
    ∃ h', initngListInit list h = some h' ∧ Holds h' list [] := by
  obtain ⟨c, hc⟩ := Option.ne_none_iff_exists'.mp hl
  have hn : h.next list = some c.next := by simp [Links.next, hc]
  have hp : h.prev list = some c.prev := by simp [Links.prev, hc]
  obtain ⟨h', eq, next, prev⟩ := initngListInit_spec hn hp
  refine ⟨h', eq, Ring.of_chain (nodup_singleton _) ?_⟩
  refine isChain_pair.mpr ⟨?_, ?_⟩
  · rw [next, if_pos rfl]
  · rw [prev, if_pos rfl]

omit [DecidableEq α] in
lemma Holds.notMem (r : Holds h head xs) (hen : h.next e = some none) :
    e ∉ xs ++ [head] := fun hm => by
  obtain ⟨b, -, hb⟩ := Ring.exists_linked r (Cycle.mem_coe_iff.mpr hm)
  simp [hb.1] at hen

lemma Holds.add (r : Holds h head xs) (hen : h.next e = some none)
    (hep : h.prev e = some none) :
    ∃ h', initngListAdd e head h = some h' ∧ Holds h' head (e :: xs) ∧
      ∀ b : α, b ∉ head :: e :: xs → h'.next b = h.next b ∧ h'.prev b = h.prev b := by
  have he := r.notMem hen
  obtain ⟨f, hf, hlink⟩ := Ring.exists_linked r (a := head) (Cycle.mem_coe_iff.mpr (by simp))
  have hfe : f ≠ e := fun h => he (h ▸ Cycle.mem_coe_iff.mp hf)
  have hne : head ≠ e := fun h => he (by simp [h])
  obtain ⟨h', eq, next, prev⟩ := initngListAdd_spec hen hep hlink.1 hlink.2 hne hfe
  refine ⟨h', eq, ?_, fun b hb => ?_⟩
  · exact Ring.insert r hlink.1 (Cycle.mem_coe_iff.mp hf) he next prev
  · have hbf : b ≠ f := fun h => by
      have := Cycle.mem_coe_iff.mp hf
      simp [← h] at this hb
      tauto
    simp only [mem_cons, not_or] at hb
    rw [next, prev, if_neg hb.1, if_neg hb.2.1, if_neg hb.2.1, if_neg hbf]
    exact ⟨rfl, rfl⟩

lemma Holds.del (r : Holds h head (xs ++ e :: ys)) :
    ∃ h', initngListDel e h = some h' ∧ Holds h' head (xs ++ ys) ∧
      h'.next e = some none ∧ h'.prev e = some none ∧
      ∀ b : α, b ∉ head :: (xs ++ e :: ys) → h'.next b = h.next b ∧ h'.prev b = h.prev b := by
  -- the ring, written so that it ends at `e`
  have hrot : (↑(xs ++ e :: ys ++ [head]) : Cycle α) = ↑(ys ++ head :: xs ++ [e]) :=
    Cycle.coe_eq_coe.mpr (by simpa using @List.isRotated_append α (xs ++ [e]) (ys ++ [head]))
  have hrot' : (↑(xs ++ ys ++ [head]) : Cycle α) = ↑(ys ++ head :: xs) :=
    Cycle.coe_eq_coe.mpr (by simpa using @List.isRotated_append α xs (ys ++ [head]))
  obtain ⟨l, p, hlp⟩ : ∃ l p, ys ++ head :: xs = l ++ [p] :=
    ⟨_, _, (dropLast_append_getLast (by simp)).symm⟩
  rw [Holds, hrot, hlp] at r
  have hnd := Cycle.nodup_coe_iff.mp r.nodup
  have hae : ∀ a ∈ l ++ [p], a ≠ e := fun a ha =>
    (nodup_append.mp hnd).2.2 a ha e (mem_singleton_self e)
  have hx := r.chain
  obtain ⟨f, t, hft⟩ : ∃ f t, l ++ [p] = f :: t := exists_cons_of_ne_nil (by simp)
  have hf : f ∈ l ++ [p] := hft ▸ .head _
  have hef : h.Linked e f := by
    rw [hft] at hx
    exact (isChain_cons_cons.mp hx).1
  have hpe : h.Linked p e := by
    rw [append_assoc, singleton_append, ← cons_append] at hx
    exact (isChain_append_cons_cons.mp hx).2.1
  obtain ⟨h', eq, next, prev⟩ := initngListDel_spec hef.1 hpe.2 hpe.1 hef.2 (hae f hf)
  refine ⟨h', eq, ?_, by rw [next, if_pos rfl], by rw [prev, if_pos rfl], fun b hb => ?_⟩
  · rw [Holds, hrot', hlp]
    exact Ring.erase r hef.1 next prev
  · have hbl : b ∉ l ++ [p] := by
      rw [← hlp]
      simp only [mem_cons, mem_append, not_or] at hb ⊢
      exact ⟨hb.2.2.2, hb.1, hb.2.1⟩
    have hbe : b ≠ e := fun h => hb (by simp [h])
    have hbp : b ≠ p := fun h => hbl (by simp [h])
    have hbf : b ≠ f := fun h => hbl (h ▸ hf)
    rw [next, prev, if_neg hbe, if_neg hbe, if_neg hbp, if_neg hbf]
    exact ⟨rfl, rfl⟩

omit [DecidableEq α] in
lemma prev_of_chain (hx : (head :: (xs ++ e :: ys)).IsChain h.Linked) :
    h.prev e = some (some (xs.getLast?.getD head)) := by
  rcases eq_nil_or_concat xs with rfl | ⟨xs, x, rfl⟩
  · exact (isChain_cons_cons.mp hx).1.2
  · rw [concat_eq_append, append_assoc, singleton_append, ← cons_append] at hx
    simpa using (isChain_append_cons_cons.mp hx).2.1.2

omit [DecidableEq α] in
lemma Holds.prev (r : Holds h head (xs ++ e :: ys)) :
    h.prev e = some (some (xs.getLast?.getD head)) := by
  have hx : (head :: (xs ++ e :: (ys ++ [head]))).IsChain h.Linked := by
    simpa using Ring.chain r
  exact prev_of_chain hx

omit [DecidableEq α] in
lemma Holds.prev_head (r : Holds h head xs) :
    h.prev head = some (some (xs.getLast?.getD head)) :=
  prev_of_chain (Ring.chain r)

lemma Holds.join (rl : Holds h list xs) (rh : Holds h head ys) (hl : list ∉ ys ++ [head])
    (hdis : ∀ x ∈ xs, x ∉ ys ++ [head]) :
    ∃ h', initngListJoin list head h = some h' ∧ Holds h' head (xs ++ ys) ∧
      Holds h' list [] ∧
      ∀ b : α, b ∉ list :: head :: (xs ++ ys) → h'.next b = h.next b ∧ h'.prev b = h.prev b := by
  obtain ⟨f, hf, hlf⟩ := Ring.exists_linked rl (a := list) (Cycle.mem_coe_iff.mpr (by simp))
  obtain ⟨e, he, hel⟩ := Ring.exists_linked_to rl (a := list) (Cycle.mem_coe_iff.mpr (by simp))
  obtain ⟨g, hg, hhg⟩ := Ring.exists_linked rh (a := head) (Cycle.mem_coe_iff.mpr (by simp))
  rw [Cycle.mem_coe_iff] at hf he hg
  by_cases hxs : xs = []
  · subst hxs
    obtain rfl : f = list := by simpa using hf
    exact ⟨h, by simp [initngListJoin, initngListIsempty, hlf.1], rh, rl, fun b _ => ⟨rfl, rfl⟩⟩
  have hchain := Ring.chain rl
  have hfx : f ∈ xs := by
    obtain ⟨x, t, rfl⟩ := exists_cons_of_ne_nil hxs
    have hlx := (isChain_cons_cons.mp hchain).1
    exact eq_of_link hlx.1 hlf.1 ▸ .head _
  have hex : e ∈ xs := by
    have hlast := rl.prev_head
    obtain ⟨x, hx⟩ := Option.ne_none_iff_exists'.mp (mt getLast?_eq_none_iff.mp hxs)
    rw [hx, Option.getD_some] at hlast
    exact eq_of_link hlast hel.2 ▸ mem_of_getLast? hx
  have hfl : f ≠ list := fun h => rl.head_notMem (h ▸ hfx)
  have heh : e ≠ head := fun h => hdis e hex (by simp [h])
  have hfg : f ≠ g := fun h => hdis f hfx (h ▸ hg)
  obtain ⟨h', eq, next, prev⟩ := initngListJoin_spec hlf.1 hel.2 hhg.1 hlf.2 hel.1 hhg.2 hfl heh hfg
  obtain ⟨hjoined, hemptied⟩ := Ring.splice rl rh hlf.1 hel.2 hhg.1 hg hxs hl hdis next prev
  refine ⟨h', eq, ?_, hemptied, fun b hb => ?_⟩
  · rw [Holds, append_assoc]
    exact hjoined
  · simp only [mem_cons, mem_append, not_or] at hb
    have hbe : b ≠ e := fun h => hb.2.2.1 (h ▸ hex)
    have hbf : b ≠ f := fun h => hb.2.2.1 (h ▸ hfx)
    have hbg : b ≠ g := by
      rintro rfl
      rcases mem_append.mp hg with hgy | hgh
      · exact hb.2.2.2 hgy
      · exact hb.2.1 (mem_singleton.mp hgh)
    rw [next, prev, if_neg hb.1, if_neg hbe, if_neg hb.2.1, if_neg hb.1, if_neg hbg, if_neg hbf]
    exact ⟨rfl, rfl⟩

lemma Holds.foreach (r : Holds h head xs) {fuel : ℕ} (hf : xs.length < fuel) :
    initngListForeach fuel head h = some xs :=
  Ring.walk_next r hf

lemma Holds.foreachRev (r : Holds h head xs) {fuel : ℕ} (hf : xs.length < fuel) :
    initngListForeachRev fuel head h = some xs.reverse :=
  Ring.walk_prev r hf

omit [DecidableEq α] in
lemma Holds.congr (r : Holds h head xs)
    (heq : ∀ a ∈ xs ++ [head], h'.next a = h.next a ∧ h'.prev a = h.prev a) :
    Holds h' head xs := by
  refine Ring.of_chain (Cycle.nodup_coe_iff.mp (Ring.nodup r)) ?_
  refine IsChain.imp_of_mem_imp (fun a b ha hb hab => ?_) (Ring.chain r)
  have hmem : ∀ a ∈ head :: (xs ++ [head]), a ∈ xs ++ [head] := by simp
  exact ⟨(heq a (hmem a ha)).1.trans hab.1, (heq b (hmem b hb)).2.trans hab.2⟩

omit [DecidableEq α] in
lemma Holds.prev_ne_self (r : Holds h head xs) (he : e ∈ xs) : h.prev e ≠ some (some e) := by
  obtain ⟨front, back, rfl⟩ := append_of_mem he
  have hnd := (nodup_append.mp (Cycle.nodup_coe_iff.mp (Ring.nodup r))).1
  intro hself
  cases hlast : front.getLast? with
  | none =>
    obtain rfl : head = e := by simpa [r.prev, hlast] using hself
    exact r.head_notMem he
  | some p =>
    obtain rfl : p = e := by simpa [r.prev, hlast] using hself
    exact (nodup_append.mp hnd).2.2 p (mem_of_getLast? hlast) p (.head _) rfl

end

end Initng
