import Mathlib.Data.List.Cycle

/-! Cells with two links each, in a memory where only some cells are allocated. -/

namespace LinkRing

open List Option Function

structure Cell (α : Type) where
  next : Option α
  prev : Option α
  deriving DecidableEq

abbrev Links (α : Type) := α → Option (Cell α)

section
variable {α : Type}

def Links.next (h : Links α) (p : Option α) : Option (Option α) := (p.bind h).map Cell.next

def Links.prev (h : Links α) (p : Option α) : Option (Option α) := (p.bind h).map Cell.prev

section
variable [DecidableEq α]

def Links.setNext (h : Links α) (p v : Option α) : Option (Links α) :=
  p.bind fun a => (h a).map fun l => update h a (some { l with next := v })

def Links.setPrev (h : Links α) (p v : Option α) : Option (Links α) :=
  p.bind fun a => (h a).map fun l => update h a (some { l with prev := v })

lemma next_update (h : Links α) (a b : α) (c : Option (Cell α)) :
    Links.next (update h a c) b = if b = a then c.map Cell.next else h.next b := by
  by_cases hb : b = a <;> simp [Links.next, hb]

lemma prev_update (h : Links α) (a b : α) (c : Option (Cell α)) :
    Links.prev (update h a c) b = if b = a then c.map Cell.prev else h.prev b := by
  by_cases hb : b = a <;> simp [Links.prev, hb]

lemma setNext_spec {h : Links α} {a : α} {l : Option α} (ha : h.next a = some l)
    (v : Option α) :
    ∃ h', h.setNext a v = some h' ∧
      (∀ b : α, h'.next b = if b = a then some v else h.next b) ∧
      ∀ b : α, h'.prev b = h.prev b := by
  obtain ⟨c, hc, -⟩ := map_eq_some_iff.mp ha
  have hc : h a = some c := hc
  refine ⟨update h a (some { c with next := v }), ?_, fun b => ?_, fun b => ?_⟩
  · simp only [Links.setNext, bind_some, hc, map_some]
  · exact next_update h a b _
  · rw [prev_update]
    by_cases hb : b = a <;> simp [Links.prev, hb, hc]

lemma setPrev_spec {h : Links α} {a : α} {l : Option α} (ha : h.prev a = some l)
    (v : Option α) :
    ∃ h', h.setPrev a v = some h' ∧
      (∀ b : α, h'.prev b = if b = a then some v else h.prev b) ∧
      ∀ b : α, h'.next b = h.next b := by
  obtain ⟨c, hc, -⟩ := map_eq_some_iff.mp ha
  have hc : h a = some c := hc
  refine ⟨update h a (some { c with prev := v }), ?_, fun b => ?_, fun b => ?_⟩
  · simp only [Links.setPrev, bind_some, hc, map_some]
  · exact prev_update h a b _
  · rw [next_update]
    by_cases hb : b = a <;> simp [Links.next, hb, hc]

end

variable {h h' : Links α} {c d : Cycle α} {l xs ys : List α} {a b e f g p head : α}

def Links.Linked (h : Links α) (a b : α) : Prop :=
  h.next a = some (some b) ∧ h.prev b = some (some a)

lemma eq_of_link {v : Option (Option α)} (ha : v = some (some a))
    (hb : v = some (some b)) : a = b :=
  some.inj (some.inj (ha.symm.trans hb))

structure Ring (h : Links α) (c : Cycle α) : Prop where
  nodup : c.Nodup
  linked : c.Chain h.Linked

lemma exists_eq_append_singleton (ha : a ∈ c) : ∃ l : List α, c = ↑(l ++ [a]) := by
  induction c using Quotient.inductionOn' with
  | h l =>
    obtain ⟨s, t, rfl⟩ := append_of_mem (Cycle.mem_coe_iff.mp ha)
    refine ⟨t ++ s, Cycle.coe_eq_coe.mpr ?_⟩
    rw [append_assoc, append_cons]
    exact isRotated_append

lemma Ring.chain (r : Ring h ↑(l ++ [p])) : (p :: (l ++ [p])).IsChain h.Linked := by
  have hl := (Cycle.chain_ne_nil h.Linked (by simp)).mp r.linked
  rwa [getLast_append_singleton] at hl

lemma Ring.of_chain (hl : (l ++ [p]).Nodup) (hx : (p :: (l ++ [p])).IsChain h.Linked) :
    Ring h ↑(l ++ [p]) := by
  refine ⟨Cycle.nodup_coe_iff.mpr hl, (Cycle.chain_ne_nil h.Linked (by simp)).mpr ?_⟩
  rwa [getLast_append_singleton]

lemma Ring.exists_linked (r : Ring h c) (ha : a ∈ c) : ∃ b ∈ c, h.Linked a b := by
  obtain ⟨l, rfl⟩ := exists_eq_append_singleton ha
  obtain ⟨f, t, hft⟩ : ∃ f t, l ++ [a] = f :: t := exists_cons_of_ne_nil (by simp)
  have hx := r.chain
  rw [hft] at hx ⊢
  exact ⟨f, mem_cons_self .., (isChain_cons_cons.mp hx).1⟩

lemma Ring.exists_linked_to (r : Ring h c) (ha : a ∈ c) : ∃ b ∈ c, h.Linked b a := by
  obtain ⟨l, rfl⟩ := exists_eq_append_singleton ha
  have hx := r.chain
  rcases eq_nil_or_concat l with rfl | ⟨l, b, rfl⟩
  · exact ⟨a, ha, isChain_pair.mp hx⟩
  · rw [concat_eq_append, append_assoc, singleton_append, ← cons_append] at hx
    refine ⟨b, Cycle.mem_coe_iff.mpr (by simp), (isChain_append_cons_cons.mp hx).2.1⟩

lemma Ring.mem_of_mem (r : Ring h c) (r' : Ring h d) (hc : a ∈ c) (hd : a ∈ d) (hb : b ∈ c) :
    b ∈ d := by
  obtain ⟨l, rfl⟩ := exists_eq_append_singleton hc
  have hx := r.chain
  rw [Cycle.mem_coe_iff] at hb
  clear hc r
  -- the rest of the ring is met from `a` on, link by link
  generalize l ++ [a] = rest at hx hb
  induction rest generalizing a with
  | nil => cases hb
  | cons x l ih =>
    obtain ⟨hax, hx⟩ := isChain_cons_cons.mp hx
    obtain ⟨y, hy, hay⟩ := r'.exists_linked hd
    obtain rfl : x = y := eq_of_link hax.1 hay.1
    rcases mem_cons.mp hb with rfl | hb
    · exact hy
    · exact ih hy hx hb

lemma Ring.head_notMem (r : Ring h ↑(xs ++ [head])) : head ∉ xs := by
  have hnd := Cycle.nodup_coe_iff.mp r.nodup
  intro hm
  exact (nodup_append.mp hnd).2.2 head hm head (mem_singleton_self head) rfl

lemma isChain_of_ends {q : α} {t : List α} (hx : (f :: t).IsChain h.Linked) (hf : f ∉ t)
    (hpq : h.next p = some (some q)) (hq : q ∉ t)
    (next : ∀ b ∈ f :: t, b ≠ p → h'.next b = h.next b)
    (prev : ∀ b ∈ t, b ≠ f → h'.prev b = h.prev b) : (f :: t).IsChain h'.Linked := by
  apply hx.imp_of_mem_tail_imp
  intro a b ha hb hab
  have hap : a ≠ p := by
    rintro rfl
    exact hq (eq_of_link hab.1 hpq ▸ hb)
  have hbf : b ≠ f := fun e => hf (e ▸ hb)
  exact ⟨(next a ha hap).trans hab.1, (prev b hb hbf).trans hab.2⟩

lemma Ring.paste (r : Ring h ↑(ys ++ [p])) (hpg : h.next p = some (some g)) (hnd : xs.Nodup)
    (hdis : ∀ x ∈ xs, ∀ y ∈ ys ++ [p], x ≠ y) (hx : xs.IsChain h'.Linked)
    (hfirst : xs.head? = some f) (hlast : xs.getLast? = some e) (hpf : h'.Linked p f)
    (heg : h'.Linked e g) (next : ∀ b ∈ ys ++ [p], b ≠ p → h'.next b = h.next b)
    (prev : ∀ b ∈ ys ++ [p], b ≠ g → h'.prev b = h.prev b) :
    Ring h' ↑(xs ++ (ys ++ [p])) := by
  obtain ⟨g', u, hgu⟩ : ∃ g u, ys ++ [p] = g :: u := exists_cons_of_ne_nil (by simp)
  have hndy : (ys ++ [p]).Nodup := Cycle.nodup_coe_iff.mp r.nodup
  have hys := r.chain
  rw [hgu, isChain_cons_cons] at hys
  obtain rfl : g' = g := eq_of_link hys.1.1 hpg
  have hgu' : g' ∉ u := (nodup_cons.mp (hgu ▸ hndy)).1
  have hy : (ys ++ [p]).IsChain h'.Linked := by
    rw [hgu] at next prev ⊢
    exact isChain_of_ends hys.2 hgu' hpg hgu' next fun b hb => prev b (.tail _ hb)
  rw [← append_assoc]
  apply Ring.of_chain
  · rw [append_assoc]
    exact nodup_append.mpr ⟨hnd, hndy, hdis⟩
  · rw [append_assoc]
    refine isChain_cons.mpr ⟨?_, isChain_append.mpr ⟨hx, hy, ?_⟩⟩
    · simpa [hfirst] using hpf
    · simpa [hlast, hgu] using heg

variable [DecidableEq α]

lemma Ring.insert (r : Ring h ↑(l ++ [p])) (hpf : h.next p = some (some f)) (hf : f ∈ l ++ [p])
    (he : e ∉ l ++ [p])
    (next : ∀ b : α, h'.next b =
      if b = p then some (some e) else if b = e then some (some f) else h.next b)
    (prev : ∀ b : α, h'.prev b =
      if b = e then some (some p) else if b = f then some (some e) else h.prev b) :
    Ring h' ↑(e :: (l ++ [p])) := by
  have hae : ∀ a ∈ l ++ [p], a ≠ e := fun a ha h => he (h ▸ ha)
  have hpe : p ≠ e := hae p (by simp)
  have hdis : ∀ x ∈ [e], ∀ y ∈ l ++ [p], x ≠ y := by simpa [eq_comm] using hae
  refine r.paste hpf (e := e) (nodup_singleton e) hdis (.singleton e) rfl rfl
    ⟨?_, ?_⟩ ⟨?_, ?_⟩ ?_ ?_
  · rw [next, if_pos rfl]
  · rw [prev, if_pos rfl]
  · rw [next, if_neg hpe.symm, if_pos rfl]
  · rw [prev, if_neg (hae f hf), if_pos rfl]
  · intro b hb hbp
    rw [next, if_neg hbp, if_neg (hae b hb)]
  · intro b hb hbf
    rw [prev, if_neg (hae b hb), if_neg hbf]

lemma Ring.erase (r : Ring h ↑(l ++ [p] ++ [e]))
    (hef : h.next e = some (some f))
    (next : ∀ b : α, h'.next b =
      if b = e then some none else if b = p then some (some f) else h.next b)
    (prev : ∀ b : α, h'.prev b =
      if b = e then some none else if b = f then some (some p) else h.prev b) :
    Ring h' ↑(l ++ [p]) := by
  obtain ⟨g, t, hgt⟩ : ∃ g t, l ++ [p] = g :: t := exists_cons_of_ne_nil (by simp)
  have hnd : (l ++ [p] ++ [e]).Nodup := Cycle.nodup_coe_iff.mp r.nodup
  obtain ⟨hnd, -, hdis⟩ := nodup_append.mp hnd
  have hae : ∀ a ∈ g :: t, a ≠ e := fun a ha => hdis a (hgt ▸ ha) e (mem_singleton_self e)
  have hpe : p ≠ e := hae p (by rw [← hgt]; simp)
  have hx := r.chain
  rw [hgt, cons_append, isChain_cons_cons, ← cons_append, ← hgt,
    append_assoc, singleton_append, isChain_append_cons_cons] at hx
  obtain ⟨heg, hinner, hpe', -⟩ := hx
  obtain rfl : g = f := eq_of_link heg.1 hef
  rw [hgt] at hinner
  have hinner' : (g :: t).IsChain h'.Linked := by
    apply isChain_of_ends hinner (nodup_cons.mp (hgt ▸ hnd)).1 hpe'.1
      fun h => hae e (.tail _ h) rfl
    · intro b hb hbp
      rw [next, if_neg (hae b hb), if_neg hbp]
    · intro b hb hbg
      rw [prev, if_neg (hae b (.tail _ hb)), if_neg hbg]
  refine Ring.of_chain hnd ?_
  rw [hgt]
  refine .cons_cons ⟨?_, ?_⟩ hinner'
  · rw [next, if_neg hpe, if_pos rfl]
  · rw [prev, if_neg (hae g (.head _)), if_pos rfl]

lemma Ring.splice {l : α} (rl : Ring h ↑(xs ++ [l])) (rp : Ring h ↑(ys ++ [p]))
    (hlf : h.next l = some (some f)) (hel : h.prev l = some (some e))
    (hpg : h.next p = some (some g)) (hg : g ∈ ys ++ [p]) (hne : xs ≠ []) (hl : l ∉ ys ++ [p])
    (hdis : ∀ x ∈ xs, x ∉ ys ++ [p])
    (next : ∀ b : α, h'.next b = if b = l then some (some l) else
      if b = e then some (some g) else if b = p then some (some f) else h.next b)
    (prev : ∀ b : α, h'.prev b = if b = l then some (some l) else
      if b = g then some (some e) else if b = f then some (some p) else h.prev b) :
    Ring h' ↑(xs ++ (ys ++ [p])) ∧ Ring h' ↑[l] := by
  obtain ⟨f', t, hft⟩ : ∃ f t, xs = f :: t := exists_cons_of_ne_nil hne
  obtain ⟨s, e', hse⟩ : ∃ s e, xs = s ++ [e] := ⟨_, _, (dropLast_append_getLast hne).symm⟩
  have hxs : (l :: (xs ++ [l])).IsChain h.Linked := rl.chain
  have hlx : l ∉ xs := rl.head_notMem
  have hndx : xs.Nodup := (nodup_append.mp (Cycle.nodup_coe_iff.mp rl.nodup)).1
  obtain rfl : f' = f := by
    rw [hft] at hxs
    exact eq_of_link (isChain_cons_cons.mp hxs).1.1 hlf
  have hfirst : (xs ++ [l]).IsChain h.Linked := (isChain_cons.mp hxs).2
  have hel' : h.Linked e' l := by
    rw [hse, append_assoc] at hfirst
    exact isChain_pair.mp (isChain_append.mp hfirst).2.1
  obtain rfl : e' = e := eq_of_link hel'.2 hel
  have hfx : f' ∈ xs := hft ▸ .head _
  have hex : e' ∈ xs := by simp [hse]
  have hp : p ∈ ys ++ [p] := by simp
  have hxl : ∀ x ∈ xs, x ≠ l := fun x hx he => hlx (he ▸ hx)
  have hyl : ∀ y ∈ ys ++ [p], y ≠ l := fun y hy he => hl (he ▸ hy)
  have hxy : ∀ x ∈ xs, ∀ y ∈ ys ++ [p], x ≠ y := fun x hx y hy he => hdis x hx (he ▸ hy)
  -- inside the piece that moves no link changes
  have hinx : xs.IsChain h'.Linked := by
    rw [hft]
    have hx : (f' :: t).IsChain h.Linked := hft ▸ (isChain_append.mp hfirst).1
    apply isChain_of_ends hx (nodup_cons.mp (hft ▸ hndx)).1 hel'.1
    · exact fun hm => hlx (hft ▸ mem_cons_of_mem _ hm)
    · intro b hb hbe
      rw [← hft] at hb
      rw [next, if_neg (hxl b hb), if_neg hbe, if_neg (hxy b hb p hp)]
    · intro b hb hbf
      have hb : b ∈ xs := hft ▸ mem_cons_of_mem _ hb
      rw [prev, if_neg (hxl b hb), if_neg (hxy b hb g hg), if_neg hbf]
  constructor
  · refine rp.paste hpg hndx hxy hinx (f := f') (e := e') (by simp [hft]) (by simp [hse])
      ⟨?_, ?_⟩ ⟨?_, ?_⟩ ?_ ?_
    · rw [next, if_neg (hyl p hp), if_neg (hxy e' hex p hp).symm, if_pos rfl]
    · rw [prev, if_neg (hxl f' hfx), if_neg (hxy f' hfx g hg), if_pos rfl]
    · rw [next, if_neg (hxl e' hex), if_pos rfl]
    · rw [prev, if_neg (hyl g hg), if_pos rfl]
    · intro b hb hbp
      rw [next, if_neg (hyl b hb), if_neg (hxy e' hex b hb).symm, if_neg hbp]
    · intro b hb hbg
      rw [prev, if_neg (hyl b hb), if_neg hbg, if_neg (hxy f' hfx b hb).symm]
  · refine Ring.of_chain (l := []) (nodup_singleton l) (isChain_pair.mpr ⟨?_, ?_⟩)
    · rw [next, if_pos rfl]
    · rw [prev, if_pos rfl]

variable {follow : Option α → Option (Option α)} {fuel : ℕ}

def walk (follow : Option α → Option (Option α)) (head : α) : ℕ → Option α → Option (List α)
  | 0, _ => none
  | _ + 1, none => none
  | fuel + 1, some pos =>
    if pos = head then some []
    else do return pos :: (← walk follow head fuel (← follow pos))

lemma walk_eq (hf : xs.length < fuel) (hh : head ∉ xs)
    (hx : (xs ++ [head]).IsChain fun a b : α => follow (some a) = some (some b)) :
    walk follow head fuel (xs ++ [head]).head? = some xs := by
  induction xs generalizing fuel with
  | nil =>
    obtain _ | fuel := fuel
    · cases hf
    simp [walk]
  | cons x xs ih =>
    obtain _ | fuel := fuel
    · cases hf
    obtain ⟨y, t, hyt⟩ : ∃ y t, xs ++ [head] = y :: t := exists_cons_of_ne_nil (by simp)
    rw [cons_append, hyt, isChain_cons_cons, ← hyt] at hx
    have hxh : x ≠ head := fun e => hh (e ▸ .head _)
    have hrest := ih (Nat.lt_of_succ_lt_succ hf) (fun h => hh (.tail _ h)) hx.2
    rw [hyt, head?_cons] at hrest
    simp [walk, hxh, hx.1, hrest]

lemma walk_stuck (ha : follow (some a) = some (some a)) (hne : a ≠ head) (fuel : ℕ) :
    walk follow head fuel (some a) = none := by
  induction fuel with
  | zero => rfl
  | succ fuel ih => simp [walk, hne, ha, ih]

lemma walk_null
    (hx : (xs ++ [e]).IsChain fun a b : α => follow (some a) = some (some b))
    (he : follow (some e) = some none) (hh : head ∉ xs ++ [e]) (fuel : ℕ) :
    walk follow head fuel (xs ++ [e]).head? = none := by
  induction xs generalizing fuel with
  | nil =>
    have hne : e ≠ head := by simpa [eq_comm] using hh
    cases fuel with
    | zero => rfl
    | succ fuel => cases fuel <;> simp [walk, hne, he]
  | cons x xs ih =>
    obtain ⟨y, t, hyt⟩ : ∃ y t, xs ++ [e] = y :: t := exists_cons_of_ne_nil (by simp)
    rw [cons_append, hyt, isChain_cons_cons, ← hyt] at hx
    have hxh : x ≠ head := fun e => hh (e ▸ .head _)
    have hrest := ih hx.2 fun h => hh (.tail _ h)
    rw [hyt, head?_cons] at hrest
    cases fuel with
    | zero => rfl
    | succ fuel => simp [walk, hxh, hx.1, hrest]

lemma walk_from_head (hf : xs.length < fuel) (hh : head ∉ xs)
    (hx : (head :: (xs ++ [head])).IsChain fun a b : α => follow (some a) = some (some b)) :
    (follow (some head)).bind (walk follow head fuel) = some xs := by
  obtain ⟨y, t, hyt⟩ : ∃ y t, xs ++ [head] = y :: t := exists_cons_of_ne_nil (by simp)
  have hwalk := walk_eq hf hh (isChain_cons.mp hx).2
  rw [hyt, isChain_cons_cons] at hx
  rw [hyt, head?_cons] at hwalk
  rw [hx.1, bind_some, hwalk]

lemma Ring.walk_next (r : Ring h ↑(xs ++ [head])) (hf : xs.length < fuel) :
    (h.next head).bind (walk h.next head fuel) = some xs :=
  walk_from_head hf r.head_notMem (r.chain.imp fun a b (hab : h.Linked a b) => hab.1)

lemma Ring.walk_prev (r : Ring h ↑(xs ++ [head])) (hf : xs.length < fuel) :
    (h.prev head).bind (walk h.prev head fuel) = some xs.reverse := by
  have hx : (head :: (xs.reverse ++ [head])).IsChain fun a b => h.Linked b a := by
    have hrev : (head :: (xs ++ [head])).reverse.IsChain fun a b => h.Linked b a :=
      isChain_reverse.mpr r.chain
    simpa using hrev
  exact walk_from_head (by simpa using hf)
    (fun hm => r.head_notMem (mem_reverse.mp hm))
    (hx.imp fun a b (hab : h.Linked b a) => hab.2)

end

end LinkRing
