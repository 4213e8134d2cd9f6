import Initng.ListHead

namespace Initng

open LinkRing List Function

variable {α : Type} [DecidableEq α]

inductive ListOp (α : Type)
  | init (list : α)
  | add (newe head : α)
  | del (entry : α)
  | move (list head : α)
  | join (list head : α)

def ListOp.apply (h : Links α) : ListOp α → Option (Links α)
  | init list => initngListInit list h
  | add newe head => initngListAdd newe head h
  | del entry => initngListDel entry h
  | move list head => initngListMove list head h
  | join list head => initngListJoin list head h

def runListOps : List (ListOp α) → Links α → Option (Links α)
  | [], h => some h
  | op :: ops, h => do runListOps ops (← op.apply h)

/-- The arguments are heads and nodes where the operation expects them; two heads are joined
only if they differ. -/
def ListOp.Typed (heads nodes : Finset α) : ListOp α → Prop
  | init list => list ∈ heads
  | add newe head => newe ∈ nodes ∧ head ∈ heads
  | del entry => entry ∈ nodes
  | move list head => list ∈ nodes ∧ head ∈ heads
  | join list head => list ∈ heads ∧ head ∈ heads ∧ list ≠ head

abbrev Sequences (α : Type) := α → List α

def Sequences.Linked (heads : Finset α) (s : Sequences α) (e : α) : Prop :=
  ∃ head ∈ heads, e ∈ s head

instance (heads : Finset α) (s : Sequences α) (e : α) : Decidable (s.Linked heads e) :=
  inferInstanceAs (Decidable (∃ head ∈ heads, e ∈ s head))

def Sequences.insert (heads : Finset α) (s : Sequences α) (e head : α) : Sequences α :=
  if s.Linked heads e then s else update s head (e :: s head)

def Sequences.delete (s : Sequences α) (e : α) : Sequences α := fun head => (s head).erase e

def Sequences.splice (s : Sequences α) (list head : α) : Sequences α :=
  update (update s head (s list ++ s head)) list []

def ListOp.effect (heads : Finset α) (s : Sequences α) : ListOp α → Sequences α
  | init _ => s
  | add newe head => s.insert heads newe head
  | del entry => s.delete entry
  | move list head => (s.delete list).insert heads list head
  | join list head => s.splice list head

def ListOp.Fresh (s : Sequences α) : ListOp α → Prop
  | init list => s list = []
  | _ => True

def FreshRun (heads : Finset α) : List (ListOp α) → Sequences α → Prop
  | [], _ => True
  | op :: ops, s => op.Fresh s ∧ FreshRun heads ops (op.effect heads s)

/-- The memory holds these sequences: a ring for each head, no node on two of them, and no
links in the nodes that are on none. -/
structure Shaped (heads nodes : Finset α) (h : Links α) (s : Sequences α) : Prop where
  holds : ∀ head ∈ heads, Holds h head (s head)
  isNode : ∀ head ∈ heads, ∀ e ∈ s head, e ∈ nodes
  apart : ∀ a ∈ heads, ∀ b ∈ heads, ∀ e, e ∈ s a → e ∈ s b → a = b
  unlinked : ∀ e ∈ nodes, ¬ s.Linked heads e → h.next e = some none ∧ h.prev e = some none

structure Zeroed (heads nodes : Finset α) (h : Links α) : Prop where
  head : ∀ head ∈ heads, h head = some ⟨some head, some head⟩
  node : ∀ e ∈ nodes, h e = some ⟨none, none⟩

section
variable {heads nodes : Finset α} {h h' : Links α} {s s' : Sequences α}

omit [DecidableEq α] in
lemma Zeroed.shaped (z : Zeroed heads nodes h) : Shaped heads nodes h fun _ => [] where
  holds head hh := by
    refine Ring.of_chain (nodup_singleton head) (isChain_pair.mpr ⟨?_, ?_⟩)
    · simp [Links.next, z.head head hh]
    · simp [Links.prev, z.head head hh]
  isNode := by simp
  apart := by simp
  unlinked e he _ := by simp [Links.next, Links.prev, z.node e he]

variable {list head a e : α}

lemma Sequences.mem_splice {x : α} (hx : x ∈ s.splice list head a) :
    a ≠ list ∧ (x ∈ s a ∨ a = head ∧ x ∈ s list) := by
  by_cases hal : a = list
  · subst hal
    simp [Sequences.splice] at hx
  refine ⟨hal, ?_⟩
  rw [Sequences.splice, update_of_ne hal] at hx
  by_cases hah : a = head
  · subst hah
    rw [update_self] at hx
    exact (mem_append.mp hx).elim (fun hxl => .inr ⟨rfl, hxl⟩) .inl
  · rw [update_of_ne hah] at hx
    exact .inl hx

lemma Sequences.splice_of_ne (hal : a ≠ list) (hah : a ≠ head) : s.splice list head a = s a := by
  rw [Sequences.splice, update_of_ne hal, update_of_ne hah]

lemma Sequences.splice_head (hne : list ≠ head) : s.splice list head head = s list ++ s head := by
  rw [Sequences.splice, update_of_ne hne.symm, update_self]

variable (sh : Shaped heads nodes h s)
include sh

omit [DecidableEq α] in
lemma Shaped.nodup (hh : head ∈ heads) : (s head).Nodup :=
  (nodup_append.mp (Cycle.nodup_coe_iff.mp (sh.holds head hh).nodup)).1

omit [DecidableEq α] in
lemma Shaped.exists_next (he : s.Linked heads e) : ∃ n, h.next e = some (some n) := by
  obtain ⟨head, hh, hm⟩ := he
  obtain ⟨n, -, hn⟩ := Ring.exists_linked (sh.holds head hh)
    (Cycle.mem_coe_iff.mpr (mem_append_left _ hm))
  exact ⟨n, hn.1⟩

lemma Shaped.add_linked (he : s.Linked heads e) (head : α) : initngListAdd e head h = some h := by
  obtain ⟨head', hh, hm⟩ := he
  obtain ⟨n, hn⟩ := sh.exists_next ⟨head', hh, hm⟩
  obtain ⟨p, -, hp⟩ := Ring.exists_linked_to (sh.holds head' hh)
    (Cycle.mem_coe_iff.mpr (mem_append_left _ hm))
  simp [initngListAdd, hn, hp.2]

lemma Shaped.del_unlinked (he : e ∈ nodes) (hun : ¬ s.Linked heads e) :
    initngListDel e h = some h := by
  obtain ⟨hn, hp⟩ := sh.unlinked e he hun
  simp [initngListDel, hn, hp]

omit [DecidableEq α] in
lemma Shaped.congr (kept : ∀ a ∈ heads, s' a = s a)
    (same : ∀ b : α, h'.next b = h.next b ∧ h'.prev b = h.prev b) : Shaped heads nodes h' s' where
  holds a ha := kept a ha ▸ (sh.holds a ha).congr fun b _ => same b
  isNode a ha := kept a ha ▸ sh.isNode a ha
  apart a ha b hb := kept a ha ▸ kept b hb ▸ sh.apart a ha b hb
  unlinked e he hun := by
    rw [(same e).1, (same e).2]
    exact sh.unlinked e he fun ⟨a, ha, hm⟩ => hun ⟨a, ha, kept a ha ▸ hm⟩

variable (hdis : Disjoint heads nodes)
include hdis

lemma Shaped.relist (changed : α → Prop)
    (holds : ∀ a ∈ heads, changed a → Holds h' a (s' a))
    (kept : ∀ a ∈ heads, ¬ changed a → s' a = s a)
    (isNode : ∀ a ∈ heads, ∀ e ∈ s' a, e ∈ nodes)
    (apart : ∀ a ∈ heads, ∀ b ∈ heads, ∀ e, e ∈ s' a → e ∈ s' b → a = b)
    (dropped : ∀ e ∈ nodes, s.Linked heads e → ¬ s'.Linked heads e →
      h'.next e = some none ∧ h'.prev e = some none)
    (same : ∀ b : α, (∀ a ∈ heads, changed a → b ≠ a ∧ b ∉ s a ∧ b ∉ s' a) →
      h'.next b = h.next b ∧ h'.prev b = h.prev b) :
    Shaped heads nodes h' s' := by
  have hne : ∀ a ∈ heads, ∀ e ∈ nodes, e ≠ a := fun a ha e he heq =>
    Finset.disjoint_left.mp hdis ha (heq ▸ he)
  refine ⟨fun a ha => ?_, isNode, apart, fun e he hun => ?_⟩
  · by_cases hc : changed a
    · exact holds a ha hc
    rw [kept a ha hc]
    refine (sh.holds a ha).congr fun c hm => same c fun b hb hcb => ?_
    have hab : a ≠ b := fun h => hc (h ▸ hcb)
    rcases mem_append.mp hm with hca | hca
    · have hca' : c ∈ s' a := (kept a ha hc).symm ▸ hca
      exact ⟨hne b hb c (sh.isNode a ha c hca), fun hm => hab (sh.apart a ha b hb c hca hm),
        fun hm => hab (apart a ha b hb c hca' hm)⟩
    · obtain rfl : c = a := mem_singleton.mp hca
      exact ⟨hab, fun hm => hne c ha c (sh.isNode b hb c hm) rfl,
        fun hm => hne c ha c (isNode b hb c hm) rfl⟩
  · by_cases hl : s.Linked heads e
    · exact dropped e he hl hun
    have hsame := same e fun a ha _ =>
      ⟨hne a ha e he, fun hm => hl ⟨a, ha, hm⟩, fun hm => hun ⟨a, ha, hm⟩⟩
    rw [hsame.1, hsame.2]
    exact sh.unlinked e he hl

lemma Shaped.add (he : e ∈ nodes) (hh : head ∈ heads) :
    ∃ h', initngListAdd e head h = some h' ∧ Shaped heads nodes h' (s.insert heads e head) := by
  by_cases hl : s.Linked heads e
  · exact ⟨h, sh.add_linked hl head, by rwa [Sequences.insert, if_pos hl]⟩
  obtain ⟨hn, hp⟩ := sh.unlinked e he hl
  obtain ⟨h', eq, hholds, hsame⟩ := (sh.holds head hh).add hn hp
  have hmem : ∀ a x, x ∈ update s head (e :: s head) a → x ∈ s a ∨ x = e ∧ a = head := by
    intro a x hx
    by_cases ha : a = head
    · subst ha
      rw [update_self] at hx
      exact (mem_cons.mp hx).elim (fun hxe => .inr ⟨hxe, rfl⟩) .inl
    · exact .inl (by rwa [update_of_ne ha] at hx)
  refine ⟨h', eq, ?_⟩
  rw [Sequences.insert, if_neg hl]
  refine sh.relist hdis (· = head) ?_ ?_ ?_ ?_ ?_ ?_
  · rintro a - rfl
    simpa using hholds
  · intro a _ ha
    exact update_of_ne ha _ _
  · intro a ha x hx
    rcases hmem a x hx with hx | ⟨rfl, -⟩
    · exact sh.isNode a ha x hx
    · exact he
  · intro a ha b hb x hxa hxb
    rcases hmem a x hxa with hxa | ⟨hxe, hah⟩
    · rcases hmem b x hxb with hxb | ⟨hxe, -⟩
      · exact sh.apart a ha b hb x hxa hxb
      · exact absurd ⟨a, ha, hxe ▸ hxa⟩ hl
    · rcases hmem b x hxb with hxb | ⟨-, hbh⟩
      · exact absurd ⟨b, hb, hxe ▸ hxb⟩ hl
      · exact hah.trans hbh.symm
  · rintro x - ⟨a, ha, hx⟩ hun
    refine absurd ⟨a, ha, ?_⟩ hun
    by_cases hah : a = head
    · subst hah
      simp [hx]
    · simpa [hah] using hx
  · intro b hb
    have := hb head hh rfl
    apply hsame
    simpa using ⟨this.1, by simpa using this.2.2⟩

lemma Shaped.del (he : e ∈ nodes) :
    ∃ h', initngListDel e h = some h' ∧ Shaped heads nodes h' (s.delete e) := by
  have hsub : ∀ a, ∀ x ∈ s.delete e a, x ∈ s a := fun a x hx => mem_of_mem_erase hx
  by_cases hl : s.Linked heads e
  · obtain ⟨head, hh, hm⟩ := hl
    have hnot : ∀ a ∈ heads, a ≠ head → e ∉ s a := fun a ha hah hea =>
      hah (sh.apart a ha head hh e hea hm)
    obtain ⟨xs, ys, hxy⟩ := append_of_mem hm
    have hnd : (xs ++ e :: ys).Nodup := hxy ▸ sh.nodup hh
    have hex : e ∉ xs := fun hex => (nodup_append.mp hnd).2.2 e hex e (.head _) rfl
    have hdel : s.delete e head = xs ++ ys := by
      rw [Sequences.delete, hxy, erase_append_right _ hex, erase_cons_head]
    obtain ⟨h', eq, hholds, hnext, hprev, hsame⟩ := Holds.del (hxy ▸ sh.holds head hh)
    refine ⟨h', eq, sh.relist hdis (· = head) ?_ ?_ ?_ ?_ ?_ ?_⟩
    · rintro a - rfl
      rwa [hdel]
    · intro a ha hah
      exact erase_of_not_mem (hnot a ha hah)
    · exact fun a ha x hx => sh.isNode a ha x (hsub a x hx)
    · exact fun a ha b hb x hxa hxb => sh.apart a ha b hb x (hsub a x hxa) (hsub b x hxb)
    · rintro x - ⟨a, ha, hx⟩ hun
      obtain rfl : x = e := by
        by_contra hxe
        exact hun ⟨a, ha, (mem_erase_of_ne hxe).mpr hx⟩
      exact ⟨hnext, hprev⟩
    · intro b hb
      have hbh := hb head hh rfl
      apply hsame
      rw [← hxy]
      exact fun hm => (mem_cons.mp hm).elim hbh.1 hbh.2.1
  · refine ⟨h, sh.del_unlinked he hl, sh.congr (fun a ha => ?_) fun _ => ⟨rfl, rfl⟩⟩
    exact erase_of_not_mem fun hea => hl ⟨a, ha, hea⟩

lemma Shaped.move (he : e ∈ nodes) (hh : head ∈ heads) :
    ∃ h', initngListMove e head h = some h' ∧
      Shaped heads nodes h' ((s.delete e).insert heads e head) := by
  obtain ⟨h₁, eq₁, sh₁⟩ := sh.del hdis he
  obtain ⟨h₂, eq₂, sh₂⟩ := sh₁.add hdis he hh
  exact ⟨h₂, by simp [initngListMove, eq₁, eq₂], sh₂⟩

lemma Shaped.join (hl : list ∈ heads) (hh : head ∈ heads) (hne : list ≠ head) :
    ∃ h', initngListJoin list head h = some h' ∧ Shaped heads nodes h' (s.splice list head) := by
  have hnode : ∀ a ∈ heads, ∀ b ∈ heads, a ∉ s b := fun a ha b hb hm =>
    Finset.disjoint_left.mp hdis ha (sh.isNode b hb a hm)
  have hl' : list ∉ s head ++ [head] := by
    simpa using ⟨hnode list hl head hh, hne⟩
  have hdisj : ∀ x ∈ s list, x ∉ s head ++ [head] := by
    intro x hx hm
    rcases mem_append.mp hm with hm | hm
    · exact hne (sh.apart list hl head hh x hx hm)
    · exact hnode head hh list hl (mem_singleton.mp hm ▸ hx)
  obtain ⟨h', eq, hjoined, hemptied, hsame⟩ := (sh.holds list hl).join (sh.holds head hh) hl' hdisj
  refine ⟨h', eq, sh.relist hdis (fun a => a = list ∨ a = head) ?_ ?_ ?_ ?_ ?_ ?_⟩
  · rintro a - (rfl | rfl)
    · rwa [Sequences.splice, update_self]
    · rwa [Sequences.splice_head hne]
  · intro a _ ha
    exact Sequences.splice_of_ne (fun h => ha (.inl h)) fun h => ha (.inr h)
  · intro a ha x hx
    rcases (Sequences.mem_splice hx).2 with hx | ⟨-, hx⟩
    · exact sh.isNode a ha x hx
    · exact sh.isNode list hl x hx
  · intro a ha b hb x hxa hxb
    obtain ⟨hal, hxa⟩ := Sequences.mem_splice hxa
    obtain ⟨hbl, hxb⟩ := Sequences.mem_splice hxb
    rcases hxa with hxa | ⟨hah, hxa⟩
    · rcases hxb with hxb | ⟨-, hxb⟩
      · exact sh.apart a ha b hb x hxa hxb
      · exact absurd (sh.apart a ha list hl x hxa hxb) hal
    · rcases hxb with hxb | ⟨hbh, -⟩
      · exact absurd (sh.apart b hb list hl x hxb hxa) hbl
      · exact hah.trans hbh.symm
  · rintro x - ⟨a, ha, hx⟩ hun
    -- every entry is still on a list
    refine absurd ?_ hun
    by_cases hal : a = list
    · subst hal
      exact ⟨head, hh, by simp [Sequences.splice_head hne, hx]⟩
    by_cases hah : a = head
    · subst hah
      exact ⟨a, hh, by simp [Sequences.splice_head hne, hx]⟩
    · exact ⟨a, ha, by rwa [Sequences.splice_of_ne hal hah]⟩
  · intro b hb
    obtain ⟨hbl, hbxl, -⟩ := hb list hl (.inl rfl)
    obtain ⟨hbh, hbxh, -⟩ := hb head hh (.inr rfl)
    apply hsame
    simp only [mem_cons, mem_append, not_or]
    exact ⟨hbl, hbh, hbxl, hbxh⟩

omit hdis in
lemma Shaped.init (hl : list ∈ heads) (hs : s list = []) :
    ∃ h', initngListInit list h = some h' ∧ Shaped heads nodes h' s := by
  have hlist := sh.holds list hl
  rw [hs] at hlist
  have hself : h.Linked list list := isChain_pair.mp (Ring.chain hlist)
  obtain ⟨h', eq, next, prev⟩ := initngListInit_spec hself.1 hself.2
  refine ⟨h', eq, sh.congr (fun _ _ => rfl) fun b => ?_⟩
  rw [next, prev]
  by_cases hb : b = list
  · rw [if_pos hb, if_pos hb, hb]
    exact ⟨hself.1.symm, hself.2.symm⟩
  · rw [if_neg hb, if_neg hb]
    exact ⟨rfl, rfl⟩

lemma Shaped.apply {op : ListOp α} (ht : op.Typed heads nodes) (hf : op.Fresh s) :
    ∃ h', op.apply h = some h' ∧ Shaped heads nodes h' (op.effect heads s) := by
  cases op with
  | init list => exact sh.init ht hf
  | add newe head => exact sh.add hdis ht.1 ht.2
  | del entry => exact sh.del hdis ht
  | move list head => exact sh.move hdis ht.1 ht.2
  | join list head => exact sh.join hdis ht.1 ht.2.1 ht.2.2

def effects (heads : Finset α) (ops : List (ListOp α)) (s : Sequences α) : Sequences α :=
  ops.foldl (fun s op => op.effect heads s) s

lemma Shaped.run {ops : List (ListOp α)} (ht : ∀ op ∈ ops, op.Typed heads nodes)
    (hf : FreshRun heads ops s) :
    ∃ h', runListOps ops h = some h' ∧ Shaped heads nodes h' (effects heads ops s) := by
  induction ops generalizing h s with
  | nil => exact ⟨h, rfl, sh⟩
  | cons op ops ih =>
    obtain ⟨h₁, eq₁, sh₁⟩ := sh.apply hdis (ht op (.head _)) hf.1
    obtain ⟨h₂, eq₂, sh₂⟩ := ih sh₁ (fun o ho => ht o (.tail _ ho)) hf.2
    exact ⟨h₂, by simp [runListOps, eq₁, eq₂], sh₂⟩

omit hdis in
/-- Following `next` and following `prev` from a head visit its sequence in the two orders and
end at the head. -/
lemma Shaped.walks (hh : head ∈ heads) {fuel : ℕ} (hfuel : (s head).length < fuel) :
    initngListForeach fuel head h = some (s head) ∧
      initngListForeachRev fuel head h = some (s head).reverse :=
  ⟨(sh.holds head hh).foreach hfuel, (sh.holds head hh).foreachRev hfuel⟩

omit sh in
/-- Over every sequence of operations the lists keep their shape and hold what the effects of
the operations put on them. -/
theorem listOps_shaped (z : Zeroed heads nodes h)
    {ops : List (ListOp α)} (ht : ∀ op ∈ ops, op.Typed heads nodes)
    (hf : FreshRun heads ops fun _ => []) :
    ∃ h' s, runListOps ops h = some h' ∧ s = effects heads ops (fun _ => []) ∧
      Shaped heads nodes h' s ∧
      (∀ head ∈ heads, ∀ fuel, (s head).length < fuel →
        initngListForeach fuel head h' = some (s head) ∧
          initngListForeachRev fuel head h' = some (s head).reverse) ∧
      (∀ e, s.Linked heads e → ∀ head, initngListAdd e head h' = some h') ∧
      ∀ e ∈ nodes, ¬ s.Linked heads e → initngListDel e h' = some h' := by
  obtain ⟨h', eq, sh⟩ := z.shaped.run hdis ht hf
  refine ⟨h', _, eq, rfl, sh, ?_, ?_, ?_⟩
  · exact fun head hh fuel hfuel => sh.walks hh hfuel
  · exact fun e he head => sh.add_linked he head
  · exact fun e he hun => sh.del_unlinked he hun

end

def twoHeads : Links ℕ := fun a => some (if a < 2 then ⟨some a, some a⟩ else ⟨none, none⟩)

lemma twoHeads_zeroed : Zeroed {0, 1} {2, 3} twoHeads := ⟨by decide, by decide⟩

theorem listOps_shaped_joined :
    (Disjoint ({0, 1} : Finset ℕ) {2, 3} ∧ Zeroed {0, 1} {2, 3} twoHeads) ∧
    ∃ h', runListOps [.add 2 0, .add 3 0, .join 0 1, .init 0, .del 2] twoHeads = some h' ∧
      initngListForeach 3 1 h' = some [3] ∧ initngListForeachRev 3 1 h' = some [3] := by
  have hdis : Disjoint ({0, 1} : Finset ℕ) {2, 3} := by decide
  have htyped : ∀ op ∈ ([.add 2 0, .add 3 0, .join 0 1, .init 0, .del 2] : List (ListOp ℕ)),
      op.Typed {0, 1} {2, 3} := by simp [ListOp.Typed]
  obtain ⟨h', s, eq, hs, -, hwalk, -⟩ := listOps_shaped hdis twoHeads_zeroed htyped
    (by simp [FreshRun, ListOp.Fresh, ListOp.effect, Sequences.splice])
  have hone : s 1 = [3] := by rw [hs]; decide
  have hwalk1 := hwalk 1 (by decide) 3 (by rw [hone]; decide)
  rw [hone] at hwalk1
  exact ⟨⟨hdis, twoHeads_zeroed⟩, h', eq, hwalk1⟩

/-- A head is initialised while a node is on its list: the node keeps its links. -/
theorem listOps_not_always_shaped :
    ¬ ∀ (heads nodes : Finset ℕ) (h : Links ℕ) (ops : List (ListOp ℕ)),
      Disjoint heads nodes → Zeroed heads nodes h → (∀ op ∈ ops, op.Typed heads nodes) →
      ∃ h' s, runListOps ops h = some h' ∧ Shaped heads nodes h' s := by
  intro hall
  obtain ⟨h', s, eq, sh⟩ := hall {0, 1} {2, 3} twoHeads [.add 2 0, .init 0] (by decide)
    twoHeads_zeroed (by simp [ListOp.Typed])
  have hnext : ∀ a, (runListOps [.add 2 0, .init 0] twoHeads).bind (fun h => h.next (some a)) =
      h'.next a := by simp [eq]
  have hempty : ∀ head ∈ ({0, 1} : Finset ℕ), s head = [] := by
    intro head hh
    have hself : h'.next head = some (some head) := by
      rw [← hnext]
      revert head
      decide
    have hwalk := (sh.holds head hh).foreach (Nat.lt_succ_self _)
    simpa [initngListForeach, hself, walk] using hwalk.symm
  have hun : ¬ s.Linked {0, 1} 2 := by
    rintro ⟨head, hh, hm⟩
    simp [hempty head hh] at hm
  have hnull : h'.next (some 2) = some none := (sh.unlinked 2 (by decide) hun).1
  have hlinked : h'.next (some 2) = some (some 0) := by
    rw [← hnext]
    decide
  simp [hlinked] at hnull

end Initng
