import Initng.Interrupt
import Initng.ListCursor
import Initng.ListHead

namespace Initng

open LinkRing List

inductive ListAddr
  | head
  | entry (s : Sid)
  deriving DecidableEq

/-- The ring behind a list of services: its entries are these, the oldest last, and the
links of all other services are NULL. -/
structure Represents (h : Links ListAddr) (l : List Sid) : Prop where
  holds : Holds h .head (l.reverse.map .entry)
  free : ∀ s ∉ l, h.next (ListAddr.entry s) = some none ∧ h.prev (ListAddr.entry s) = some none

section
variable {h : Links ListAddr} {l : List Sid} {s : Sid}

variable (r : Represents h l)
include r

lemma Represents.nodup : l.Nodup := by
  have hnd := Cycle.nodup_coe_iff.mp (Ring.nodup r.holds)
  have hl := (nodup_append.mp hnd).1
  exact nodup_reverse.mp (Nodup.of_map _ hl)

lemma Represents.split (hs : s ∈ l) : ∃ xs ys, l = xs ++ s :: ys ∧ s ∉ xs ∧ s ∉ ys := by
  obtain ⟨xs, ys, hl, hsx, hys⟩ := ListCursor.exists_split hs r.nodup
  exact ⟨xs, ys, hl, hsx, fun hsy => hys s hsy (by simp)⟩

lemma Represents.length_lt {n : ℕ} (hlt : ∀ s ∈ l, s < n) : l.length < n + 1 := by
  have hsub : l ⊆ range n := fun s hs => mem_range.mpr (hlt s hs)
  have hle := (subperm_of_subset r.nodup hsub).length_le
  rw [length_range] at hle
  omega

lemma Represents.isempty : initngListIsempty .head h = some l.isEmpty := by
  have hx := Ring.chain r.holds
  rcases eq_nil_or_concat l with rfl | ⟨l, s, rfl⟩
  · have hlink : h.Linked .head .head := by simpa using hx
    simp [initngListIsempty, hlink.1]
  · have hlink : h.Linked .head (.entry s) := by
      simp only [concat_eq_append, reverse_append, reverse_singleton, map_cons, cons_append] at hx
      exact (isChain_cons_cons.mp hx).1
    simp [initngListIsempty, hlink.1]

lemma Represents.add (hs : s ∉ l) :
    ∃ h', initngListAdd (.entry s) .head h = some h' ∧ Represents h' (l ++ [s]) := by
  obtain ⟨hn, hp⟩ := r.free s hs
  obtain ⟨h', eq, holds, frame⟩ := r.holds.add hn hp
  refine ⟨h', eq, by simpa using holds, fun t ht => ?_⟩
  obtain ⟨htl, hts⟩ : t ∉ l ∧ t ≠ s := by simpa using ht
  obtain ⟨hn', hp'⟩ := frame (.entry t) (by simpa [hts] using htl)
  rw [hn', hp']
  exact r.free t htl

lemma Represents.add_mem (hs : s ∈ l) : initngListAdd (.entry s) .head h = some h := by
  have hc : ListAddr.entry s ∈ (↑(l.reverse.map ListAddr.entry ++ [ListAddr.head]) : Cycle ListAddr) :=
    Cycle.mem_coe_iff.mpr (by simpa using hs)
  obtain ⟨b, -, hb⟩ := Ring.exists_linked r.holds hc
  obtain ⟨b', -, hb'⟩ := Ring.exists_linked_to r.holds hc
  simp [initngListAdd, hb.1, hb'.2]

lemma Represents.del (s : Sid) :
    ∃ h', initngListDel (.entry s) h = some h' ∧ Represents h' (l.filter (· ≠ s)) := by
  by_cases hs : s ∈ l
  · obtain ⟨xs, ys, rfl, hsx, hsy⟩ := r.split hs
    have hfilter := ListCursor.filter_ne_append hsx hsy
    have holds : Holds h .head (ys.reverse.map .entry ++ .entry s :: xs.reverse.map .entry) := by
      simpa using r.holds
    obtain ⟨h', eq, holds', hn, hp, frame⟩ := holds.del
    rw [hfilter]
    refine ⟨h', eq, by simpa using holds', fun t ht => ?_⟩
    by_cases hts : t = s
    · rw [hts]
      exact ⟨hn, hp⟩
    · have htl : t ∉ xs ++ s :: ys := by simpa [hts] using ht
      obtain ⟨hn', hp'⟩ := frame (.entry t) (by simpa [and_comm, hts] using htl)
      rw [hn', hp']
      exact r.free t htl
  · have hfilter : l.filter (· ≠ s) = l := filter_eq_self.mpr (ListCursor.all_ne hs)
    obtain ⟨hn, hp⟩ := r.free s hs
    exact ⟨h, by simp [initngListDel, hn, hp], by rwa [hfilter]⟩

lemma Represents.foreachRev {fuel : ℕ} (hf : l.length < fuel) :
    initngListForeachRev fuel .head h = some (l.map .entry) := by
  have hlen : (l.reverse.map ListAddr.entry).length < fuel := by simpa using hf
  simpa using r.holds.foreachRev hlen

lemma Represents.prev (hs : s ∈ l) :
    h.prev (ListAddr.entry s) = some (some ((interruptAfter l s).elim .head .entry)) := by
  obtain ⟨xs, ys, rfl, hsx, -⟩ := r.split hs
  have hafter : interruptAfter (xs ++ s :: ys) s = ys.head? := ListCursor.next_append hsx
  have holds : Holds h .head (ys.reverse.map .entry ++ .entry s :: xs.reverse.map .entry) := by
    simpa using r.holds
  rw [holds.prev, hafter]
  cases ys with
  | nil => rfl
  | cons y ys => simp

end

section
variable {σ : Type} {links : σ → Links ListAddr} {body : ListAddr → σ → Option σ}
  {P : List Sid → List Sid → σ → Prop}

def position (todo : List Sid) : ListAddr := todo.head?.elim .head .entry

variable {h : Links ListAddr} {kept : List Sid}

lemma Represents.prev_head {l : List Sid} (r : Represents h l) :
    h.prev ListAddr.head = some (some (position l)) := by
  rw [r.holds.prev_head, getLast?_map, getLast?_reverse, position]
  cases l.head? <;> rfl

variable {todo : List Sid}

lemma Represents.prev_position (r : Represents h (kept ++ todo)) :
    ∃ n, h.prev (position todo) = some n := by
  cases todo with
  | nil => exact ⟨_, r.prev_head⟩
  | cons m todo => exact ⟨_, r.prev (by simp)⟩

lemma Represents.prev_entry {m : Sid} (r : Represents h (kept ++ m :: todo)) :
    h.prev (ListAddr.entry m) = some (some (position todo)) := by
  have hm : m ∉ kept := fun hk =>
    (nodup_append.mp r.nodup).2.2 m hk m (.head _) rfl
  have hafter : interruptAfter (kept ++ m :: todo) m = todo.head? := ListCursor.next_append hm
  rw [r.prev (by simp), hafter, position]

variable (hlinks : ∀ kept todo s, P kept todo s → Represents (links s) (kept ++ todo))
  (hbody : ∀ kept m todo s, P kept (m :: todo) s →
    ∃ s', body (.entry m) s = some s' ∧ (P (kept ++ [m]) todo s' ∨ P kept todo s'))
include hlinks hbody

lemma foreachRevSafe_turns : ∀ {kept : List Sid} {s : σ} {n : Option ListAddr} {fuel : ℕ},
    P kept todo s → (links s).prev (position todo) = some n → todo.length < fuel →
      ∃ kept' s', foreachRevSafe links body .head fuel (position todo) n s = some s' ∧
        P kept' [] s' := by
  induction todo with
  | nil =>
    intro kept s n fuel h hn hf
    obtain _ | fuel := fuel
    · cases hf
    exact ⟨kept, s, by simp [foreachRevSafe, position], h⟩
  | cons m todo ih =>
    intro kept s n fuel h hn hf
    obtain _ | fuel := fuel
    · cases hf
    have hn' : n = some (position todo) := by
      have hm := (hlinks _ _ _ h).prev_entry
      rw [position, head?_cons, Option.elim_some, hm] at hn
      exact (Option.some.inj hn).symm
    subst hn'
    obtain ⟨s', hb, hP⟩ := hbody _ _ _ _ h
    -- the entry is kept or has been taken out
    obtain ⟨kept', hk⟩ : ∃ kept', P kept' todo s' := by
      rcases hP with hk | hk <;> exact ⟨_, hk⟩
    obtain ⟨n', hn'⟩ := (hlinks _ _ _ hk).prev_position
    obtain ⟨kept'', s'', hrun, hend⟩ := ih hk hn' (Nat.lt_of_succ_lt_succ hf)
    refine ⟨kept'', s'', ?_, hend⟩
    have hpos : position (m :: todo) = .entry m := rfl
    rw [hpos, foreachRevSafe, if_neg (by simp)]
    simpa [hb, hn'] using hrun

/-- What a loop keeps whose body leaves the entry it is run on or takes it out: `P` speaks of
the entries that were kept, of those still to come and of the state. -/
lemma foreachRevSafe_invariant {s : σ} {fuel : ℕ} (h : P [] todo s) (hf : todo.length < fuel) :
    ∃ kept s', initngListForeachRevSafe links body fuel .head s = some s' ∧ P kept [] s' := by
  have r : Represents (links s) ([] ++ todo) := hlinks [] todo s h
  obtain ⟨n, hn⟩ := r.prev_position
  obtain ⟨kept, s', hrun, hend⟩ := foreachRevSafe_turns hlinks hbody h hn hf
  refine ⟨kept, s', ?_, hend⟩
  have hhead : (links s).prev ListAddr.head = some (some (position todo)) := r.prev_head
  simpa [initngListForeachRevSafe, hhead, hn] using hrun

end

section
variable {h : Links ListAddr} {g : G}

lemma Represents.setInterrupt (r : Represents h g.interrupt) (s : Sid) :
    ∃ h', initngListAdd (.entry s) .head h = some h' ∧
      Represents h' (setInterrupt s g).interrupt := by
  unfold Initng.setInterrupt
  split_ifs with hs
  · exact ⟨h, r.add_mem hs, r⟩
  · exact r.add hs

lemma Represents.clearInterrupt (r : Represents h g.interrupt) (s : Sid) :
    ∃ h', initngListDel (.entry s) h = some h' ∧
      Represents h' (clearInterrupt s g).interrupt :=
  r.del s

end

end Initng
