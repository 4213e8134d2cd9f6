import Initng.ListHead
import Mathlib.Data.List.Nodup

/-! `event/hook.c` and `initng/list.h`. -/

namespace Initng

open LinkRing List Option Function

inductive HookAddr
  | head
  | call (addr : ℕ)
  deriving DecidableEq

/-- `s_call`: an entry and the function it points to.  Addresses are given out in the order of
registration. -/
structure SCall (F : Type) where
  addr : ℕ
  pointer : F
  deriving DecidableEq

/-- The list of hooks in memory.  Entries that are not allocated have no links and no
pointer. -/
structure HookDb (F : Type) where
  links : Links HookAddr
  pointer : HookAddr → Option F
  brk : ℕ

inductive HookAct (F : Type)
  | register (hook : F)
  | unregister (hook : F)
  deriving DecidableEq

namespace HookDb

variable {F : Type}

def empty : HookDb F where
  links := fun a => if a = .head then some ⟨some .head, some .head⟩ else none
  pointer := fun _ => none
  brk := 0

def eventHookRegister (hook : F) (db : HookDb F) : Option (HookDb F) := do
  let newCall := HookAddr.call db.brk
  let links ← initngListAdd newCall .head (update db.links newCall (some ⟨none, none⟩))
  return ⟨links, update db.pointer newCall (some hook), db.brk + 1⟩

/-- `initng_event_hook_unregister_real`: the loop stops at the first entry with the pointer. -/
def eventHookUnregister [DecidableEq F] (hook : F) (db : HookDb F) : Option (HookDb F) := do
  match (← initngListForeachRev (db.brk + 1) .head db.links).find?
      fun current => db.pointer current = some hook with
  -- "Could not find event hook to delete"
  | none => return db
  | some current =>
    let links ← initngListDel current db.links
    return ⟨update links current none, update db.pointer current none, db.brk⟩

end HookDb

namespace HookAct

variable {F : Type} [DecidableEq F]

def apply : HookAct F → HookDb F → Option (HookDb F)
  | register hook, db => db.eventHookRegister hook
  | unregister hook, db => db.eventHookUnregister hook

def list : HookAct F → List (SCall F) × ℕ → List (SCall F) × ℕ
  | register hook, (regs, brk) => (regs ++ [⟨brk, hook⟩], brk + 1)
  | unregister hook, (regs, brk) => (regs.eraseP fun c => c.pointer = hook, brk)

end HookAct

structure HookDb.Lists {F : Type} (db : HookDb F) (regs : List (SCall F)) : Prop where
  holds : Holds db.links .head (regs.reverse.map fun c => .call c.addr)
  pointer : ∀ c ∈ regs, db.pointer (.call c.addr) = some c.pointer
  freed : ∀ n, (∀ c ∈ regs, c.addr ≠ n) →
    db.links.prev (HookAddr.call n) = none ∧ db.pointer (.call n) = none
  sorted : regs.Pairwise fun c d => c.addr < d.addr
  lt_brk : ∀ c ∈ regs, c.addr < db.brk

namespace HookDb.Lists

variable {F : Type} {db : HookDb F} {regs : List (SCall F)}

lemma empty : (HookDb.empty : HookDb F).Lists [] where
  holds := Ring.of_chain (nodup_singleton _)
    (isChain_pair.mpr ⟨by simp [HookDb.empty, Links.next], by simp [HookDb.empty, Links.prev]⟩)
  pointer := by simp
  freed n _ := by simp [HookDb.empty, Links.prev]
  sorted := Pairwise.nil
  lt_brk := by simp

lemma nodup (h : db.Lists regs) : (regs.map SCall.addr).Nodup :=
  pairwise_map.mpr (h.sorted.imp Nat.ne_of_lt)

variable {c : SCall F} {l₁ l₂ : List (SCall F)}

lemma addr_inj (h : db.Lists regs) {d : SCall F} (hc : c ∈ regs) (hd : d ∈ regs)
    (haddr : c.addr = d.addr) : c = d :=
  inj_on_of_nodup_map h.nodup hc hd haddr

lemma length_lt (h : db.Lists regs) : regs.length < db.brk + 1 := by
  have hsub : regs.map SCall.addr ⊆ range db.brk := by
    intro n hn
    obtain ⟨c, hc, rfl⟩ := mem_map.mp hn
    exact mem_range.mpr (h.lt_brk c hc)
  have hle := (h.nodup.subperm hsub).length_le
  rw [length_map, length_range] at hle
  omega

lemma prev_split (h : db.Lists (l₁ ++ c :: l₂)) :
    db.links.prev (HookAddr.call c.addr) =
      some (some (l₂.head?.elim .head fun d => .call d.addr)) := by
  have holds : Holds db.links .head ((l₂.reverse.map fun c => .call c.addr) ++
      .call c.addr :: l₁.reverse.map fun c => .call c.addr) := by
    simpa using h.holds
  rw [holds.prev]
  cases l₂ <;> simp

lemma prev (h : db.Lists regs) (hc : c ∈ regs) : db.links.prev (HookAddr.call c.addr) =
      some (some ((regs.find? fun d => c.addr < d.addr).elim .head fun d => .call d.addr)) := by
  obtain ⟨l₁, l₂, rfl⟩ := append_of_mem hc
  obtain ⟨-, hsorted, hbefore⟩ := pairwise_append.mp h.sorted
  obtain ⟨hbehind, -⟩ := pairwise_cons.mp hsorted
  have hfind : ((l₁ ++ c :: l₂).find? fun d => c.addr < d.addr) = l₂.head? := by
    have hskip : l₁.find? (fun d => c.addr < d.addr) = none := by
      rw [find?_eq_none]
      intro d hd
      have hlt := hbefore d hd c (.head _)
      simp only [decide_eq_true_eq]
      omega
    rw [find?_append, hskip, none_or, find?_cons_of_neg (by simp)]
    cases l₂ with
    | nil => rfl
    | cons d l₂ =>
      have hlt := hbehind d (.head _)
      rw [find?_cons_of_pos (by simpa using hlt), head?_cons]
  rw [h.prev_split, hfind]

lemma holds_update {links : Links HookAddr} {n : ℕ}
    (h : Holds links .head (regs.reverse.map fun c => .call c.addr))
    (hn : ∀ c ∈ regs, c.addr ≠ n) (cell : Option (Cell HookAddr)) :
    Holds (update links (.call n) cell) .head (regs.reverse.map fun c => .call c.addr) := by
  apply h.congr
  intro a ha
  have hne : a ≠ .call n := by
    rintro rfl
    simp only [List.mem_append, List.mem_map, List.mem_reverse, HookAddr.call.injEq,
      mem_singleton, reduceCtorEq, or_false] at ha
    obtain ⟨c, hc, haddr⟩ := ha
    exact hn c hc haddr
  simp [next_update, prev_update, hne]

lemma register (h : db.Lists regs) (hook : F) :
    ∃ db', db.eventHookRegister hook = some db' ∧ db'.Lists (regs ++ [⟨db.brk, hook⟩]) ∧
      db'.brk = db.brk + 1 := by
  -- the new entry is allocated first, which no entry of the list notices
  have hnew : ∀ c ∈ regs, c.addr ≠ db.brk := fun c hc => Nat.ne_of_lt (h.lt_brk c hc)
  have halloc := holds_update h.holds hnew (some ⟨none, none⟩)
  obtain ⟨links, hadd, holds, frame⟩ := halloc.add (e := .call db.brk)
    (by simp [next_update]) (by simp [prev_update])
  refine ⟨⟨links, update db.pointer (.call db.brk) (some hook), db.brk + 1⟩, ?_, ?_, rfl⟩
  · simp [eventHookRegister, hadd]
  · refine ⟨by simpa using holds, ?_, ?_, ?_, ?_⟩
    · intro c hc
      rcases mem_append.mp hc with hc | hc
      · have hne : HookAddr.call c.addr ≠ .call db.brk := fun e => hnew c hc (HookAddr.call.inj e)
        simpa [hne] using h.pointer c hc
      · rw [mem_singleton.mp hc]
        simp
    · intro n hn
      have hnb : n ≠ db.brk := fun e => hn _ (mem_append_right _ (.head _)) e.symm
      have hnr : ∀ c ∈ regs, c.addr ≠ n := fun c hc => hn c (mem_append_left _ hc)
      obtain ⟨hlink, hpointer⟩ := h.freed n hnr
      have hframe := (frame (.call n) (by simpa [hnb] using hnr)).2
      exact ⟨by simpa [prev_update, hnb, hlink] using hframe, by simpa [hnb] using hpointer⟩
    · rw [pairwise_append]
      refine ⟨h.sorted, pairwise_singleton .., fun c hc d hd => ?_⟩
      rw [mem_singleton.mp hd]
      exact h.lt_brk c hc
    · intro c hc
      rcases mem_append.mp hc with hc | hc
      · exact Nat.lt_succ_of_lt (h.lt_brk c hc)
      · rw [mem_singleton.mp hc]
        exact Nat.lt_succ_self _

lemma find_eq [DecidableEq F] (hook : F) {l : List (SCall F)}
    (hl : ∀ c ∈ l, db.pointer (.call c.addr) = some c.pointer) :
    ((l.map fun c => HookAddr.call c.addr).find? fun a => db.pointer a = some hook) =
      (l.find? fun c => c.pointer = hook).map fun c => .call c.addr := by
  induction l with
  | nil => rfl
  | cons c l ih =>
    obtain ⟨hc, hl⟩ := forall_mem_cons.mp hl
    rw [map_cons, find?_cons, find?_cons, hc, ih hl]
    by_cases hhook : c.pointer = hook <;> simp [hhook]

lemma erase (h : db.Lists (l₁ ++ c :: l₂)) :
    ∃ db', ((initngListDel (.call c.addr) db.links).map fun links =>
        (⟨update links (.call c.addr) none,
          update db.pointer (.call c.addr) none, db.brk⟩ : HookDb F)) = some db' ∧
      db'.Lists (l₁ ++ l₂) ∧ db'.brk = db.brk := by
  have holds : Holds db.links .head ((l₂.reverse.map fun c => .call c.addr) ++
      .call c.addr :: l₁.reverse.map fun c => .call c.addr) := by
    simpa using h.holds
  obtain ⟨links, hdel, holds', -, -, frame⟩ := holds.del
  have hperm : ∀ d, d ∈ l₁ ++ c :: l₂ ↔ d = c ∨ d ∈ l₁ ++ l₂ := fun d => by
    simp only [mem_append, mem_cons]
    tauto
  -- the other entries have other addresses
  have hother : ∀ d ∈ l₁ ++ l₂, d.addr ≠ c.addr := by
    have hnodup := h.nodup
    rw [map_append, map_cons, nodup_middle, nodup_cons, ← map_append] at hnodup
    exact fun d hd e => hnodup.1 (e ▸ mem_map_of_mem hd)
  rw [hdel]
  refine ⟨_, rfl, ⟨?_, ?_, ?_, ?_, fun d hd => h.lt_brk d ((hperm d).mpr (.inr hd))⟩, rfl⟩
  · have hlist : Holds links .head ((l₁ ++ l₂).reverse.map fun c => .call c.addr) := by
      simpa using holds'
    exact holds_update hlist hother none
  · intro d hd
    have hne : HookAddr.call d.addr ≠ .call c.addr := fun e => hother d hd (HookAddr.call.inj e)
    simpa [hne] using h.pointer d ((hperm d).mpr (.inr hd))
  · intro n hn
    by_cases hnc : n = c.addr
    · subst hnc
      simp [prev_update]
    · have hnr : ∀ d ∈ l₁ ++ c :: l₂, d.addr ≠ n := by
        intro d hd
        rcases (hperm d).mp hd with rfl | hd
        · exact Ne.symm hnc
        · exact hn d hd
      obtain ⟨hlink, hpointer⟩ := h.freed n hnr
      have houtside : HookAddr.call n ∉ HookAddr.head :: ((l₂.reverse.map fun c => .call c.addr) ++
          .call c.addr :: l₁.reverse.map fun c => .call c.addr) := by
        simp only [List.mem_cons, List.mem_append, List.mem_map, List.mem_reverse,
          HookAddr.call.injEq, reduceCtorEq, false_or]
        rintro (⟨d, hd, haddr⟩ | haddr | ⟨d, hd, haddr⟩)
        · exact hn d (mem_append_right _ hd) haddr
        · exact hnc haddr
        · exact hn d (mem_append_left _ hd) haddr
      have hframe := (frame (.call n) houtside).2
      exact ⟨by simpa [prev_update, hnc, hlink] using hframe, by simpa [hnc] using hpointer⟩
  · exact h.sorted.sublist (by simp)

lemma unregister [DecidableEq F] (h : db.Lists regs) (hook : F) :
    ∃ db', db.eventHookUnregister hook = some db' ∧
      db'.Lists (regs.eraseP fun c => c.pointer = hook) ∧ db'.brk = db.brk := by
  have hloop : initngListForeachRev (db.brk + 1) .head db.links =
      some (regs.map fun c => .call c.addr) := by
    have hlen : (regs.reverse.map fun c => HookAddr.call c.addr).length < db.brk + 1 := by
      simpa using h.length_lt
    simpa using h.holds.foreachRev hlen
  have hrun : db.eventHookUnregister hook =
      match regs.find? fun c => c.pointer = hook with
      | none => some db
      | some c => (initngListDel (.call c.addr) db.links).map fun links =>
          ⟨update links (.call c.addr) none, update db.pointer (.call c.addr) none, db.brk⟩ := by
    simp only [eventHookUnregister, hloop, bind_eq_bind, bind_some, find_eq hook h.pointer]
    cases regs.find? fun c => c.pointer = hook with
    | none => rfl
    | some c => simp [map_eq_bind]
  rw [hrun]
  cases hfind : regs.find? fun c => c.pointer = hook with
  | none =>
    have hnone : ∀ c ∈ regs, ¬ decide (c.pointer = hook) = true := find?_eq_none.mp hfind
    rw [eraseP_of_forall_not hnone]
    exact ⟨db, rfl, h, rfl⟩
  | some c =>
    obtain ⟨hhook, l₁, l₂, rfl, hbefore⟩ := find?_eq_some_iff_append.mp hfind
    have herase : (l₁ ++ c :: l₂).eraseP (fun c => c.pointer = hook) = l₁ ++ l₂ := by
      rw [eraseP_append_right _ (by simpa using hbefore), eraseP_cons, hhook]
      rfl
    rw [herase]
    exact h.erase

end HookDb.Lists

end Initng
