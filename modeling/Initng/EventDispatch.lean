import Initng.Event
import Initng.HookList
import Mathlib.Logic.Relation

/-! `event/send.c`. -/

namespace Initng

open LinkRing List Option Relation

def EventStatus.decided : EventStatus → Bool
  | handled | failed => true
  | unknown | waiting => false

abbrev HookFns (F σ : Type) := F → σ → List (HookAct F) × EventStatus × σ

structure SendCall (F : Type) where
  addr : ℕ
  pointer : F
  status : EventStatus
  before : HookDb F
  after : HookDb F

/-- How `initng_event_send` ends: it returns, or it goes through NULL or freed memory, or it has
not ended within the steps it was given. -/
inductive Sent (F σ : Type)
  | returned (status : EventStatus) (log : List (SendCall F)) (db : HookDb F) (user : σ)
  | badAccess
  | outOfFuel

section
variable {F σ : Type} [DecidableEq F] (b : HookFns F σ)

def Sent.logged (call : SendCall F) : Sent F σ → Sent F σ
  | returned status log db user => returned status (call :: log) db user
  | badAccess => badAccess
  | outOfFuel => outOfFuel

def sendFrom : ℕ → Option HookAddr → HookDb F → σ → Sent F σ
  | 0, _, _, _ => .outOfFuel
  | _ + 1, none, _, _ => .badAccess
  | _ + 1, some .head, db, user => .returned .unknown [] db user
  | fuel + 1, some (.call addr), db, user =>
    match db.pointer (.call addr) with
    | none => .badAccess
    | some pointer =>
      match b pointer user with
      | (acts, status, user) =>
        match acts.foldlM (fun db act => act.apply db) db with
        | none => .badAccess
        | some db' =>
          if status.decided then .returned status [⟨addr, pointer, status, db, db'⟩] db' user
          else
            match db'.links.prev (HookAddr.call addr) with
            | none => .badAccess
            | some pos => (sendFrom fuel pos db' user).logged ⟨addr, pointer, status, db, db'⟩

def initngEventSend (fuel : ℕ) (db : HookDb F) (user : σ) : Sent F σ :=
  match db.links.prev HookAddr.head with
  | none => .badAccess
  | some pos => sendFrom b fuel pos db user

end

/-- Only registered hooks are called, none after the event was decided, in the order of their
registration and at most once; and each that was registered before and stays so is called,
unless the event was decided by one registered earlier. -/
structure SentAround {F : Type} (regs : List (SCall F)) (status : EventStatus)
    (log : List (SendCall F)) : Prop where
  registered : ∀ call ∈ log, call.before.pointer (.call call.addr) = some call.pointer
  undecided : ∀ call ∈ log.dropLast, call.status.decided = false
  inOrder : (log.map SendCall.addr).Pairwise (· < ·)
  complete : ∀ c ∈ regs, (∀ call ∈ log, call.after.pointer (.call c.addr) ≠ none) →
    (status = .unknown ∨ ∃ last, log.getLast? = some last ∧ c.addr ≤ last.addr) →
      c.addr ∈ log.map SendCall.addr

structure Visit (F σ : Type) where
  regs : List (SCall F)
  brk : ℕ
  user : σ
  pos : Option (SCall F)

namespace Visit

variable {F σ : Type} [DecidableEq F] (b : HookFns F σ)

def start (regs : List (SCall F)) (brk : ℕ) (user : σ) : Visit F σ := ⟨regs, brk, user, regs.head?⟩

def after (v : Visit F σ) (c : SCall F) : Visit F σ :=
  let r := b c.pointer v.user
  let l := r.1.foldl (fun l act => act.list l) (v.regs, v.brk)
  ⟨l.1, l.2, r.2.2, l.1.find? fun d => c.addr < d.addr⟩

def Open (v : Visit F σ) (c : SCall F) : Prop :=
  v.pos = some c ∧ (b c.pointer v.user).2.1.decided = false

inductive GoesOn : Visit F σ → Visit F σ → Prop
  | call {v : Visit F σ} {c : SCall F} (h : v.Open b c) : GoesOn v (v.after b c)

/-- A hook that leaves the event open leaves its own entry registered, and in the whole loop
hooks are registered only so many times. -/
structure Tolerable (v : Visit F σ) : Prop where
  keepsOwn : ∀ w, ReflTransGen (GoesOn b) v w → ∀ c, w.Open b c → c ∈ (w.after b c).regs
  bounded : ∃ n, ∀ w, ReflTransGen (GoesOn b) v w → w.brk ≤ n

end Visit

section
variable {F : Type} [DecidableEq F]

variable {db : HookDb F} {regs : List (SCall F)}

lemma HookDb.Lists.apply (h : db.Lists regs) (act : HookAct F) : ∃ db', act.apply db = some db' ∧
      db'.Lists (act.list (regs, db.brk)).1 ∧ db'.brk = (act.list (regs, db.brk)).2 := by
  cases act with
  | register hook => exact h.register hook
  | unregister hook => exact h.unregister hook

lemma HookDb.Lists.applyAll (h : db.Lists regs) (acts : List (HookAct F)) :
    ∃ db', acts.foldlM (fun db act => act.apply db) db = some db' ∧
      db'.Lists (acts.foldl (fun l act => act.list l) (regs, db.brk)).1 ∧
      db'.brk = (acts.foldl (fun l act => act.list l) (regs, db.brk)).2 := by
  induction acts generalizing db regs with
  | nil => exact ⟨db, rfl, h, rfl⟩
  | cons act acts ih =>
    obtain ⟨db₁, happly, h₁, hbrk⟩ := h.apply act
    obtain ⟨db', hrest, h', hbrk'⟩ := ih h₁
    rw [hbrk] at h' hbrk'
    exact ⟨db', by simp [foldlM_cons, happly, hrest], h', hbrk'⟩

lemma HookAct.mem_list {acts : List (HookAct F)} {brk : ℕ} {c : SCall F}
    (hc : c ∈ (acts.foldl (fun l act => act.list l) (regs, brk)).1) : c ∈ regs ∨ brk ≤ c.addr := by
  induction acts generalizing regs brk with
  | nil => exact .inl hc
  | cons act acts ih =>
    cases act with
    | register hook =>
      rcases ih hc with hc | hc
      · rcases mem_append.mp hc with hc | hc
        · exact .inl hc
        · rw [mem_singleton.mp hc]
          exact .inr le_rfl
      · exact .inr (by omega)
    | unregister hook =>
      rcases ih hc with hc | hc
      · exact .inl (mem_of_mem_eraseP hc)
      · exact .inr hc

end

structure Visit.Matches {F σ : Type} (v : Visit F σ) (db : HookDb F) (pos : HookAddr) : Prop where
  lists : db.Lists v.regs
  brk : db.brk = v.brk
  pos : pos = v.pos.elim .head fun c => .call c.addr
  mem : ∀ c, v.pos = some c → c ∈ v.regs

section
variable {F σ : Type} [DecidableEq F] {b : HookFns F σ} {v : Visit F σ} {db : HookDb F}
  {pos : HookAddr} {c : SCall F}

lemma sendFrom_call (m : v.Matches db pos) (hpos : v.pos = some c) (fuel : ℕ) :
    ∃ db', db'.Lists (v.after b c).regs ∧
      let call := SendCall.mk c.addr c.pointer (b c.pointer v.user).2.1 db db'
      (call.status.decided = true →
        sendFrom b (fuel + 1) pos db v.user =
          .returned call.status [call] db' (v.after b c).user) ∧
      (call.status.decided = false → c ∈ (v.after b c).regs →
        ∃ pos', (v.after b c).Matches db' pos' ∧ sendFrom b (fuel + 1) pos db v.user =
          (sendFrom b fuel pos' db' (v.after b c).user).logged call) ∧
      (call.status.decided = false → c ∉ (v.after b c).regs →
        sendFrom b (fuel + 1) pos db v.user = .badAccess) := by
  have hmem := m.mem c hpos
  obtain ⟨db', hacts, hlists, hbrk⟩ := m.lists.applyAll (b c.pointer v.user).1
  rw [m.brk] at hlists hbrk
  have hat : pos = .call c.addr := by rw [m.pos, hpos, elim_some]
  refine ⟨db', hlists, fun hdec => ?_, fun hopen hown => ?_, fun hopen hlost => ?_⟩
  · simp only [hat, sendFrom, m.lists.pointer c hmem, hacts]
    rw [if_pos hdec]
    rfl
  · have hprev := HookDb.Lists.prev hlists hown
    refine ⟨_, ⟨hlists, hbrk, rfl, fun d hd => mem_of_find?_eq_some hd⟩, ?_⟩
    simp only [hat, sendFrom, m.lists.pointer c hmem, hacts]
    rw [if_neg (by simpa using hopen), hprev]
    rfl
  · -- no other entry has taken its address
    have hfree : ∀ d ∈ (v.after b c).regs, d.addr ≠ c.addr := by
      intro d hd haddr
      rcases HookAct.mem_list hd with hd' | hd'
      · exact hlost (m.lists.addr_inj hd' hmem haddr ▸ hd)
      · have hlt := m.lists.lt_brk c hmem
        rw [m.brk] at hlt
        omega
    simp only [hat, sendFrom, m.lists.pointer c hmem, hacts]
    rw [if_neg (by simpa using hopen), (hlists.freed c.addr hfree).1]

lemma sendFrom_end (m : v.Matches db pos) (hpos : v.pos = none) (fuel : ℕ) :
    sendFrom b (fuel + 1) pos db v.user = .returned .unknown [] db v.user := by
  rw [m.pos, hpos]
  rfl

lemma sendFrom_returned (m : v.Matches db pos) (hpos : v.pos = some c) {fuel : ℕ}
    {status : EventStatus} {log : List (SendCall F)} {db₁ : HookDb F} {user₁ : σ}
    (h : sendFrom b (fuel + 1) pos db v.user = .returned status log db₁ user₁) :
    ∃ call : SendCall F, call.addr = c.addr ∧ call.pointer = c.pointer ∧ call.before = db ∧
      call.after.Lists (v.after b c).regs ∧
      (call.status.decided = true ∧ ¬ v.Open b c ∧ status = call.status ∧ log = [call] ∨
      call.status.decided = false ∧ v.Open b c ∧ c ∈ (v.after b c).regs ∧
        ∃ pos' log', (v.after b c).Matches call.after pos' ∧ log = call :: log' ∧
          sendFrom b fuel pos' call.after (v.after b c).user =
            .returned status log' db₁ user₁) := by
  obtain ⟨db', hlists, hdecided, hopen, hlost⟩ := sendFrom_call (b := b) m hpos fuel
  refine ⟨⟨c.addr, c.pointer, (b c.pointer v.user).2.1, db, db'⟩, rfl, rfl, rfl, hlists, ?_⟩
  cases hdec : (b c.pointer v.user).2.1.decided with
  | true =>
    left
    rw [hdecided hdec] at h
    cases h
    exact ⟨rfl, fun hopen => by simp [hopen.2] at hdec, rfl, rfl⟩
  | false =>
    right
    by_cases hown : c ∈ (v.after b c).regs
    · obtain ⟨pos', m', hnext⟩ := hopen hdec hown
      rw [hnext] at h
      cases hrest : sendFrom b fuel pos' db' (v.after b c).user with
      | returned status' log' db'' user'' =>
        rw [hrest] at h
        cases h
        exact ⟨rfl, ⟨hpos, hdec⟩, hown, pos', log', m', rfl, hrest⟩
      | badAccess | outOfFuel =>
        rw [hrest] at h
        cases h
    · rw [hlost hdec hown] at h
      cases h

end

namespace Visit

variable {F σ : Type} [DecidableEq F] {b : HookFns F σ} {v w : Visit F σ} {db : HookDb F}
  {pos : HookAddr} {c : SCall F}

lemma reaches_cases (h : ReflTransGen (GoesOn b) v w) :
    w = v ∨ ∃ c, v.Open b c ∧ ReflTransGen (GoesOn b) (v.after b c) w := by
  rcases h.cases_head with rfl | ⟨u, ⟨hopen⟩, hrest⟩
  · exact .inl rfl
  · exact .inr ⟨_, hopen, hrest⟩

omit [DecidableEq F] in
lemma Open.unique {d : SCall F} (hc : v.Open b c) (hd : v.Open b d) : c = d :=
  some.inj (hc.1.symm.trans hd.1)

lemma tolerable_of_end (hend : ∀ c, ¬ v.Open b c) : v.Tolerable b := by
  have hsame : ∀ w, ReflTransGen (GoesOn b) v w → w = v := by
    intro w hw
    rcases reaches_cases hw with h | ⟨c, hopen, -⟩
    · exact h
    · exact absurd hopen (hend c)
  refine ⟨fun w hw c hc => ?_, v.brk, fun w hw => ?_⟩
  · rw [hsame w hw] at hc
    exact absurd hc (hend c)
  · rw [hsame w hw]

lemma Tolerable.call (hopen : v.Open b c) (hown : c ∈ (v.after b c).regs)
    (h : (v.after b c).Tolerable b) : v.Tolerable b := by
  obtain ⟨n, hn⟩ := h.bounded
  refine ⟨fun w hw d hd => ?_, max v.brk n, fun w hw => ?_⟩
  · rcases reaches_cases hw with rfl | ⟨c', hopen', hrest⟩
    · rw [← hopen.unique hd]
      exact hown
    · rw [← hopen.unique hopen'] at hrest
      exact h.keepsOwn w hrest d hd
  · rcases reaches_cases hw with rfl | ⟨c', hopen', hrest⟩
    · exact Nat.le_max_left ..
    · rw [← hopen.unique hopen'] at hrest
      exact le_trans (hn w hrest) (Nat.le_max_right ..)

variable {fuel : ℕ} {status : EventStatus} {log : List (SendCall F)} {db₁ : HookDb F} {user₁ : σ}
  {call : SendCall F}

lemma tolerable_of_returned (m : v.Matches db pos)
    (h : sendFrom b fuel pos db v.user = .returned status log db₁ user₁) : v.Tolerable b := by
  induction fuel generalizing v db pos log with
  | zero => simp [sendFrom] at h
  | succ fuel ih =>
    cases hpos : v.pos with
    | none => exact tolerable_of_end fun c hc => absurd (hpos.symm.trans hc.1) (by simp)
    | some c =>
      obtain ⟨call, -, -, -, -, hcases⟩ := sendFrom_returned m hpos h
      rcases hcases with ⟨-, hdecided, -, -⟩ | ⟨-, hopen, hown, pos', log', m', -, hrest⟩
      · refine tolerable_of_end fun d hd => hdecided ?_
        rw [← some.inj (hpos.symm.trans hd.1)] at hd
        exact hd
      · exact .call hopen hown (ih m' hrest)

lemma exists_returned {n : ℕ}
    (hown : ∀ w, ReflTransGen (GoesOn b) v w → ∀ c, w.Open b c → c ∈ (w.after b c).regs)
    (hn : ∀ w, ReflTransGen (GoesOn b) v w → w.brk ≤ n) (m : v.Matches db pos) (k : ℕ)
    (hk : ∀ c, v.pos = some c → n ≤ k + c.addr) :
    ∃ status log db₁ user₁, sendFrom b (k + 1) pos db v.user = .returned status log db₁ user₁ := by
  induction k generalizing v db pos with
  | zero =>
    cases hpos : v.pos with
    | none => exact ⟨_, _, _, _, sendFrom_end m hpos 0⟩
    | some c =>
      -- the address of a registered hook is below `n`
      have hlt := m.lists.lt_brk c (m.mem c hpos)
      have hle := hn v .refl
      have hge := hk c hpos
      rw [m.brk] at hlt
      omega
  | succ k ih =>
    cases hpos : v.pos with
    | none => exact ⟨_, _, _, _, sendFrom_end m hpos (k + 1)⟩
    | some c =>
      obtain ⟨db', -, hdecided, hopen, -⟩ := sendFrom_call (b := b) m hpos (k + 1)
      cases hdec : (b c.pointer v.user).2.1.decided with
      | true => exact ⟨_, _, _, _, hdecided hdec⟩
      | false =>
        have hstep : GoesOn b v (v.after b c) := .call ⟨hpos, hdec⟩
        obtain ⟨pos', m', hnext⟩ := hopen hdec (hown v .refl c ⟨hpos, hdec⟩)
        obtain ⟨status, log, db₁, user₁, hrest⟩ := ih (fun w hw => hown w (.head hstep hw))
          (fun w hw => hn w (.head hstep hw)) m' (by
            intro d hd
            have hlt : c.addr < d.addr := by simpa using find?_some hd
            have hge := hk c hpos
            omega)
        rw [hnext, hrest]
        exact ⟨status, _, db₁, user₁, rfl⟩

structure SentFrom (v : Visit F σ) (status : EventStatus) (log : List (SendCall F)) : Prop where
  registered : ∀ call ∈ log, call.before.pointer (.call call.addr) = some call.pointer
  undecided : ∀ call ∈ log.dropLast, call.status.decided = false
  inOrder : (log.map SendCall.addr).Pairwise (· < ·)
  behind : ∀ call ∈ log, ∃ c, v.pos = some c ∧ c.addr ≤ call.addr
  complete : ∀ c, v.pos = some c → ∀ d ∈ v.regs, c.addr ≤ d.addr →
    (∀ call ∈ log, call.after.pointer (.call d.addr) ≠ none) →
    (status = .unknown ∨ ∃ last, log.getLast? = some last ∧ d.addr ≤ last.addr) →
      d.addr ∈ log.map SendCall.addr

lemma mem_after (m : v.Matches db pos) {db' : HookDb F} (hlists : db'.Lists (v.after b c).regs)
    {d : SCall F} (hd : d ∈ v.regs) (hstays : db'.pointer (.call d.addr) ≠ none)
    (hlt : c.addr < d.addr) :
    d ∈ (v.after b c).regs ∧ ∃ c', (v.after b c).pos = some c' ∧ c'.addr ≤ d.addr := by
  have hmem : d ∈ (v.after b c).regs := by
    by_contra hnot
    apply hstays
    refine (hlists.freed d.addr fun e he haddr => ?_).2
    rcases HookAct.mem_list he with he' | he'
    · exact hnot (m.lists.addr_inj he' hd haddr ▸ he)
    · have hbrk := m.lists.lt_brk d hd
      rw [m.brk] at hbrk
      omega
  refine ⟨hmem, ?_⟩
  obtain ⟨c', hc'⟩ := isSome_iff_exists.mp
    (find?_isSome.mpr ⟨d, hmem, decide_eq_true hlt⟩ :
      ((v.after b c).regs.find? fun d => c.addr < d.addr).isSome = true)
  refine ⟨c', hc', ?_⟩
  -- the first one that comes behind `c`
  obtain ⟨-, l₁, l₂, hsplit, hbefore⟩ := find?_eq_some_iff_append.mp hc'
  have hsorted := hlists.sorted
  rw [hsplit] at hmem hsorted
  rcases mem_append.mp hmem with hd | hd
  · have hnot := hbefore d hd
    simp [hlt] at hnot
  · rcases mem_cons.mp hd with rfl | hd
    · exact le_rfl
    · obtain ⟨-, hsorted, -⟩ := pairwise_append.mp hsorted
      exact le_of_lt ((pairwise_cons.mp hsorted).1 d hd)

omit [DecidableEq F] in
lemma SentFrom.last (hpos : v.pos = some c) (haddr : call.addr = c.addr)
    (hreg : call.before.pointer (.call call.addr) = some call.pointer)
    (hdec : call.status.decided = true) : v.SentFrom call.status [call] := by
  refine ⟨by simpa using hreg, by simp, by simp, ?_, ?_⟩
  · simpa using ⟨c, hpos, Nat.le_of_eq haddr.symm⟩
  · intro c' hc' d hd hle _ hreach
    obtain rfl := some.inj (hpos.symm.trans hc')
    rcases hreach with hunknown | ⟨last, hlast, hle'⟩
    · rw [hunknown] at hdec
      cases hdec
    · obtain rfl : call = last := by simpa using hlast
      rw [haddr] at hle'
      simp [haddr, le_antisymm hle' hle]

lemma SentFrom.cons (m : v.Matches db pos) (hpos : v.pos = some c) (haddr : call.addr = c.addr)
    (hreg : call.before.pointer (.call call.addr) = some call.pointer)
    (hdec : call.status.decided = false) (hlists : call.after.Lists (v.after b c).regs)
    (hs : (v.after b c).SentFrom status log) : v.SentFrom status (call :: log) := by
  have hlt : ∀ call' ∈ log, call.addr < call'.addr := by
    intro call' hcall'
    obtain ⟨c', hc', hle⟩ := hs.behind call' hcall'
    have hlt : c.addr < c'.addr := by simpa using find?_some hc'
    omega
  refine ⟨forall_mem_cons.mpr ⟨hreg, hs.registered⟩, ?_, ?_,
    forall_mem_cons.mpr ⟨⟨c, hpos, Nat.le_of_eq haddr.symm⟩, ?_⟩, ?_⟩
  · cases log with
    | nil => simp
    | cons call' log => exact forall_mem_cons.mpr ⟨hdec, hs.undecided⟩
  · rw [map_cons, pairwise_cons]
    refine ⟨fun n hn => ?_, hs.inOrder⟩
    obtain ⟨call', hcall', rfl⟩ := mem_map.mp hn
    exact hlt call' hcall'
  · intro call' hcall'
    have hcall := hlt call' hcall'
    exact ⟨c, hpos, by omega⟩
  · intro c' hc' d hd hle hstays hreach
    obtain rfl := some.inj (hpos.symm.trans hc')
    obtain ⟨hstay, hstays⟩ := forall_mem_cons.mp hstays
    rw [map_cons, mem_cons, haddr]
    rcases Nat.eq_or_lt_of_le hle with heq | hlt'
    · exact .inl heq.symm
    · right
      obtain ⟨hd', c', hc', hle'⟩ := mem_after m hlists hd hstay hlt'
      refine hs.complete c' hc' d hd' hle' hstays ?_
      rcases hreach with hunknown | ⟨last, hlast, hlast'⟩
      · exact .inl hunknown
      · cases log with
        | nil =>
          obtain rfl : call = last := by simpa using hlast
          omega
        | cons call' log => exact .inr ⟨last, by simpa using hlast, hlast'⟩

lemma sentFrom_of_returned (m : v.Matches db pos)
    (h : sendFrom b fuel pos db v.user = .returned status log db₁ user₁) :
    v.SentFrom status log := by
  induction fuel generalizing v db pos log with
  | zero => simp [sendFrom] at h
  | succ fuel ih =>
    cases hpos : v.pos with
    | none =>
      rw [sendFrom_end m hpos] at h
      cases h
      exact ⟨by simp, by simp, .nil, by simp, fun c hc => absurd (hpos.symm.trans hc) (by simp)⟩
    | some c =>
      obtain ⟨call, haddr, hpointer, hbefore, hlists, hcases⟩ := sendFrom_returned m hpos h
      have hreg : call.before.pointer (.call call.addr) = some call.pointer := by
        rw [hbefore, haddr, hpointer]
        exact m.lists.pointer c (m.mem c hpos)
      rcases hcases with ⟨hdec, -, rfl, rfl⟩ | ⟨hdec, -, -, pos', log', m', rfl, hrest⟩
      · exact .last hpos haddr hreg hdec
      · exact .cons m hpos haddr hreg hdec hlists (ih m' hrest)

omit [DecidableEq F] in
lemma start_matches {regs : List (SCall F)} (h : db.Lists regs) (user : σ) :
    ∃ pos, (start regs db.brk user).Matches db pos ∧ db.links.prev HookAddr.head = some (some pos) := by
  refine ⟨_, ⟨h, rfl, rfl, fun c hc => mem_of_mem_head? hc⟩, ?_⟩
  rw [h.holds.prev_head]
  cases regs <;> simp [start]

end Visit

section
variable {F σ : Type} [DecidableEq F] {b : HookFns F σ} {db : HookDb F}

lemma sendFrom_eq_eventSend (hkeep : ∀ f user, (b f user).1 = []) {l₁ l₂ : List (SCall F)}
    (h : db.Lists (l₁ ++ l₂)) (user : σ) :
    ∃ log, sendFrom b (l₂.length + 1)
        (some (l₂.head?.elim HookAddr.head fun c => .call c.addr)) db user =
      .returned (eventSend (l₂.map fun c user => (b c.pointer user).2) user).1 log db
        (eventSend (l₂.map fun c user => (b c.pointer user).2) user).2 := by
  induction l₂ generalizing l₁ user with
  | nil => exact ⟨[], rfl⟩
  | cons c l₂ ih =>
    have hpointer := h.pointer c (mem_append_right _ (.head _))
    have hprev := h.prev_split
    have hrest : db.Lists ((l₁ ++ [c]) ++ l₂) := by simpa using h
    rcases hcall : b c.pointer user with ⟨acts, status, user'⟩
    obtain rfl : acts = [] := by simpa [hcall] using hkeep c.pointer user
    obtain ⟨log, hlog⟩ := ih hrest user'
    simp only [head?_cons, elim_some, length_cons, sendFrom, hpointer, hcall,
      List.foldlM_nil, Option.pure_def, hprev, List.map_cons, eventSend]
    cases status with
    | handled | failed => exact ⟨_, rfl⟩
    | unknown | waiting =>
      rw [hlog]
      exact ⟨_, rfl⟩

/-- Where no hook registers or unregisters one, the loop over the list in memory is the walk
`eventSend` over the registered hooks. -/
theorem initngEventSend_eq_eventSend (hkeep : ∀ f user, (b f user).1 = [])
    {regs : List (SCall F)} (h : db.Lists regs) (user : σ) :
    ∃ log, initngEventSend b (regs.length + 1) db user =
      .returned (eventSend (regs.map fun c user => (b c.pointer user).2) user).1 log db
        (eventSend (regs.map fun c user => (b c.pointer user).2) user).2 := by
  have hhead : db.links.prev HookAddr.head =
      some (some (regs.head?.elim .head fun c => .call c.addr)) := by
    rw [h.holds.prev_head]
    cases regs <;> simp
  have hlists : db.Lists ([] ++ regs) := h
  rw [initngEventSend, hhead]
  exact sendFrom_eq_eventSend hkeep hlists user

end

theorem initngEventSend_eq_eventSend_counted :
    ∃ (db : HookDb Bool) (log : _), db.Lists [⟨0, true⟩] ∧
      initngEventSend (fun _ n => ([], .handled, n + 1)) 2 db 0 = .returned .handled log db 1 := by
  obtain ⟨db, -, h, -⟩ := HookDb.Lists.empty.register true
  obtain ⟨log, hlog⟩ := initngEventSend_eq_eventSend (b := fun _ n => ([], .handled, n + 1))
    (fun _ _ => rfl) h 0
  exact ⟨db, log, h, hlog⟩

theorem eventSend_around_iff {F σ : Type} [DecidableEq F] (b : HookFns F σ) (db : HookDb F)
    (regs : List (SCall F)) (user : σ) (h : db.Lists regs) :
    (∃ fuel status log db₁ user₁,
      initngEventSend b fuel db user = .returned status log db₁ user₁ ∧
        SentAround regs status log) ↔ (Visit.start regs db.brk user).Tolerable b := by
  obtain ⟨pos, m, hprev⟩ := Visit.start_matches h user
  have hsend (fuel : ℕ) : initngEventSend b fuel db user = sendFrom b fuel pos db user := by
    rw [initngEventSend, hprev]
  constructor
  · rintro ⟨fuel, status, log, db₁, user₁, hret, -⟩
    rw [hsend] at hret
    exact Visit.tolerable_of_returned m hret
  · rintro ⟨hown, n, hn⟩
    obtain ⟨status, log, db₁, user₁, hret⟩ :=
      Visit.exists_returned hown hn m n fun c _ => Nat.le_add_right ..
    have hs := Visit.sentFrom_of_returned m hret
    refine ⟨n + 1, status, log, db₁, user₁, (hsend _).trans hret,
      hs.registered, hs.undecided, hs.inOrder, fun c hc hstays hreach => ?_⟩
    cases regs with
    | nil => simp at hc
    | cons first rest =>
      -- the loop begins at the hook that was registered first
      have hle : first.addr ≤ c.addr := by
        rcases mem_cons.mp hc with rfl | hc
        · exact Nat.le_refl _
        · exact Nat.le_of_lt ((pairwise_cons.mp h.sorted).1 c hc)
      exact hs.complete first rfl c hc hle hstays hreach

def growingHooks : HookFns Bool Unit
  | false, _ => ([.register true], .waiting, ())
  | true, _ => ([], .handled, ())

theorem eventSend_around_iff_growing :
    ∃ db : HookDb Bool, db.Lists [⟨0, false⟩] ∧ ∃ fuel status log db₁ user₁,
      initngEventSend growingHooks fuel db () = .returned status log db₁ user₁ ∧
        SentAround [⟨0, false⟩] status log := by
  obtain ⟨db, -, h, hbrk⟩ := HookDb.Lists.empty.register false
  refine ⟨db, h, (eventSend_around_iff growingHooks db _ () h).mpr ?_⟩
  rw [hbrk]
  refine .call (c := ⟨0, false⟩) ⟨rfl, rfl⟩ (by decide) (Visit.tolerable_of_end ?_)
  rintro c ⟨hpos, hopen⟩
  obtain rfl : ⟨1, true⟩ = c := some.inj hpos
  exact absurd hopen (by decide)

/-- `interactive_STARTING` when the answer is that all services shall be started, and another
hook behind it. -/
def interactiveHooks : HookFns Bool Unit
  | false, _ => ([.unregister false], .waiting, ())
  | true, _ => ([], .waiting, ())

theorem eventSend_own_entry_freed :
    ¬ ∀ (F σ : Type) [DecidableEq F] (b : HookFns F σ) (db : HookDb F) (regs : List (SCall F))
      (user : σ), db.Lists regs → ∃ fuel status log db₁ user₁,
        initngEventSend b fuel db user = .returned status log db₁ user₁ ∧
          SentAround regs status log := by
  intro hall
  obtain ⟨db₀, -, h₀, hbrk₀⟩ := HookDb.Lists.empty.register false
  obtain ⟨db, -, h, hbrk⟩ := h₀.register true
  obtain ⟨fuel, status, log, db₁, user₁, hret, -⟩ := hall Bool Unit interactiveHooks db _ () h
  obtain ⟨pos, m, hprev⟩ := Visit.start_matches h ()
  rw [initngEventSend, hprev] at hret
  have htol := Visit.tolerable_of_returned m hret
  rw [hbrk, hbrk₀] at htol
  exact absurd (htol.keepsOwn _ .refl ⟨0, false⟩ ⟨rfl, rfl⟩) (by decide)

end Initng
