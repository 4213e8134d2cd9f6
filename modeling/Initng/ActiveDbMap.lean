import Initng.ListOrder

namespace Initng

open LinkRing List Option

/-- The services, the ring `active_db.list`, the ring `active_db.interrupt`, and the services
whose memory was given back. -/
structure LinkedDb where
  g : G
  list : Links ListAddr
  interrupt : Links ListAddr
  freed : List Sid

def LinkedDb.Live (c : LinkedDb) (s : Sid) : Prop := s < c.g.brk ∧ s ∉ c.freed

instance (c : LinkedDb) (s : Sid) : Decidable (c.Live s) :=
  inferInstanceAs (Decidable (s < c.g.brk ∧ s ∉ c.freed))

def nameMatches (g : G) (service : String) : ListAddr → Option Sid
  | .head => none
  | .entry current =>
    if (g.svc current).nameHash = hashStr service ∧ (g.svc current).name = service then
      some current
    else none

namespace LinkedDb

/-- `initng_active_db_find_by_name`; no ring has more entries than services were made. -/
def findByName (service : String) (c : LinkedDb) : Option (Option Sid) :=
  (initngListForeachRev (c.g.brk + 1) .head c.list).map fun entries =>
    entries.findSome? (nameMatches c.g service)

def new (name : String) (c : LinkedDb) : LinkedDb := { c with g := (activeDbNew name c.g).2 }

def register (addThis : Sid) (c : LinkedDb) : Option (Bool × LinkedDb) := do
  match ← c.findByName (c.g.svc addThis).name with
  | some _ => return (false, c)
  | none =>
    let list ← initngListAdd (.entry addThis) .head c.list
    return (true, { c with g := (activeDbRegister addThis c.g).2, list := list })

/-- `initng_common_mark_service`: a service that enters a state is added to the ring. -/
def mark (s : Sid) (state : AState) (c : LinkedDb) : Option LinkedDb := do
  let g := (commonMarkService s state c.g).2
  if (c.g.svc s).stateLock = 0 ∧ (c.g.svc s).currentState ≠ state then
    let interrupt ← initngListAdd (.entry s) .head c.interrupt
    return { c with g := g, interrupt := interrupt }
  else return { c with g := g }

def unlock (s : Sid) (c : LinkedDb) : Option LinkedDb := do
  let u := commonStateUnlock s c.g
  if u.1 then
    let interrupt ← initngListAdd (.entry s) .head c.interrupt
    return { c with g := u.2, interrupt := interrupt }
  else return { c with g := u.2 }

def handled (s : Sid) (c : LinkedDb) : Option LinkedDb := do
  let interrupt ← initngListDel (.entry s) c.interrupt
  return { c with g := clearInterrupt s c.g, interrupt := interrupt }

def free (pf : Sid) (c : LinkedDb) : Option LinkedDb := do
  let marked ← c.mark pf .freeing
  let list ← initngListDel (.entry pf) marked.list
  let interrupt ← initngListDel (.entry pf) marked.interrupt
  return ⟨activeDbFree pf c.g, list, interrupt, pf :: c.freed⟩

def start (now : Timeval) : Option LinkedDb := do
  let ring ← initngListInit .head fun _ => some ⟨none, none⟩
  return ⟨configGlobalNew now, ring, ring, []⟩

end LinkedDb

inductive DbCall
  | new (name : String)
  | register (s : Sid)
  | free (s : Sid)
  | mark (s : Sid) (state : AState)
  | lock (s : Sid)
  | unlock (s : Sid)
  | handled (s : Sid)

/-- Calls are made with services that are still there. -/
def DbCall.apply (c : LinkedDb) : DbCall → Option LinkedDb
  | new name => some (c.new name)
  | register s => if c.Live s then (c.register s).map Prod.snd else some c
  | free s => if c.Live s then c.free s else some c
  | mark s state => if c.Live s then c.mark s state else some c
  | lock s => some { c with g := commonStateLock s c.g }
  | unlock s => if c.Live s then c.unlock s else some c
  | handled s => c.handled s

/-- The rings hold the services in walking order, every registered service has memory, and no
two have the same name. -/
structure LinkedDb.Ok (c : LinkedDb) : Prop where
  list : Represents c.list c.g.activeDb
  interrupt : Represents c.interrupt c.g.interrupt
  allocated : ∀ s ∈ c.g.activeDb, s < c.g.brk
  unique : ∀ s ∈ c.g.activeDb, ∀ t ∈ c.g.activeDb, (c.g.svc s).name = (c.g.svc t).name → s = t

section
variable {c : LinkedDb} {s : Sid}

lemma LinkedDb.Ok.length_lt (h : c.Ok) : c.g.activeDb.length < c.g.brk + 1 := by
  have hsub : c.g.activeDb ⊆ range c.g.brk := fun s hs => mem_range.mpr (h.allocated s hs)
  have hlen := (subperm_of_subset h.list.nodup hsub).length_le
  rw [length_range] at hlen
  exact Nat.lt_succ_of_le hlen

lemma findSome_nameMatches (g : G) (service : String) (l : List Sid) :
    (l.map ListAddr.entry).findSome? (nameMatches g service) =
      l.find? fun current =>
        (g.svc current).nameHash = hashStr service ∧ (g.svc current).name = service := by
  induction l with
  | nil => rfl
  | cons current rest ih =>
    simp only [map_cons, findSome?_cons, find?_cons, nameMatches]
    by_cases hm : (g.svc current).nameHash = hashStr service ∧ (g.svc current).name = service
    · simp [hm]
    · simp only [if_neg hm, ih, decide_eq_false hm]

lemma LinkedDb.Ok.findByName (h : c.Ok) (service : String) :
    c.findByName service = some (activeDbFindByName c.g service) := by
  rw [LinkedDb.findByName, h.list.foreachRev h.length_lt, map_some, findSome_nameMatches]
  rfl

lemma LinkedDb.Ok.find_iff (h : c.Ok) (service : String) (s : Sid) :
    activeDbFindByName c.g service = some s ↔ s ∈ c.g.activeDb ∧ (c.g.svc s).name = service := by
  refine ⟨activeDbFindByName_mem, fun ⟨hs, hname⟩ => ?_⟩
  obtain ⟨t, ht⟩ := isSome_iff_exists.mp (activeDbFindByName_isSome hs)
  rw [hname] at ht
  obtain ⟨hmem, hname'⟩ := activeDbFindByName_mem ht
  rw [ht, h.unique t hmem s hs (hname'.trans hname.symm)]

lemma LinkedDb.Ok.find_none_iff (h : c.Ok) (service : String) :
    activeDbFindByName c.g service = none ↔ ∀ s ∈ c.g.activeDb, (c.g.svc s).name ≠ service := by
  constructor
  · intro hnone s hs hname
    rw [(h.find_iff service s).mpr ⟨hs, hname⟩] at hnone
    cases hnone
  · intro hall
    cases hfind : activeDbFindByName c.g service with
    | none => rfl
    | some s =>
      obtain ⟨hs, hname⟩ := activeDbFindByName_mem hfind
      exact absurd hname (hall s hs)

lemma LinkedDb.Ok.frame (h : c.Ok) {g : G} {interrupt : Links ListAddr}
    (hdb : g.activeDb = c.g.activeDb) (hbrk : g.brk = c.g.brk)
    (hname : ∀ t, (g.svc t).name = (c.g.svc t).name) (hint : Represents interrupt g.interrupt) :
    LinkedDb.Ok { c with g := g, interrupt := interrupt } where
  list := hdb ▸ h.list
  interrupt := hint
  allocated := by
    dsimp only
    rw [hdb, hbrk]
    exact h.allocated
  unique := by
    dsimp only
    simp only [hdb, hname]
    exact h.unique

lemma LinkedDb.Ok.new (h : c.Ok) (name : String) : (c.new name).Ok where
  list := h.list
  interrupt := h.interrupt
  allocated s hs := Nat.lt_succ_of_lt (h.allocated s hs)
  unique := by
    have hold (s : Sid) (hs : s ∈ c.g.activeDb) : (c.new name).g.svc s = c.g.svc s := by
      simp [LinkedDb.new, activeDbNew, Nat.ne_of_lt (h.allocated s hs)]
    intro s hs t ht
    rw [hold s hs, hold t ht]
    exact h.unique s hs t ht

lemma LinkedDb.Ok.register (h : c.Ok) (hs : c.Live s) :
    (∃ t ∈ c.g.activeDb, (c.g.svc t).name = (c.g.svc s).name) ∧
        c.register s = some (false, c) ∨
      (∀ t ∈ c.g.activeDb, (c.g.svc t).name ≠ (c.g.svc s).name) ∧
        ∃ c', c.register s = some (true, c') ∧ c'.Ok ∧
          c'.g.activeDb = c.g.activeDb ++ [s] ∧ c'.g.interrupt = c.g.interrupt ∧
          c'.g.svc = c.g.svc := by
  cases hfind : activeDbFindByName c.g (c.g.svc s).name with
  | some t =>
    obtain ⟨ht, hname⟩ := activeDbFindByName_mem hfind
    exact .inl ⟨⟨t, ht, hname⟩, by simp [LinkedDb.register, h.findByName, hfind]⟩
  | none =>
    have hfree := (h.find_none_iff _).mp hfind
    have hnot : s ∉ c.g.activeDb := fun hmem => hfree s hmem rfl
    obtain ⟨list', hadd, hrep⟩ := h.list.add hnot
    have hreg : (activeDbRegister s c.g).2 =
        { c.g with activeDb := c.g.activeDb ++ [s] }.observe (.registered s (getState c.g s)) := by
      simp [activeDbRegister, hfind]
    refine .inr ⟨hfree, { c with g := (activeDbRegister s c.g).2, list := list' },
      by simp [LinkedDb.register, h.findByName, hfind, hadd], ⟨?_, ?_, ?_, ?_⟩, ?_, ?_, ?_⟩
    · simpa [hreg] using hrep
    · simpa [hreg] using h.interrupt
    · simpa [hreg, or_imp, forall_and] using ⟨h.allocated, hs.1⟩
    · simp only [hreg, G.observe_activeDb, G.observe_svc, mem_append, mem_singleton]
      rintro x (hx | rfl) y (hy | rfl) hname
      · exact h.unique x hx y hy hname
      · exact absurd hname (hfree x hx)
      · exact absurd hname.symm (hfree y hy)
      · rfl
    all_goals simp [hreg]

lemma commonMarkService_interrupt (g : G) (s : Sid) (state : AState) :
    (commonMarkService s state g).2.interrupt =
      if (g.svc s).stateLock = 0 ∧ (g.svc s).currentState ≠ state then
        (setInterrupt s g).interrupt
      else g.interrupt := by
  split
  next henter =>
    rw [commonMarkService_unlocked g s state henter.1 henter.2]
    unfold setInterrupt
    split
    next hs => rw [if_pos (show s ∈ g.interrupt from hs), G.modify_interrupt]
    next hs => rw [if_neg (show s ∉ g.interrupt from hs), G.modify_interrupt]
  next henter =>
    unfold commonMarkService
    split
    · rfl
    next hopen =>
      split
      · rfl
      next hc =>
        have hlock : ¬ (g.svc s).stateLock = 0 := fun h0 => henter ⟨h0, hc⟩
        simp [hlock]

lemma LinkedDb.Ok.mark (h : c.Ok) (s : Sid) (state : AState) :
    ∃ c', c.mark s state = some c' ∧ c'.Ok ∧ c'.list = c.list ∧ c'.freed = c.freed ∧
      c'.g = (commonMarkService s state c.g).2 := by
  have hframe {interrupt : Links ListAddr}
      (hint : Represents interrupt (commonMarkService s state c.g).2.interrupt) :=
    h.frame (commonMarkService_activeDb ..) (commonMarkService_brk ..)
      (OwnChange.mark state).svc_name hint
  rw [commonMarkService_interrupt] at hframe
  unfold LinkedDb.mark
  dsimp only
  split
  next henter =>
    rw [if_pos henter] at hframe
    obtain ⟨interrupt', hadd, hrep⟩ := h.interrupt.setInterrupt s
    exact ⟨_, by simp only [hadd, bind_eq_bind, bind_some]; rfl, hframe hrep, rfl, rfl, rfl⟩
  next henter =>
    rw [if_neg henter] at hframe
    exact ⟨_, rfl, hframe h.interrupt, rfl, rfl, rfl⟩

lemma commonStateUnlock_interrupt (g : G) (s : Sid) :
    (commonStateUnlock s g).2.interrupt =
      if (commonStateUnlock s g).1 then (setInterrupt s g).interrupt else g.interrupt := by
  unfold commonStateUnlock
  dsimp only
  split
  · rfl
  split
  · rfl
  · unfold setInterrupt
    split
    next hs => rw [if_pos (show s ∈ g.interrupt from hs)]; rfl
    next hs => rw [if_neg (show s ∉ g.interrupt from hs)]; rfl

lemma LinkedDb.Ok.unlock (h : c.Ok) (s : Sid) : ∃ c', c.unlock s = some c' ∧ c'.Ok := by
  have hframe {interrupt : Links ListAddr}
      (hint : Represents interrupt (commonStateUnlock s c.g).2.interrupt) :=
    h.frame (commonStateUnlock_activeDb ..) (commonStateUnlock_brk ..)
      OwnChange.unlock.svc_name hint
  rw [commonStateUnlock_interrupt] at hframe
  unfold LinkedDb.unlock
  dsimp only
  split
  next hunlocked =>
    rw [if_pos hunlocked] at hframe
    obtain ⟨interrupt', hadd, hrep⟩ := h.interrupt.setInterrupt s
    exact ⟨_, by simp only [hadd, bind_eq_bind, bind_some]; rfl, hframe hrep⟩
  next hunlocked =>
    rw [if_neg hunlocked] at hframe
    exact ⟨_, rfl, hframe h.interrupt⟩

lemma LinkedDb.Ok.handled (h : c.Ok) (s : Sid) : ∃ c', c.handled s = some c' ∧ c'.Ok := by
  obtain ⟨interrupt', hdel, hrep⟩ := h.interrupt.clearInterrupt s
  refine ⟨{ c with g := clearInterrupt s c.g, interrupt := interrupt' },
    by simp [LinkedDb.handled, hdel], ?_⟩
  exact h.frame rfl rfl (fun _ => rfl) hrep

lemma LinkedDb.Ok.free (h : c.Ok) (s : Sid) :
    ∃ c', c.free s = some c' ∧ c'.Ok ∧ c'.g.activeDb = c.g.activeDb.filter (· ≠ s) ∧
      c'.g.interrupt = c.g.interrupt.filter (· ≠ s) ∧ ∀ t ≠ s, c'.g.svc t = c.g.svc t := by
  obtain ⟨marked, hmark, hok, -, -, hg⟩ := h.mark s .freeing
  obtain ⟨list', hlist, hreplist⟩ := hok.list.del s
  obtain ⟨interrupt', hint, hrepint⟩ := hok.interrupt.del s
  rw [hg] at hreplist hrepint
  have hdb : (activeDbFree s c.g).activeDb = c.g.activeDb.filter (· ≠ s) := by
    rw [activeDbFree, commonMarkService_activeDb]
  have hinterrupt : (activeDbFree s c.g).interrupt = c.g.interrupt.filter (· ≠ s) := by
    rw [activeDbFree, commonMarkService_interrupt]
    split
    · unfold setInterrupt
      split
      · rfl
      · simp
    · rfl
  have hname (t : Sid) : ((activeDbFree s c.g).svc t).name = (c.g.svc t).name :=
    (OwnChange.mark .freeing).svc_name t
  refine ⟨⟨activeDbFree s c.g, list', interrupt', s :: c.freed⟩,
    by simp [LinkedDb.free, hmark, hlist, hint], ⟨hreplist, hrepint, ?_, ?_⟩, hdb, hinterrupt,
    fun t ht => commonMarkService_svc_ne _ _ ht⟩
  · intro t ht
    have hmem : t ∈ c.g.activeDb := (mem_filter.mp (hdb ▸ ht)).1
    exact Nat.lt_of_lt_of_eq (h.allocated t hmem) (commonMarkService_brk ..).symm
  · intro x hx y hy
    rw [hdb] at hx hy
    rw [hname, hname]
    exact h.unique x (mem_filter.mp hx).1 y (mem_filter.mp hy).1

lemma DbCall.apply_ok (call : DbCall) (h : c.Ok) : ∃ c', call.apply c = some c' ∧ c'.Ok := by
  cases call with
  | new name => exact ⟨_, rfl, h.new name⟩
  | register s =>
    rw [DbCall.apply]
    split
    next hs =>
      rcases h.register hs with ⟨-, heq⟩ | ⟨-, c', heq, hok, -⟩
      · exact ⟨c, by rw [heq]; rfl, h⟩
      · exact ⟨c', by rw [heq]; rfl, hok⟩
    next => exact ⟨c, rfl, h⟩
  | free s =>
    rw [DbCall.apply]
    split
    · obtain ⟨c', heq, hok, -⟩ := h.free s
      exact ⟨c', heq, hok⟩
    · exact ⟨c, rfl, h⟩
  | mark s state =>
    rw [DbCall.apply]
    split
    · obtain ⟨c', heq, hok, -⟩ := h.mark s state
      exact ⟨c', heq, hok⟩
    · exact ⟨c, rfl, h⟩
  | lock s =>
    have hown : OwnChange s c.g (commonStateLock s c.g) :=
      OwnChange.modify _ fun _ => ⟨rfl, rfl, rfl⟩
    exact ⟨_, rfl, h.frame rfl rfl hown.svc_name h.interrupt⟩
  | unlock s =>
    rw [DbCall.apply]
    split
    · exact h.unlock s
    · exact ⟨c, rfl, h⟩
  | handled s => exact h.handled s

end

lemma LinkedDb.start_ok (now : Timeval) : ∃ c, LinkedDb.start now = some c ∧ c.Ok := by
  have hnull (a : ListAddr) : Links.next (fun _ => some ⟨none, none⟩) (some a) = some none := rfl
  obtain ⟨h₁, eq₁, next₁, prev₁⟩ := setNext_spec (hnull .head) (some .head)
  have hprev (a : ListAddr) : h₁.prev (some a) = some none := prev₁ a
  obtain ⟨ring, eq₂, prev₂, next₂⟩ := setPrev_spec (hprev .head) (some .head)
  have hinit : initngListInit .head (fun _ => some ⟨none, none⟩) = some ring := by
    simp [initngListInit, eq₁, eq₂]
  have hempty : Represents ring [] := by
    refine ⟨?_, fun s _ => ?_⟩
    · obtain ⟨ring', heq, hholds⟩ : ∃ ring', initngListInit ListAddr.head
          (fun _ => some ⟨none, none⟩) = some ring' ∧ Holds ring' .head [] :=
        initngListInit_holds (by simp)
      cases hinit.symm.trans heq
      exact hholds
    · constructor
      · rw [next₂, next₁, if_neg (by simp)]
        rfl
      · rw [prev₂, if_neg (by simp), hprev]
  exact ⟨⟨configGlobalNew now, ring, ring, []⟩, by simp [LinkedDb.start, hinit],
    hempty, hempty, by simp [configGlobalNew], by simp [configGlobalNew]⟩

/-- What the code relies on: the names of registered services are distinct and hashed right; a
lookup returns the registered service of that name, if there is one; a registration fails if the
name is taken, and then changes nothing; a free takes exactly the service out of both lists. -/
structure LinkedDb.KeyedByName (c : LinkedDb) : Prop where
  distinct : ∀ s ∈ c.g.activeDb, ∀ t ∈ c.g.activeDb, (c.g.svc s).name = (c.g.svc t).name → s = t
  hashed : ∀ s ∈ c.g.activeDb, (c.g.svc s).nameHash = hashStr (c.g.svc s).name
  found : ∀ service s, c.findByName service = some (some s) ↔
    s ∈ c.g.activeDb ∧ (c.g.svc s).name = service
  missing : ∀ service, c.findByName service = some none ↔
    ∀ s ∈ c.g.activeDb, (c.g.svc s).name ≠ service
  taken : ∀ s, c.Live s → ((∃ t ∈ c.g.activeDb, (c.g.svc t).name = (c.g.svc s).name) ↔
    c.register s = some (false, c))
  added : ∀ s, c.Live s → (∀ t ∈ c.g.activeDb, (c.g.svc t).name ≠ (c.g.svc s).name) →
    ∃ c', c.register s = some (true, c') ∧ c'.g.activeDb = c.g.activeDb ++ [s] ∧
      c'.g.interrupt = c.g.interrupt ∧ c'.g.svc = c.g.svc
  removed : ∀ s, c.Live s → ∃ c', c.free s = some c' ∧
    c'.g.activeDb = c.g.activeDb.filter (· ≠ s) ∧
    c'.g.interrupt = c.g.interrupt.filter (· ≠ s) ∧ ∀ t ≠ s, c'.g.svc t = c.g.svc t
  rings : Represents c.list c.g.activeDb ∧ Represents c.interrupt c.g.interrupt

lemma LinkedDb.Ok.keyedByName {c : LinkedDb} (h : c.Ok) : c.KeyedByName where
  distinct := h.unique
  hashed s _ := (c.g.svc s).nameHash_eq
  found service s := by rw [h.findByName, some_inj, h.find_iff]
  missing service := by rw [h.findByName, some_inj, h.find_none_iff]
  taken s hs := by
    rcases h.register hs with ⟨htaken, heq⟩ | ⟨hfree, c', heq, -⟩
    · exact ⟨fun _ => heq, fun _ => htaken⟩
    · constructor
      · rintro ⟨t, ht, hname⟩
        exact absurd hname (hfree t ht)
      · intro hfails
        simp [heq] at hfails
  added s hs hfree := by
    rcases h.register hs with ⟨⟨t, ht, hname⟩, -⟩ | ⟨-, c', heq, -, hadded⟩
    · exact absurd hname (hfree t ht)
    · exact ⟨c', heq, hadded⟩
  removed s _ := by
    obtain ⟨c', heq, -, hremoved⟩ := h.free s
    exact ⟨c', heq, hremoved⟩
  rings := ⟨h.list, h.interrupt⟩

/-- Behind any calls the active_db is a map keyed by name. -/
theorem activeDb_keyedByName (now : Timeval) (calls : List DbCall) :
    ∃ c, (LinkedDb.start now).bind (calls.foldlM DbCall.apply) = some c ∧ c.KeyedByName := by
  have hrun : ∀ c : LinkedDb, c.Ok → ∃ c', calls.foldlM DbCall.apply c = some c' ∧ c'.Ok := by
    induction calls with
    | nil => exact fun c h => ⟨c, rfl, h⟩
    | cons call calls ih =>
      intro c h
      obtain ⟨c₁, heq, hok⟩ := call.apply_ok h
      rw [foldlM_cons, heq]
      exact ih c₁ hok
  obtain ⟨c₀, heq, hok⟩ := LinkedDb.start_ok now
  obtain ⟨c, hcalls, hok'⟩ := hrun c₀ hok
  exact ⟨c, by rw [heq, bind_some, hcalls], hok'.keyedByName⟩

end Initng
