import Initng.DaemonHooks
import Initng.RequestEffect

namespace Initng

open List Function

def SEntry.provide : SEntry := .other "provide"

def SEntry.pCount : SEntry := .other "p_count"

def Stype.provided : Stype := ⟨"provided"⟩

namespace AState

def soonProvided : AState := ⟨"SOON_PROVIDED", .isStarting⟩
def provideUp : AState := ⟨"PROVIDED", .isUp⟩
def provideDown : AState := ⟨"NOT_PROVIDED", .isDown⟩

end AState

def virtualServiceSetUp (name : String) (w : World) : Bool × World :=
  match activeDbFindByName w.g name with
  | some vserv =>
    if getState w.g vserv = .isStarting then (true, w.mark vserv .provideUp) else (false, w)
  | none => (false, w)

def putSoonProvided (vserv : Sid) (w : World) : World :=
  match getState w.g vserv with
  | .isUp | .isStarting => w
  | _ => w.mark vserv .soonProvided

def addVirtualService (name : String) (w : World) : Bool × World :=
  match activeDbFindByName w.g name with
  | some vserv =>
    if (w.g.svc vserv).type ≠ some .provided then (false, w)
    else
      let w := putSoonProvided vserv w
      (true, w.setInt .pCount vserv (w.getInt .pCount vserv + 1))
  | none =>
    let (vserv, g) := activeDbNew name w.g
    let g := g.modify vserv fun a => { a with type := some .provided }
    match activeDbRegister vserv g with
    | (false, g) => (false, { w with g := activeDbFree vserv g })
    | (true, g) => (true, ({ w with g := g }.mark vserv .soonProvided).setInt .pCount vserv 1)

def removeVirtualService (name : String) (w : World) : World :=
  match activeDbFindByName w.g name with
  | none => w
  | some vserv =>
    if (w.g.svc vserv).type ≠ some .provided then w
    else
      let i := if getState w.g vserv = .isUp then w.getInt .pCount vserv - 1 else 0
      let w := if getState w.g vserv = .isUp then w.setInt .pCount vserv i else w
      if i = 0 ∨ w.g.sysState = .stateStopping then w.mark vserv .provideDown else w

def untilFalse (body : String → World → Bool × World) : List String → World → World
  | [], w => w
  | tmp :: rest, w =>
    match body tmp w with
    | (true, w) => untilFalse body rest w
    | (false, w) => w

def provides (g : G) (s : Sid) : List String := untilNull (strings .provide g s)

def serviceState (service : Sid) (w : World) : World :=
  match getState w.g service with
  | .isStarting =>
    if w.g.sysState = .stateStopping then w
    else untilFalse addVirtualService (provides w.g service) w
  | .isUp =>
    if w.g.sysState = .stateStopping then w
    else untilFalse virtualServiceSetUp (provides w.g service) w
  | _ => (provides w.g service).foldl (fun w tmp => removeVirtualService tmp w) w

def providers (is : List EIs) (name : String) (services : List Sid) (g : G) : List Sid :=
  services.filter fun s => name ∈ provides g s ∧ getState g s ∈ is

/-- How many providers are starting or up, and whether one is up. -/
@[ext]
structure Tally where
  running : ℕ
  up : Bool
  running_ne : up = true → running ≠ 0

namespace Tally

def state (x : Tally) : EIs :=
  if x.up then .isUp else if x.running = 0 then .isDown else .isStarting

def plus (x : Tally) (is : EIs) : Tally where
  running := x.running + if is ∈ [.isStarting, .isUp] then 1 else 0
  up := x.up || is = .isUp
  running_ne h := by
    rcases Bool.or_eq_true_iff.mp h with h | h
    · have := x.running_ne h
      omega
    · obtain rfl : is = .isUp := by simpa using h
      simp

def join (x : Tally) : Tally := ⟨x.running + 1, x.up, fun _ => Nat.succ_ne_zero _⟩

def raise (x : Tally) : Tally := ⟨x.running, x.running ≠ 0, fun h => by simpa using h⟩

def leave (x : Tally) : Tally := ⟨x.running - 1, 1 < x.running, fun h => by
  have : 1 < x.running := by simpa using h
  omega⟩

variable {x : Tally}

lemma up_eq_false (h : x.running = 0) : x.up = false :=
  Bool.eq_false_iff.mpr fun hup => x.running_ne hup h

lemma state_eq_isUp : x.state = .isUp ↔ x.up = true := by
  rw [state]
  split_ifs with hup <;> simp [hup]

lemma state_eq_isDown : x.state = .isDown ↔ x.running = 0 := by
  rw [state]
  split_ifs with hup hnone
  · simp [x.running_ne hup]
  all_goals simp [hnone]

lemma leave_eq_self (h : x.running = 0) : x.leave = x := by
  ext
  · simp [leave, h]
  · simp [leave, h, up_eq_false]

lemma raise_eq_self (h : x.up = true) : x.raise = x := by
  ext
  · rfl
  · simp [raise, h, x.running_ne h]

lemma plus_of_notMem {is : EIs} (h : is ∉ [.isStarting, .isUp]) : x.plus is = x := by
  have hup : is ≠ .isUp := by
    rintro rfl
    simp at h
  ext
  · simp only [plus, if_neg h, Nat.add_zero]
  · simp [plus, hup]

@[simp] lemma plus_isStarting (x : Tally) : x.plus .isStarting = x.join := by
  ext
  · rfl
  · simp [plus, join]

@[simp] lemma plus_isUp (x : Tally) : x.plus .isUp = x.join.raise := by
  ext
  · rfl
  · simp [plus, join, raise]

/-- The removal is right where another provider is up, or no other is starting or up. -/
lemma leave_join (h : x.up = true ∨ x.running = 0) : x.join.leave = x := by
  ext
  · simp [leave, join]
  · rcases h with h | h
    · simp [leave, join, h, Nat.pos_of_ne_zero (x.running_ne h)]
    · simp [leave, join, h, up_eq_false h]

end Tally

section
variable {services services' : List Sid} {g g' : G} {s : Sid} {name : String}

lemma mem_providers {is : List EIs} : s ∈ providers is name services g ↔
    s ∈ services ∧ name ∈ provides g s ∧ getState g s ∈ is := by
  simp [providers]

lemma providers_cons {is : List EIs} : providers is name (s :: services) g =
    if name ∈ provides g s ∧ getState g s ∈ is then s :: providers is name services g
    else providers is name services g := by
  simp [providers, filter_cons]

lemma length_providers_up_le : (providers [.isUp] name services g).length ≤
    (providers [.isStarting, .isUp] name services g).length := by
  refine (monotone_filter_right services fun s hs => ?_).length_le
  simp only [decide_eq_true_eq, mem_singleton] at hs ⊢
  exact ⟨hs.1, by simp [hs.2]⟩

end

def tally (services : List Sid) (g : G) (name : String) : Tally where
  running := (providers [.isStarting, .isUp] name services g).length
  up := 0 < (providers [.isUp] name services g).length
  running_ne h := Nat.ne_of_gt (Nat.lt_of_lt_of_le (of_decide_eq_true h) length_providers_up_le)

section
variable {services services' : List Sid} {g g' : G} {s : Sid} {name : String}

lemma tally_perm (h : services.Perm services') : tally services g = tally services' g := by
  funext name
  have hlength (is : List EIs) : (providers is name services g).length =
      (providers is name services' g).length := (h.filter _).length_eq
  ext
  · exact hlength _
  · simp only [tally, hlength]

lemma tally_cons : tally (s :: services) g name =
    if name ∈ provides g s then (tally services g name).plus (getState g s)
    else tally services g name := by
  by_cases hname : name ∈ provides g s
  · rw [if_pos hname]
    ext
    · by_cases his : getState g s ∈ [.isStarting, .isUp]
      all_goals simp [tally, Tally.plus, providers_cons, hname, his]
    · by_cases his : getState g s = .isUp
      all_goals simp [tally, Tally.plus, providers_cons, hname, his]
  · rw [if_neg hname]
    ext
    all_goals simp [tally, providers_cons, hname]

lemma tally_congr (h : ∀ s ∈ services, provides g' s = provides g s ∧
    (getState g' s = getState g s ∨ provides g s = [])) :
    tally services g' = tally services g := by
  funext name
  have hsame (is : List EIs) : providers is name services g' = providers is name services g := by
    refine filter_congr fun s hs => ?_
    obtain ⟨hprovides, hstate | hbare⟩ := h s hs
    · rw [hprovides, hstate]
    · simp [hprovides, hbare]
  ext
  all_goals simp only [tally, hsame]

end

/-- What holds of the list of services: the addresses are in use, names are given once, and virtual
services are not being handled and provide nothing themselves. -/
structure Listed (w : World) : Prop where
  sysState : w.g.sysState ≠ .stateStopping
  nodup : w.g.activeDb.Nodup
  below : ∀ s ∈ w.g.activeDb, s < w.g.brk
  names : ∀ s ∈ w.g.activeDb, ∀ t ∈ w.g.activeDb, (w.g.svc s).name = (w.g.svc t).name → s = t
  unlocked : ∀ t ∈ w.g.activeDb, (w.g.svc t).type = some .provided → (w.g.svc t).stateLock = 0
  bare : ∀ t ∈ w.g.activeDb, (w.g.svc t).type = some .provided → provides w.g t = []

/-- The virtual services show these tallies, and there is one for every name with a provider that
is starting or up. -/
structure Shows (T : String → Tally) (w : World) : Prop extends Listed w where
  count : ∀ t ∈ w.g.activeDb, (w.g.svc t).type = some .provided →
    w.getInt .pCount t = (T (w.g.svc t).name).running
  state : ∀ t ∈ w.g.activeDb, (w.g.svc t).type = some .provided →
    getState w.g t = (T (w.g.svc t).name).state
  has : ∀ name, (T name).running ≠ 0 →
    ∃ t ∈ w.g.activeDb, (w.g.svc t).type = some .provided ∧ (w.g.svc t).name = name

def Free (name : String) (g : G) : Prop :=
  ∀ t ∈ g.activeDb, (g.svc t).name = name → (g.svc t).type = some .provided

structure ProvidersKept (g g' : G) : Prop where
  tally : tally g'.activeDb g' = tally g.activeDb g
  free : ∀ name, Free name g → Free name g'

lemma ProvidersKept.refl (g : G) : ProvidersKept g g := ⟨rfl, fun _ h => h⟩

lemma ProvidersKept.trans {g g' g'' : G} (h : ProvidersKept g g') (h' : ProvidersKept g' g'') :
    ProvidersKept g g'' :=
  ⟨h'.tally.trans h.tally, fun name hfree => h'.free name (h.free name hfree)⟩

structure Tends (v : String) (t : Sid) (w w' : World) : Prop where
  sysState : w'.g.sysState = w.g.sysState
  nodup : w'.g.activeDb.Nodup
  brk : w.g.brk ≤ w'.g.brk
  below : t < w'.g.brk
  mem : ∀ u, u ∈ w'.g.activeDb ↔ u ∈ w.g.activeDb ∨ u = t
  other : ∀ u, u ≠ t → w'.g.svc u = w.g.svc u
  count : ∀ u, u ≠ t → w'.getInt .pCount u = w.getInt .pCount u
  name : (w'.g.svc t).name = v
  type : (w'.g.svc t).type = some .provided
  unlocked : (w'.g.svc t).stateLock = 0
  bare : provides w'.g t = []
  only : ∀ u ∈ w.g.activeDb, (w.g.svc u).name = v → u = t
  old : t ∈ w.g.activeDb → (w.g.svc t).name = v
  tally : tally w'.g.activeDb w'.g = Initng.tally w.g.activeDb w.g

section
variable {T : String → Tally} {w w' : World} {t : Sid} {v : String} {names : List String}

lemma Listed.find (h : Listed w) (ht : t ∈ w.g.activeDb) :
    activeDbFindByName w.g (w.g.svc t).name = some t := by
  obtain ⟨u, hu⟩ := Option.isSome_iff_exists.mp (activeDbFindByName_isSome ht)
  obtain ⟨hmem, hname⟩ := activeDbFindByName_mem hu
  rw [hu, h.names u hmem t ht hname]

variable {g : G}

lemma provides_congr {g' : G} (h : (g'.svc t).data = (g.svc t).data) :
    provides g' t = provides g t := by
  rw [provides, provides, strings, strings, h]

lemma provides_of_data_nil (h : (g.svc t).data = []) : provides g t = [] := by
  rw [provides, strings, h]
  rfl

lemma provides_set (type : SEntry) (g : G) (htype : type ≠ .provide) :
    provides (set type t g) t = provides g t := by
  rw [provides, provides, strings, strings, set_svc_self]
  split
  · rfl
  · simp [htype]

lemma getState_mark {st : AState} (hlock : (w.g.svc t).stateLock = 0) :
    getState (w.mark t st).g t = st.is := by
  by_cases hcur : (w.g.svc t).currentState = st
  · rw [World.mark, commonMarkService_same w.g t st (.inl hlock) hcur]
    simp [getState, hcur]
  · rw [World.mark, commonMarkService_unlocked w.g t st hlock hcur]
    simp [getState, ActiveType.enter]

lemma Tends.refl (h : Listed w) (ht : t ∈ w.g.activeDb)
    (htype : (w.g.svc t).type = some .provided) : Tends (w.g.svc t).name t w w where
  sysState := rfl
  nodup := h.nodup
  brk := le_rfl
  below := h.below t ht
  mem _ := ⟨.inl, fun hu => hu.elim id fun he => he ▸ ht⟩
  other _ _ := rfl
  count _ _ := rfl
  name := rfl
  type := htype
  unlocked := h.unlocked t ht htype
  bare := h.bare t ht htype
  only u hu hname := h.names u hu t ht hname
  old _ := rfl
  tally := rfl

lemma Tends.write {w'' : World} (h : Tends v t w w') (hsys : w''.g.sysState = w'.g.sysState)
    (hdb : w''.g.activeDb = w'.g.activeDb) (hbrk : w''.g.brk = w'.g.brk)
    (hother : ∀ u, u ≠ t → w''.g.svc u = w'.g.svc u)
    (hcount : ∀ u, u ≠ t → w''.getInt .pCount u = w'.getInt .pCount u)
    (hname : (w''.g.svc t).name = (w'.g.svc t).name)
    (htype : (w''.g.svc t).type = (w'.g.svc t).type)
    (hlock : (w''.g.svc t).stateLock = (w'.g.svc t).stateLock)
    (hprovides : provides w''.g t = provides w'.g t) : Tends v t w w'' where
  sysState := hsys.trans h.sysState
  nodup := hdb ▸ h.nodup
  brk := hbrk ▸ h.brk
  below := hbrk ▸ h.below
  mem u := by rw [hdb, h.mem]
  other u hu := (hother u hu).trans (h.other u hu)
  count u hu := (hcount u hu).trans (h.count u hu)
  name := hname.trans h.name
  type := htype.trans h.type
  unlocked := hlock.trans h.unlocked
  bare := hprovides.trans h.bare
  only := h.only
  old := h.old
  tally := by
    rw [← h.tally, hdb]
    refine tally_congr fun u _ => ?_
    by_cases hu : u = t
    · subst hu
      exact ⟨hprovides, .inr h.bare⟩
    · rw [provides_congr (congrArg ActiveType.data (hother u hu)), getState, getState, hother u hu]
      exact ⟨rfl, .inl rfl⟩

lemma Tends.mark (h : Tends v t w w') (st : AState) : Tends v t w (w'.mark t st) := by
  have hown : OwnChange t w'.g (w'.mark t st).g := OwnChange.mark st
  exact h.write hown.sysState hown.activeDb (commonMarkService_brk ..) hown.other
    (fun u _ => getInt_mark _ u st) hown.name hown.type (commonMarkService_stateLock ..)
    (provides_congr hown.data)

lemma Tends.setCount (h : Tends v t w w') (value : Int) :
    Tends v t w (w'.setInt .pCount t value) := by
  have hself : (w'.setInt .pCount t value).g.svc t = _ := set_svc_self .pCount t w'.g
  exact h.write (set_sysState ..) (set_activeDb ..) (set_brk ..) (fun u hu => set_svc_ne _ _ _ _ hu)
    (fun u hu => getInt_setInt_ne _ _ _ hu) (by rw [hself]) (by rw [hself]) (by rw [hself])
    (provides_set _ _ (by decide))

lemma Tends.new (h : Listed w) (hfind : activeDbFindByName w.g v = none) :
    ∃ g, activeDbRegister w.g.brk ((activeDbNew v w.g).2.modify w.g.brk fun a =>
        { a with type := some .provided }) = (true, g) ∧ Tends v w.g.brk w { w with g := g } := by
  have hfresh : w.g.brk ∉ w.g.activeDb := fun hmem => lt_irrefl _ (h.below _ hmem)
  have hunused : ∀ u ∈ w.g.activeDb, (w.g.svc u).name ≠ v := by
    rw [activeDbFindByName_eq, find?_eq_none] at hfind
    simpa using hfind
  set g := (activeDbNew v w.g).2.modify w.g.brk fun a => { a with type := some .provided } with hg
  have hself : g.svc w.g.brk =
      { ActiveType.ofName v w.g.clock with type := some .provided } := by simp [hg, activeDbNew]
  have hother (u : Sid) (hu : u ≠ w.g.brk) : g.svc u = w.g.svc u := by simp [hg, activeDbNew, hu]
  have hmem (u : Sid) (hu : u ∈ w.g.activeDb) : g.svc u = w.g.svc u :=
    hother u fun he => hfresh (he ▸ hu)
  have hname : (g.svc w.g.brk).name = v := congrArg ActiveType.name hself
  have hnone : activeDbFindByName g v = none := by
    rw [activeDbFindByName_eq, find?_eq_none]
    intro u hu
    rw [hmem u hu]
    simpa using hunused u hu
  have hbare : provides g w.g.brk = [] := provides_of_data_nil (congrArg ActiveType.data hself)
  have hnothing (name : String) : name ∉ provides g w.g.brk := by
    rw [hbare]
    exact not_mem_nil
  refine ⟨{ g with activeDb := g.activeDb ++ [w.g.brk] }.observe
    (.registered w.g.brk (getState g w.g.brk)), by rw [activeDbRegister, hname, hnone]; rfl, ?_⟩
  exact
    { sysState := rfl
      nodup := nodup_append_singleton h.nodup hfresh
      brk := Nat.le_succ _
      below := Nat.lt_succ_self _
      mem := fun u => by
        rw [← mem_singleton (b := w.g.brk), ← mem_append]
        rfl
      other := hother
      count := fun u hu => getInt_congr rfl (congrArg ActiveType.data (hother u hu))
      name := hname
      type := congrArg ActiveType.type hself
      unlocked := congrArg ActiveType.stateLock hself
      bare := hbare
      only := fun u hu hv => absurd hv (hunused u hu)
      old := fun hold => absurd hold hfresh
      tally := by
        refine (tally_perm (perm_append_singleton w.g.brk w.g.activeDb)).trans ?_
        funext name
        refine (tally_cons.trans (if_neg (hnothing name))).trans ?_
        exact congrFun (tally_congr fun u hu =>
          ⟨provides_congr (congrArg ActiveType.data (hmem u hu)),
            .inl (congrArg (fun a => a.currentState.is) (hmem u hu))⟩) name }

lemma Tends.kept (h : Tends v t w w') : ProvidersKept w.g w'.g where
  tally := h.tally
  free name hfree u hu hname := by
    by_cases hut : u = t
    · rw [hut, h.type]
    · rw [h.other u hut] at hname ⊢
      exact hfree u (((h.mem u).mp hu).resolve_right hut) hname

lemma Tends.forall_mem (h : Tends v t w w') {p : Sid → Prop} (ht : p t)
    (hother : ∀ u ∈ w.g.activeDb, u ≠ t → (w.g.svc u).name ≠ v → p u) :
    ∀ u ∈ w'.g.activeDb, p u := by
  intro u hu
  by_cases hut : u = t
  · exact hut ▸ ht
  · have hmem : u ∈ w.g.activeDb := ((h.mem u).mp hu).resolve_right hut
    exact hother u hmem hut fun hname => hut (h.only u hmem hname)

lemma Listed.tend (h : Listed w) (htend : Tends v t w w') : Listed w' where
  sysState := htend.sysState ▸ h.sysState
  nodup := htend.nodup
  below := htend.forall_mem htend.below fun u hu _ _ =>
    lt_of_lt_of_le (h.below u hu) htend.brk
  names := by
    refine htend.forall_mem (htend.forall_mem (fun _ => rfl) ?_) fun u hu hut huv =>
      htend.forall_mem ?_ ?_
    · intro u _ hut huv he
      rw [htend.name, htend.other u hut] at he
      exact absurd he.symm huv
    · intro he
      rw [htend.name, htend.other u hut] at he
      exact absurd he huv
    · intro u' hu' hut' _ he
      rw [htend.other u hut, htend.other u' hut'] at he
      exact h.names u hu u' hu' he
  unlocked := by
    refine htend.forall_mem (fun _ => htend.unlocked) fun u hu hut _ htype => ?_
    rw [htend.other u hut] at htype ⊢
    exact h.unlocked u hu htype
  bare := by
    refine htend.forall_mem (fun _ => htend.bare) fun u hu hut _ htype => ?_
    rw [htend.other u hut] at htype
    rw [provides_congr (congrArg ActiveType.data (htend.other u hut))]
    exact h.bare u hu htype

lemma Shows.tend (h : Shows T w) (htend : Tends v t w w') {x : Tally}
    (hcount : w'.getInt .pCount t = x.running) (hstate : getState w'.g t = x.state) :
    Shows (update T v x) w' where
  toListed := h.toListed.tend htend
  count := by
    refine htend.forall_mem (fun _ => ?_) fun u hu hut huv htype => ?_
    · rw [htend.name, update_self, hcount]
    · rw [htend.other u hut] at htype ⊢
      rw [htend.count u hut, update_of_ne huv, h.count u hu htype]
  state := by
    refine htend.forall_mem (fun _ => ?_) fun u hu hut huv htype => ?_
    · rw [htend.name, update_self, hstate]
    · rw [htend.other u hut] at htype ⊢
      rw [update_of_ne huv, ← h.state u hu htype, getState, getState, htend.other u hut]
  has name hrunning := by
    by_cases hv : name = v
    · exact ⟨t, (htend.mem t).mpr (.inr rfl), htend.type, htend.name.trans hv.symm⟩
    · rw [update_of_ne hv] at hrunning
      obtain ⟨u, hu, htype, huname⟩ := h.has name hrunning
      have hut : u ≠ t := by
        rintro rfl
        exact hv (huname.symm.trans (htend.old hu))
      rw [← htend.other u hut] at htype huname
      exact ⟨u, (htend.mem u).mpr (.inl hu), htype, huname⟩

lemma Shows.find (h : Shows T w) (hrunning : (T v).running ≠ 0) :
    ∃ t, activeDbFindByName w.g v = some t ∧ (w.g.svc t).type = some .provided := by
  obtain ⟨t, ht, htype, rfl⟩ := h.has v hrunning
  exact ⟨t, h.toListed.find ht, htype⟩

lemma Shows.found (h : Shows T w) (hfind : activeDbFindByName w.g v = some t)
    (htype : (w.g.svc t).type = some .provided) :
    Tends v t w w ∧ w.getInt .pCount t = (T v).running ∧ getState w.g t = (T v).state := by
  obtain ⟨ht, rfl⟩ := activeDbFindByName_mem hfind
  exact ⟨Tends.refl h.toListed ht htype, h.count t ht htype, h.state t ht htype⟩

lemma getState_putSoonProvided {x : Tally} (hlock : (w.g.svc t).stateLock = 0)
    (hstate : getState w.g t = x.state) :
    getState (putSoonProvided t w).g t = x.join.state := by
  have hjoin : x.join.state = if x.up then .isUp else .isStarting := by
    simp [Tally.state, Tally.join]
  unfold putSoonProvided
  rw [hjoin]
  rw [Tally.state] at hstate
  split_ifs at hstate ⊢ with hup hnone
  · rw [hstate]
    exact hstate
  · rw [hstate]
    exact getState_mark hlock
  · rw [hstate]
    exact hstate

lemma addVirtualService_shows (h : Shows T w) (hfree : Free v w.g) :
    (addVirtualService v w).1 = true ∧
      Shows (update T v (T v).join) (addVirtualService v w).2 ∧
      ProvidersKept w.g (addVirtualService v w).2.g := by
  unfold addVirtualService
  cases hfind : activeDbFindByName w.g v with
  | some t =>
    obtain ⟨ht, hname⟩ := activeDbFindByName_mem hfind
    have htype := hfree t ht hname
    obtain ⟨htend, hcount, hstate⟩ := h.found hfind htype
    have hsoon : Tends v t w (putSoonProvided t w) ∧
        (putSoonProvided t w).getInt .pCount t = w.getInt .pCount t := by
      unfold putSoonProvided
      split
      · exact ⟨htend, rfl⟩
      · exact ⟨htend, rfl⟩
      · exact ⟨htend.mark _, getInt_mark ..⟩
    have hset := hsoon.1.setCount ((putSoonProvided t w).getInt .pCount t + 1)
    dsimp only
    rw [if_neg (not_not.mpr htype)]
    refine ⟨rfl, h.tend hset ?_ ?_, hset.kept⟩
    · rw [getInt_setInt, hsoon.2, hcount]
      rfl
    · rw [World.setInt, getState_set]
      exact getState_putSoonProvided htend.unlocked hstate
  | none =>
    obtain ⟨g, hregister, hnew⟩ := Tends.new h.toListed hfind
    have hset := (hnew.mark .soonProvided).setCount 1
    -- the name has no virtual service, so it has no provider
    have hnone : (T v).running = 0 := by
      by_contra hrunning
      obtain ⟨t, ht, -⟩ := h.find hrunning
      rw [ht] at hfind
      cases hfind
    have hjoin : (T v).join = ⟨1, false, Bool.noConfusion⟩ :=
      Tally.ext (congrArg (· + 1) hnone) (Tally.up_eq_false (x := T v) hnone)
    dsimp only [activeDbNew] at hregister ⊢
    rw [hregister, hjoin]
    refine ⟨rfl, h.tend hset ?_ ?_, hset.kept⟩
    · exact getInt_setInt ..
    · rw [World.setInt, getState_set]
      exact getState_mark hnew.unlocked

lemma virtualServiceSetUp_shows (h : Shows T w) (hrunning : (T v).running ≠ 0)
    (hup : (T v).up = false) :
    (virtualServiceSetUp v w).1 = true ∧
      Shows (update T v (T v).raise) (virtualServiceSetUp v w).2 ∧
      ProvidersKept w.g (virtualServiceSetUp v w).2.g := by
  obtain ⟨t, hfind, htype⟩ := h.find hrunning
  obtain ⟨htend, hcount, hstate⟩ := h.found hfind htype
  have hstarting : getState w.g t = .isStarting := by simp [hstate, Tally.state, hup, hrunning]
  have hmark := htend.mark .provideUp
  unfold virtualServiceSetUp
  rw [hfind]
  dsimp only
  rw [if_pos hstarting]
  refine ⟨rfl, h.tend hmark ?_ ?_, hmark.kept⟩
  · rw [getInt_mark, hcount]
    rfl
  · rw [getState_mark htend.unlocked]
    simp [Tally.state, Tally.raise, hrunning, AState.provideUp]

lemma virtualServiceSetUp_up (h : Shows T w) (hup : (T v).up = true) :
    virtualServiceSetUp v w = (false, w) := by
  obtain ⟨t, hfind, htype⟩ := h.find ((T v).running_ne hup)
  obtain ⟨-, -, hstate⟩ := h.found hfind htype
  have hnot : getState w.g t ≠ .isStarting := by simp [hstate, Tally.state, hup]
  unfold virtualServiceSetUp
  rw [hfind]
  exact if_neg hnot

lemma removeVirtualService_up (hsys : w.g.sysState ≠ .stateStopping)
    (hfind : activeDbFindByName w.g v = some t) (htype : (w.g.svc t).type = some .provided)
    (hup : getState w.g t = .isUp) :
    removeVirtualService v w =
      if w.getInt .pCount t - 1 = 0 then
        (w.setInt .pCount t (w.getInt .pCount t - 1)).mark t .provideDown
      else w.setInt .pCount t (w.getInt .pCount t - 1) := by
  have hsys' : (w.setInt .pCount t (w.getInt .pCount t - 1)).g.sysState ≠ .stateStopping :=
    (set_sysState ..).trans_ne hsys
  simp only [removeVirtualService, hfind, htype, hup, ne_eq, not_true_eq_false, if_false, if_true,
    hsys', or_false]

lemma removeVirtualService_shows (h : Shows T w) (hup : (T v).up = true ∨ (T v).running = 0) :
    Shows (update T v (T v).leave) (removeVirtualService v w) ∧
      ProvidersKept w.g (removeVirtualService v w).g := by
  by_cases hvirtual : ∃ t, activeDbFindByName w.g v = some t ∧ (w.g.svc t).type = some .provided
  · obtain ⟨t, hfind, htype⟩ := hvirtual
    obtain ⟨htend, hcount, hstate⟩ := h.found hfind htype
    rcases hup with hup | hnone
    · have hshown : getState w.g t = .isUp := by simp [hstate, Tally.state, hup]
      have hrunning := (T v).running_ne hup
      have hset := htend.setCount ((T v).running - 1)
      have hset_state : getState (w.setInt .pCount t ((T v).running - 1)).g t = .isUp :=
        (getState_set ..).trans hshown
      rw [removeVirtualService_up h.sysState hfind htype hshown, hcount]
      by_cases hlast : (T v).running = 1
      · have hmark := hset.mark .provideDown
        rw [if_pos (by omega)]
        refine ⟨h.tend hmark ?_ ?_, hmark.kept⟩
        · rw [getInt_mark, getInt_setInt]
          simp [Tally.leave, hlast]
        · rw [getState_mark hset.unlocked]
          simp [Tally.state, Tally.leave, hlast, AState.provideDown]
      · have hmore : 1 < (T v).running := by omega
        rw [if_neg (by omega)]
        refine ⟨h.tend hset ?_ ?_, hset.kept⟩
        · rw [getInt_setInt]
          show ((T v).running : Int) - 1 = ((T v).running - 1 : ℕ)
          omega
        · rw [hset_state]
          simp [Tally.state, Tally.leave, hmore]
    · have hshown : getState w.g t = .isDown := by
        simp [hstate, Tally.state, Tally.up_eq_false hnone, hnone]
      have hmark := htend.mark .provideDown
      have hrun : removeVirtualService v w = w.mark t .provideDown := by
        simp [removeVirtualService, hfind, htype, hshown]
      rw [hrun, Tally.leave_eq_self hnone]
      refine ⟨h.tend hmark ?_ ?_, hmark.kept⟩
      · rw [getInt_mark, hcount]
      · rw [getState_mark htend.unlocked, ← hstate, hshown]
        rfl
  · have hnone : (T v).running = 0 := by
      by_contra hrunning
      exact hvirtual (h.find hrunning)
    have hsame : removeVirtualService v w = w := by
      unfold removeVirtualService
      split
      · rfl
      next t hfind => exact if_pos fun htype => hvirtual ⟨t, hfind, htype⟩
    rw [hsame, Tally.leave_eq_self hnone, update_eq_self]
    exact ⟨h, .refl _⟩

def changeAt (op : Tally → Tally) (names : List String) (T : String → Tally) (v : String) : Tally :=
  if v ∈ names then op (T v) else T v

@[simp] lemma changeAt_nil (op : Tally → Tally) : changeAt op [] T = T := by
  funext v
  simp [changeAt]

variable {op : Tally → Tally}

lemma update_of_mem (hnot : v ∉ names) {u : String}
    (hu : u ∈ names) : update T v (op (T v)) u = T u :=
  update_of_ne (ne_of_mem_of_not_mem hu hnot) ..

lemma changeAt_cons (hnot : v ∉ names) :
    changeAt op (v :: names) T = changeAt op names (update T v (op (T v))) := by
  funext u
  by_cases hu : u ∈ names
  · simp only [changeAt, mem_cons_of_mem _ hu, hu, if_true, update_of_mem hnot hu]
  · by_cases huv : u = v
    · subst huv
      simp [changeAt, hu]
    · simp [changeAt, hu, huv]

variable {body : String → World → Bool × World}

lemma untilFalse_cons
    (htrue : (body v w).1 = true) :
    untilFalse body (v :: names) w = untilFalse body names (body v w).2 := by
  rw [untilFalse]
  split
  next hr => rw [hr]
  next hr =>
    rw [hr] at htrue
    cases htrue

lemma untilFalse_shows
    {p : String → Tally → G → Prop}
    (hkept : ∀ {v x g g'}, ProvidersKept g g' → p v x g → p v x g')
    (hbody : ∀ {v T w}, Shows T w → p v (T v) w.g → (body v w).1 = true ∧
      Shows (update T v (op (T v))) (body v w).2 ∧ ProvidersKept w.g (body v w).2.g)
    (hnames : names.Nodup) (h : Shows T w)
    (hp : ∀ v ∈ names, p v (T v) w.g) :
    Shows (changeAt op names T) (untilFalse body names w) ∧
      ProvidersKept w.g (untilFalse body names w).g := by
  induction names generalizing T w with
  | nil => exact ⟨by simpa [untilFalse] using h, .refl _⟩
  | cons name names ih =>
    obtain ⟨hnot, hrest⟩ := nodup_cons.mp hnames
    obtain ⟨htrue, hshows, hkeep⟩ := hbody h (hp name (.head _))
    obtain ⟨hend, hkeep'⟩ := ih hrest hshows fun v hv => by
      rw [update_of_mem hnot hv]
      exact hkept hkeep (hp v (.tail _ hv))
    rw [untilFalse_cons htrue, changeAt_cons hnot]
    exact ⟨hend, hkeep.trans hkeep'⟩

/-- The loop over `virtual_service_set_up` ends at the first name that is up already; none is left
out if the names that are up come last. -/
lemma untilFalse_setUp_shows (hnames : names.Nodup) (h : Shows T w)
    (hrunning : ∀ v ∈ names, (T v).running ≠ 0)
    (hlast : names.Pairwise fun v v' => (T v).up = true → (T v').up = true) :
    Shows (changeAt Tally.raise names T) (untilFalse virtualServiceSetUp names w) ∧
      ProvidersKept w.g (untilFalse virtualServiceSetUp names w).g := by
  induction names generalizing T w with
  | nil => exact ⟨by simpa [untilFalse] using h, .refl _⟩
  | cons name names ih =>
    obtain ⟨hnot, hrest⟩ := nodup_cons.mp hnames
    obtain ⟨hfirst, hlast⟩ := pairwise_cons.mp hlast
    cases hup : (T name).up with
    | true =>
      have hall : ∀ v ∈ name :: names, (T v).up = true := by
        intro v hv
        rcases mem_cons.mp hv with rfl | hv
        · exact hup
        · exact hfirst v hv hup
      have hsame : changeAt Tally.raise (name :: names) T = T := by
        funext v
        rw [changeAt]
        split
        next hv => exact Tally.raise_eq_self (hall v hv)
        next => rfl
      rw [untilFalse, virtualServiceSetUp_up h hup, hsame]
      exact ⟨h, .refl _⟩
    | false =>
      obtain ⟨htrue, hshows, hkeep⟩ :=
        virtualServiceSetUp_shows h (hrunning name (.head _)) hup
      obtain ⟨hend, hkeep'⟩ := ih hrest hshows
        (fun v hv => by
          rw [update_of_mem hnot hv]
          exact hrunning v (.tail _ hv))
        (hlast.imp_of_mem fun hv hv' himp => by
          rw [update_of_mem hnot hv, update_of_mem hnot hv']
          exact himp)
      rw [untilFalse_cons htrue, changeAt_cons hnot]
      exact ⟨hend, hkeep.trans hkeep'⟩

lemma foldl_removeVirtualService (names : List String) (w : World) :
    names.foldl (fun w tmp => removeVirtualService tmp w) w =
      untilFalse (fun tmp w => (true, removeVirtualService tmp w)) names w := by
  induction names generalizing w with
  | nil => rfl
  | cons name names ih => exact ih _

end

end Initng
