import Mathlib.Data.List.Basic
import Mathlib.Logic.Function.Basic

/-! The records of `active_db.h`, `active_state.h`, `data.h` and `config/global.h` that the core
reads and writes, and the operations of `active_db/` and `data/` on them.  A pointer to a service is
its address, a `Sid`; the memory is `G.svc`.  Both lists of services are kept in walking order, that
is oldest entry first: `initng_list_add` inserts behind the head and the `while_active_db` macros
walk backwards. -/

namespace Initng

/-- `e_is`: what a state is, roughly. -/
inductive EIs
  | isNew | isUp | isDown | isFailed | isStarting | isStopping | isWaiting
  deriving DecidableEq

/-- `a_state_h`.  `initng_active_state_register` keeps the names unique, so comparing
states by value is comparing the pointers. -/
structure AState where
  name : String
  is : EIs
  deriving DecidableEq

/-! The states of `static/states.c`. -/

def AState.new : AState := ⟨"NEW", .isDown⟩
def AState.loading : AState := ⟨"LOADING", .isDown⟩
def AState.freeing : AState := ⟨"FREEING", .isDown⟩
def AState.reqNotFound : AState := ⟨"REQ_NOT_FOUND", .isFailed⟩

/-- `stype_h`; the hooks of a type are found in `Modules`. -/
structure Stype where
  name : String
  deriving DecidableEq

/-- `s_entry`: the entries of `static/data_id.c`, and those modules register. -/
inductive SEntry
  | env | use | need | require | fromFile | restarting
  | other (name : String)
  deriving DecidableEq

/-- `s_data`: an entry with its string `t.s`, if it has one, and its variable name. -/
structure SData where
  type : SEntry
  s : Option String
  vn : Option String := none
  deriving DecidableEq

structure Timeval where
  tvSec : Int
  tvUsec : Int
  deriving DecidableEq

inductive HSysState
  | stateNull | stateStarting | stateUp | stateStopping | stateAse | stateServicesLoaded
  | stateExit | stateRestart | stateSulogin | stateHalt | stateReboot | stateExecve
  | statePoweroff
  deriving DecidableEq

/-- One octet of FNV-1a.  `octet` is a `char`, so it is sign-extended. -/
def fnvPass (hval : BitVec 64) (octet : BitVec 8) : BitVec 64 :=
  (hval ^^^ octet.signExtend 64) * 0x100000001b3#64

/-- `initng_hash_str` on x86_64; a character of the string is one octet. -/
def hashStr (str : String) : BitVec 64 :=
  str.toList.foldl (fun hval c => fnvPass hval (BitVec.ofNat 8 c.toNat)) 0xcbf29ce484222325#64

/-- `struct active_type`.  Names are never changed, so the hash set by
`initng_active_db_new` stays the hash of the name. -/
structure ActiveType where
  name : String
  nameHash : BitVec 64
  nameHash_eq : nameHash = hashStr name
  type : Option Stype
  currentState : AState
  timeCurrentState : Timeval
  lastState : Option AState
  timeLastState : Timeval
  nextState : Option AState
  stateLock : ℕ
  lastRoughtState : EIs
  lastRoughtTime : Timeval
  data : List SData
  alarm : Int
  dependCache : ℕ

abbrev Sid := ℕ

/-- What is observed of a run, with the rough state of the service. -/
inductive Obs
  | registered (s : Sid) (is : EIs)
  | isChange (s : Sid) (is : EIs)
  | start (s : Sid)
  | stop (s : Sid)
  deriving DecidableEq

/-- The global struct `g`, the memory its services live in, the time of day, and the
observations made so far, latest first. -/
structure G where
  activeDb : List Sid
  interrupt : List Sid
  svc : Sid → ActiveType
  brk : Sid
  sysState : HSysState
  clock : Timeval
  trace : List Obs

namespace G

def modify (g : G) (s : Sid) (f : ActiveType → ActiveType) : G :=
  { g with svc := Function.update g.svc s (f (g.svc s)) }

def observe (g : G) (o : Obs) : G := { g with trace := o :: g.trace }

section
variable (g : G) (s t : Sid) (f : ActiveType → ActiveType) (o : Obs)

@[simp] lemma modify_svc_self : (g.modify s f).svc s = f (g.svc s) := by simp [modify]

@[simp] lemma modify_svc_ne (h : t ≠ s) : (g.modify s f).svc t = g.svc t := by
  simp [modify, h]

@[simp] lemma modify_activeDb : (g.modify s f).activeDb = g.activeDb := rfl
@[simp] lemma modify_interrupt : (g.modify s f).interrupt = g.interrupt := rfl
@[simp] lemma modify_brk : (g.modify s f).brk = g.brk := rfl
@[simp] lemma modify_sysState : (g.modify s f).sysState = g.sysState := rfl
@[simp] lemma modify_clock : (g.modify s f).clock = g.clock := rfl
@[simp] lemma modify_trace : (g.modify s f).trace = g.trace := rfl

@[simp] lemma observe_activeDb : (g.observe o).activeDb = g.activeDb := rfl
@[simp] lemma observe_interrupt : (g.observe o).interrupt = g.interrupt := rfl
@[simp] lemma observe_svc : (g.observe o).svc = g.svc := rfl
@[simp] lemma observe_brk : (g.observe o).brk = g.brk := rfl
@[simp] lemma observe_sysState : (g.observe o).sysState = g.sysState := rfl
@[simp] lemma observe_trace : (g.observe o).trace = o :: g.trace := rfl

end

end G

def getState (g : G) (s : Sid) : EIs := (g.svc s).currentState.is

/-! ## Data entries

The data head of a service has no `res` and no request hooks, so `get_next` walks
`ActiveType.data` from its oldest entry. -/

def is (type : SEntry) (g : G) (s : Sid) : Bool := (g.svc s).data.any fun d => d.type = type

def set (type : SEntry) (s : Sid) (g : G) : G :=
  if is type g s then g
  else g.modify s fun a => { a with data := a.data ++ [⟨type, none, none⟩] }

def dataRemove (type : SEntry) (s : Sid) (g : G) : G :=
  g.modify s fun a => { a with data := a.data.filter fun d => d.type ≠ type }

section
variable (type : SEntry) (s t : Sid) (g : G)

@[simp] lemma set_activeDb : (set type s g).activeDb = g.activeDb := by
  unfold set; split <;> rfl

lemma set_sysState : (set type s g).sysState = g.sysState := by
  unfold set; split <;> rfl

lemma set_brk : (set type s g).brk = g.brk := by
  unfold set; split <;> rfl

lemma set_interrupt : (set type s g).interrupt = g.interrupt := by
  unfold set; split <;> rfl

@[simp] lemma set_trace : (set type s g).trace = g.trace := by
  unfold set; split <;> rfl

lemma set_svc_ne (h : t ≠ s) : (set type s g).svc t = g.svc t := by
  unfold set; split <;> simp [h]

lemma set_svc_self : (set type s g).svc s = { g.svc s with
    data := if is type g s then (g.svc s).data else (g.svc s).data ++ [⟨type, none, none⟩] } := by
  unfold set; split <;> simp

lemma is_set : is type (set type s g) s = true := by
  unfold is
  rw [set_svc_self]
  split
  next h => exact h
  next => simp

lemma set_svc : ∃ data, (set type s g).svc t = { g.svc t with data := data } := by
  by_cases h : t = s
  · subst h
    exact ⟨_, set_svc_self type t g⟩
  · exact ⟨_, set_svc_ne type s t g h⟩

lemma getState_set : getState (set type s g) t = getState g t := by
  obtain ⟨data, h⟩ := set_svc type s t g
  rw [getState, h, getState]

lemma set_svc_name : ((set type s g).svc t).name = (g.svc t).name := by
  obtain ⟨data, h⟩ := set_svc type s t g
  rw [h]

lemma set_svc_type : ((set type s g).svc t).type = (g.svc t).type := by
  obtain ⟨data, h⟩ := set_svc type s t g
  rw [h]

end

def activeDbFindByName (g : G) (service : String) : Option Sid :=
  g.activeDb.find? fun current =>
    (g.svc current).nameHash = hashStr service ∧ (g.svc current).name = service

lemma activeDbFindByName_eq (g : G) (service : String) :
    activeDbFindByName g service = g.activeDb.find? fun s => (g.svc s).name = service := by
  unfold activeDbFindByName
  congr 1
  funext s
  apply decide_eq_decide.mpr
  constructor
  · exact fun h => h.2
  · intro h
    exact ⟨(g.svc s).nameHash_eq.trans (congrArg hashStr h), h⟩

lemma activeDbFindByName_congr {g g' : G} (hdb : g'.activeDb = g.activeDb)
    (hname : ∀ s, (g'.svc s).name = (g.svc s).name) :
    activeDbFindByName g' = activeDbFindByName g := by
  funext service
  simp only [activeDbFindByName_eq, hdb, hname]

lemma activeDbFindByName_mem {g : G} {service : String} {s : Sid}
    (h : activeDbFindByName g service = some s) :
    s ∈ g.activeDb ∧ (g.svc s).name = service := by
  rw [activeDbFindByName_eq] at h
  exact ⟨List.mem_of_find?_eq_some h, by simpa using List.find?_some h⟩

def ActiveType.ofName (name : String) (now : Timeval) : ActiveType where
  name := name
  nameHash := hashStr name
  nameHash_eq := rfl
  type := none
  currentState := .new
  timeCurrentState := now
  lastState := none
  timeLastState := now
  nextState := none
  stateLock := 0
  lastRoughtState := .isNew
  lastRoughtTime := now
  data := []
  alarm := 0
  dependCache := 0

def ActiveType.needing (name : String) (type : Stype) (state : AState)
    (needs : List String) : ActiveType :=
  { ActiveType.ofName name ⟨0, 0⟩ with
    type := some type
    currentState := state
    lastRoughtState := state.is
    data := needs.map fun dep => ⟨.need, some dep, none⟩ }

/-- `initng_config_global_new`: no services.  Memory not allocated yet holds no name. -/
def configGlobalNew (now : Timeval) : G where
  activeDb := []
  interrupt := []
  svc := fun _ => .ofName "" now
  brk := 0
  sysState := .stateNull
  clock := now
  trace := []

def G.ofServices (sysState : HSysState) (services : List ActiveType) : G :=
  { configGlobalNew ⟨0, 0⟩ with
    activeDb := List.range services.length
    svc := fun s => services.getD s (.ofName "" ⟨0, 0⟩)
    brk := services.length
    sysState := sysState }

def activeDbNew (name : String) (g : G) : Sid × G :=
  (g.brk, { g.modify g.brk fun _ => .ofName name g.clock with brk := g.brk + 1 })

def activeDbRegister (addThis : Sid) (g : G) : Bool × G :=
  if (activeDbFindByName g (g.svc addThis).name).isSome then (false, g)
  else (true, { g with activeDb := g.activeDb ++ [addThis] }.observe
    (.registered addThis (getState g addThis)))

section
variable {g : G} {s t : Sid}

lemma activeDbFindByName_isSome (hs : s ∈ g.activeDb) :
    (activeDbFindByName g (g.svc s).name).isSome := by
  rw [activeDbFindByName_eq, List.find?_isSome]
  exact ⟨s, hs, by simp⟩

/-- A service is registered at most once, for its own name would be found. -/
lemma activeDbRegister_cases (s : Sid) (g : G) : (activeDbRegister s g).2 = g ∨
    (s ∉ g.activeDb ∧ (activeDbRegister s g).2 =
      { g with activeDb := g.activeDb ++ [s] }.observe (.registered s (getState g s))) := by
  unfold activeDbRegister
  split
  · exact .inl rfl
  next hfind => exact .inr ⟨fun hs => hfind (activeDbFindByName_isSome hs), rfl⟩

lemma nodup_append_singleton {l : List Sid} (hl : l.Nodup) (hs : s ∉ l) : (l ++ [s]).Nodup := by
  refine List.nodup_append.mpr ⟨hl, by simp, fun a ha b hb heq => ?_⟩
  rw [heq, List.mem_singleton.mp hb] at ha
  exact hs ha

end

end Initng
