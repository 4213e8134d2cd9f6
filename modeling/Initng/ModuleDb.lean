import Initng.ListOrder

/-! `initng/list.h` and `main/module`. -/

namespace Initng

open LinkRing List

abbrev Mid := ℕ

/-- `struct initng_module`: what `init` returns, whether there is an `unload`, and the deps. -/
structure ModuleInfo where
  apiVersion : ℕ
  init : Option ℤ
  unload : Bool
  deps : List String
  deriving DecidableEq

inductive SharedObject
  /-- `stat` fails -/
  | missing
  /-- `dlopen` fails -/
  | broken
  /-- there is no symbol `initng_module` -/
  | bare
  | info (modinfo : ModuleInfo)
  deriving DecidableEq

structure ModuleFile where
  name : String
  path : String
  modinfo : ModuleInfo
  deriving DecidableEq

structure ModuleH extends ModuleFile where
  initialized : Bool
  remove : Bool
  deriving DecidableEq

def ModuleFile.initOk (m : ModuleFile) : Bool := decide (0 < m.modinfo.init.getD 0)

def apiVersion : ℕ := 19

def initngModuleOpen (file : SharedObject) (modulePath moduleName : String) : Option ModuleFile :=
  match file with
  | .missing | .broken | .bare => none
  | .info modinfo =>
    if modinfo.apiVersion ≠ apiVersion then none
    else if modinfo.init.isSome && modinfo.unload then some ⟨moduleName, modulePath, modinfo⟩
    else none

inductive ModuleCall
  | init (m : ModuleFile) (ok : Bool)
  | unload (m : ModuleFile)
  deriving DecidableEq

/-- `g.module_db`: the links, the modules at their addresses, the next address that is free
and the calls so far. -/
structure ModuleDb where
  list : Links ListAddr
  entry : Mid → ModuleH
  next : Mid
  calls : List ModuleCall

def ModuleDb.empty : ModuleDb where
  list
    | .head => some ⟨some .head, some .head⟩
    | .entry _ => some ⟨none, none⟩
  entry _ := ⟨⟨"", "", ⟨0, none, false, []⟩⟩, false, false⟩
  next := 0
  calls := []

namespace ModuleDb

def file (db : ModuleDb) (m : Mid) : ModuleFile := (db.entry m).toModuleFile

def call (c : ModuleCall) (db : ModuleDb) : ModuleDb := { db with calls := db.calls ++ [c] }

def setInitialized (m : Mid) (db : ModuleDb) : ModuleDb :=
  { db with entry := Function.update db.entry m { db.entry m with initialized := true } }

def setRemove (m : Mid) (remove : Bool) (db : ModuleDb) : ModuleDb :=
  { db with entry := Function.update db.entry m { db.entry m with remove } }

def alloc (m : ModuleFile) (db : ModuleDb) : Mid × ModuleDb :=
  (db.next, { db with
    entry := Function.update db.entry db.next ⟨m, false, false⟩, next := db.next + 1 })

end ModuleDb

def whileModuleDb (db : ModuleDb) : Option (List Mid) :=
  (initngListForeachRev (db.next + 1) .head db.list).map fun l =>
    l.filterMap fun a => match a with
      | .head => none
      | .entry m => some m

def onModule (body : Mid → ModuleDb → Option ModuleDb) : ListAddr → ModuleDb → Option ModuleDb
  | .head, _ => none
  | .entry m, db => body m db

def whileModuleDbSafe (body : Mid → ModuleDb → Option ModuleDb) (db : ModuleDb) :
    Option ModuleDb :=
  initngListForeachRevSafe ModuleDb.list (onModule body) (db.next + 1) .head db

def moduleListAdd (m : Mid) (db : ModuleDb) : Option ModuleDb :=
  (initngListAdd (.entry m) .head db.list).map fun list => { db with list }

def initngModuleCloseAndFree (m : Mid) (db : ModuleDb) : Option ModuleDb :=
  (initngListDel (.entry m) db.list).map fun list => { db with list }

def moduleIsLoaded (moduleName : String) (db : ModuleDb) : Option Bool := do
  let ms ← whileModuleDb db
  return ms.any fun m => (db.file m).name = moduleName

def moduleIsNeeded (moduleName : String) (db : ModuleDb) : Option Bool := do
  let ms ← whileModuleDb db
  return ms.any fun m => (db.file m).modinfo.deps.contains moduleName

def moduleNeedsAreLoaded (m : ModuleFile) (db : ModuleDb) : Option Bool :=
  m.modinfo.deps.allM fun need => moduleIsLoaded need db

/-- `initng_toolbox_strndup(s, strlen(s) - 3)`: below three characters the length wraps around
and the whole string is copied. -/
def dropSuffix (s : List Char) : List Char := if 3 ≤ s.length then s.take (s.length - 3) else s

def behindSlash (s : List Char) : List Char := (s.reverse.takeWhile (· ≠ '/')).reverse

def modulePathName (arg : String) : Option String × String :=
  if arg.toList.head? = some '/' ∧ ".so".toList <:+: arg.toList then
    let base := behindSlash arg.toList
    let base := if "mod".toList <+: base then base.drop 3 else base
    (some arg, String.ofList (dropSuffix base))
  else (none, arg)

/-- The paths that `initng_module_load` tries, one after another; `dir` is
`INITNG_MODULE_DIR`. -/
def modulePaths (dir : String) (modulePath : Option String) (moduleName : String) : List String :=
  [modulePath.getD (dir ++ "/mod" ++ moduleName ++ ".so"),
    "/lib/initng/" ++ moduleName ++ ".so",
    "/lib32/initng/" ++ moduleName ++ ".so",
    "/lib64/initng/" ++ moduleName ++ ".so"]

def moduleInit (m : Mid) (db : ModuleDb) : Option (Bool × ModuleDb) :=
  let db' := db.call (.init (db.file m) (db.file m).initOk)
  if (db.file m).initOk then some (true, db'.setInitialized m)
  else (initngModuleCloseAndFree m db').map fun db' => (false, db')

def loadOpened (file : ModuleFile) (db : ModuleDb) : Option (ModuleDb × Option Mid) := do
  let (m, db) := db.alloc file
  if !(← moduleNeedsAreLoaded file db) then
    return (← initngModuleCloseAndFree m db, none)
  let (ok, db) ← moduleInit m db
  if ok then
    return (← moduleListAdd m db, some m)
  return (db, none)

def initngModuleLoad (files : String → SharedObject) (dir arg : String) (db : ModuleDb) :
    Option (ModuleDb × Option Mid) := do
  let (modulePath, moduleName) := modulePathName arg
  if ← moduleIsLoaded moduleName db then
    return (db, none)
  match (modulePaths dir modulePath moduleName).findSome? fun path =>
      initngModuleOpen (files path) path moduleName with
  | none => return (db, none)
  | some file => loadOpened file db

def serviceModule : ModuleFile := ⟨"service", "/lib/initng/modservice.so", ⟨19, some 1, true, []⟩⟩

def synchronModule : ModuleFile :=
  ⟨"synchron", "/lib/initng/modsynchron.so", ⟨19, some 1, true, ["service"]⟩⟩

def serviceFiles (path : String) : SharedObject :=
  if path = serviceModule.path then .info serviceModule.modinfo
  else if path = synchronModule.path then .info synchronModule.modinfo
  else .missing

def moduleUnload (m : Mid) (db : ModuleDb) : Option ModuleDb :=
  initngModuleCloseAndFree m (db.call (.unload (db.file m)))

def initngModuleUnloadNamed (name : String) (db : ModuleDb) : Option (Bool × ModuleDb) := do
  if !(← moduleIsLoaded name db) then
    return (false, db)
  match (← whileModuleDb db).find? fun m => (db.file m).name = name with
  | none => return (false, db)
  | some m => return (true, db.setRemove m true)

def initngModuleUnloadAll (db : ModuleDb) : Option ModuleDb := do
  let db ← whileModuleDbSafe moduleUnload db
  let list ← initngListInit ListAddr.head db.list
  return { db with list }

def unloadMarked (m : Mid) (db : ModuleDb) : Option ModuleDb := do
  if !(db.entry m).remove then
    return db
  if ← moduleIsNeeded (db.file m).name db then
    return db.setRemove m false
  moduleUnload m db

def initngModuleUnloadMarked : ModuleDb → Option ModuleDb := whileModuleDbSafe unloadMarked

namespace ModuleDb

@[simp] lemma call_file (db : ModuleDb) (c : ModuleCall) (m : Mid) :
    (db.call c).file m = db.file m := rfl

@[simp] lemma setInitialized_file (db : ModuleDb) (m n : Mid) :
    (db.setInitialized m).file n = db.file n := by
  by_cases hn : n = m <;> simp [file, setInitialized, hn]

lemma alloc_file (db : ModuleDb) (file : ModuleFile) (m : Mid) :
    (db.alloc file).2.file m = if m = db.next then file else db.file m := by
  by_cases hm : m = db.next <;> simp [ModuleDb.file, alloc, hm]

end ModuleDb

structure ModuleDb.Lists (db : ModuleDb) (l : List Mid) : Prop where
  represents : Represents db.list l
  allocated : ∀ m ∈ l, m < db.next

lemma ModuleDb.empty_lists : ModuleDb.empty.Lists [] where
  represents := by
    refine ⟨Ring.of_chain (nodup_singleton _) ?_, fun s _ => ⟨rfl, rfl⟩⟩
    exact isChain_pair.mpr ⟨rfl, rfl⟩
  allocated := by simp

namespace ModuleDb.Lists

section
variable {db : ModuleDb} {l : List Mid}

variable (h : db.Lists l)
include h

lemma length_lt : l.length < db.next + 1 := h.represents.length_lt h.allocated

lemma next_notMem : db.next ∉ l := fun hm =>
  absurd (h.allocated _ hm) (lt_irrefl _)

lemma whileModuleDb : whileModuleDb db = some l := by
  rw [Initng.whileModuleDb, h.represents.foreachRev h.length_lt, Option.map_some, filterMap_map]
  exact congrArg some (filterMap_some)

lemma moduleIsLoaded (name : String) :
    moduleIsLoaded name db = some (l.any fun m => (db.file m).name = name) := by
  rw [Initng.moduleIsLoaded, h.whileModuleDb]
  rfl

lemma moduleNeedsAreLoaded (file : ModuleFile) :
    moduleNeedsAreLoaded file db = some
      (file.modinfo.deps.all fun need => l.any fun m => (db.file m).name = need) := by
  rw [Initng.moduleNeedsAreLoaded]
  induction file.modinfo.deps with
  | nil => rfl
  | cons need needs ih =>
    rw [allM, h.moduleIsLoaded, all_cons]
    cases l.any fun m => (db.file m).name = need with
    | false => rfl
    | true => exact ih

lemma add {m : Mid} (hm : m ∉ l) (hlt : m < db.next) :
    ∃ list, moduleListAdd m db = some { db with list } ∧
      ModuleDb.Lists { db with list } (l ++ [m]) := by
  obtain ⟨list, eq, r⟩ := h.represents.add hm
  refine ⟨list, by rw [moduleListAdd, eq]; rfl, r, fun n hn => ?_⟩
  rcases mem_append.mp hn with hn | hn
  · exact h.allocated n hn
  · rwa [mem_singleton.mp hn]

lemma closeAndFree (m : Mid) :
    ∃ list, initngModuleCloseAndFree m db = some { db with list } ∧
      ModuleDb.Lists { db with list } (l.filter (· ≠ m)) := by
  obtain ⟨list, eq, r⟩ := h.represents.del m
  refine ⟨list, by rw [initngModuleCloseAndFree, eq]; rfl, r, fun n hn => ?_⟩
  exact h.allocated n (mem_of_mem_filter hn)

lemma call (c : ModuleCall) : (db.call c).Lists l := ⟨h.represents, h.allocated⟩

lemma setInitialized (m : Mid) : (db.setInitialized m).Lists l := ⟨h.represents, h.allocated⟩

lemma alloc (file : ModuleFile) : (db.alloc file).2.Lists l :=
  ⟨h.represents, fun m hm => Nat.lt_succ_of_lt (h.allocated m hm)⟩

lemma moduleInit (m : Mid) :
    ∃ db', moduleInit m db = some ((db.file m).initOk, db') ∧
      db'.Lists (if (db.file m).initOk then l else l.filter (· ≠ m)) ∧
      db'.next = db.next ∧ (∀ n, db'.file n = db.file n) ∧
      (∀ n, n ≠ m → db'.entry n = db.entry n) ∧
      db'.calls = db.calls ++ [.init (db.file m) (db.file m).initOk] := by
  unfold Initng.moduleInit
  cases hok : (db.file m).initOk with
  | true =>
    refine ⟨_, rfl, (h.call _).setInitialized m, rfl, fun n => by simp, fun n hn => ?_, rfl⟩
    simp [ModuleDb.setInitialized, ModuleDb.call, hn]
  | false =>
    obtain ⟨list, eq, hdel⟩ := (h.call (.init (db.file m) false)).closeAndFree m
    exact ⟨_, by simp [eq], hdel, rfl, fun n => rfl, fun n _ => rfl, rfl⟩

end

end ModuleDb.Lists

end Initng
