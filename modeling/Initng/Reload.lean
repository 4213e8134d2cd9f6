import Initng.ProcessDb

/-! `modules/reload/initng_reload.c`. -/

namespace Initng

def maxServiceNameStringLen : ℕ := 200
def maxServiceStateLen : ℕ := 100
def maxDataStringLen : ℕ := 200
def maxTypeStringLen : ℕ := 100
def maxProcesses : ℕ := 6
def maxPtypeStringLen : ℕ := 100
def maxEntrysForService : ℕ := 20
def maxDataVnLen : ℕ := 100
def maxPipes : ℕ := 6
def maxPipeTargets : ℕ := 5

inductive EDt
  | uDT | string | strings | set | int | alias | timeT
  | variableString | variableStrings | variableSet | variableInt | variableTimeT
  deriving DecidableEq

namespace EDt

def isVariable : EDt → Bool
  | variableString | variableStrings | variableSet | variableInt | variableTimeT => true
  | _ => false

def Value : EDt → Type
  | string | strings | variableString | variableStrings => Option String
  | int | variableInt | timeT | variableTimeT => Int
  | .uDT | .set | .alias | .variableSet => Unit

end EDt

structure DataType where
  name : String
  type : EDt
  deriving DecidableEq

structure DataEntry where
  type : DataType
  vn : Option String
  t : type.type.Value

/-- What `active_type` holds of a service that is saved.  Lists are in walking order; for data
that is the order of `get_next`. -/
structure SavedService where
  name : String
  currentState : AState
  type : Option Stype
  timeCurrentState : Timeval
  processes : List ProcessH
  data : List DataEntry

structure Registered where
  states : List AState
  states_names : (states.map AState.name).Nodup
  stypes : List Stype
  ptypes : List Ptype
  optionDb : List DataType

namespace Registered

variable (r : Registered)

def activeStateFind (name : String) : Option AState := r.states.find? fun s => s.name = name

/-- `initng_service_type_get_by_name`: `strncmp` compares no more than the name of the
registered type is long. -/
def serviceTypeGetByName (name : String) : Option Stype :=
  r.stypes.find? fun current => current.name.toList <+: name.toList

def ptypeFind (name : String) : Option Ptype := r.ptypes.find? fun pt => pt.name = name

def dataTypeFind (name : String) : Option DataType :=
  r.optionDb.find? fun current => current.name = name

end Registered

/-- `strncpy` into a zeroed array that is one longer than `n`, read as a string. -/
def strncpy (n : ℕ) (s : String) : String := String.ofList (s.toList.take n)

lemma strncpy_of_le {n : ℕ} {s : String} (h : s.length ≤ n) : strncpy n s = s := by
  rw [strncpy, List.take_of_length_le h, String.ofList_toList]

lemma length_strncpy_le (n : ℕ) (s : String) : (strncpy n s).length ≤ n := by
  rw [strncpy, String.length_ofList, List.length_take]
  exact Nat.min_le_left ..

inductive RValue
  | s (s : String)
  | i (i : Int)
  deriving DecidableEq

structure RDataEntry where
  type : String
  optType : EDt
  vn : String
  t : RValue
  deriving DecidableEq

structure RPipe where
  pipe : Int × Int
  dir : EDir
  targets : List Int
  deriving DecidableEq

structure RProcess where
  ptype : String
  pipes : List RPipe
  pid : Int
  rcode : Int
  deriving DecidableEq

structure DataSaveStruct where
  name : String
  type : String
  state : String
  timeCurrentState : Timeval
  process : List RProcess
  data : List RDataEntry
  deriving DecidableEq

/-- The targets in front of the first that is not positive, at most `MAX_PIPE_TARGETS`. -/
def copyTargets (targets : List Int) : List Int :=
  (targets.take maxPipeTargets).takeWhile fun target => target > 0

def writePipe (p : PipeH) : RPipe := ⟨p.pipe, p.dir, copyTargets p.targets⟩

def writeProcess (process : ProcessH) : RProcess where
  ptype := strncpy maxPtypeStringLen process.pt.name
  pipes := process.pipes.map writePipe
  pid := process.pid
  rcode := process.rCode

def writeValue : (type : EDt) → type.Value → Option RValue
  | .string, (s : Option String) | .strings, (s : Option String)
  | .variableString, (s : Option String) | .variableStrings, (s : Option String) =>
    s.map fun s => .s (strncpy maxDataStringLen s)
  | .int, (i : Int) | .variableInt, (i : Int) => some (.i i)
  | .uDT, _ | .set, _ | .alias, _ | .timeT, _ | .variableSet, _ | .variableTimeT, _ =>
    some (.i 0)

def writeVn (d : DataEntry) : Option String :=
  if d.type.type.isVariable then d.vn.map (strncpy maxDataVnLen) else some ""

def writeData (d : DataEntry) : Option RDataEntry := do
  let t ← writeValue d.type.type d.t
  let vn ← writeVn d
  return ⟨strncpy maxTypeStringLen d.type.name, d.type.type, vn, t⟩

/-- The record of one service.  `initng_list_foreach` walks the data from its newest entry. -/
def writeEntry (current : SavedService) : Option DataSaveStruct := do
  let data ← (current.data.reverse.take maxEntrysForService).mapM writeData
  return {
    name := strncpy maxServiceNameStringLen current.name
    type := (current.type.map fun type => strncpy maxTypeStringLen type.name).getD ""
    state := strncpy maxServiceStateLen current.currentState.name
    timeCurrentState := current.timeCurrentState
    process := (current.processes.take maxProcesses).map writeProcess
    data := data }

def writeFile : List SavedService → Option (Bool × List DataSaveStruct)
  | [] => some (true, [])
  | current :: rest =>
    if current.name.length ≥ maxServiceNameStringLen then do
      let (_, file) ← writeFile rest
      return (false, file)
    else do
      let entry ← writeEntry current
      let (success, file) ← writeFile rest
      return (success && current.data.length < maxEntrysForService, entry :: file)

def readPipes (p : ℕ) : List RPipe → List PipeH
  | [] => []
  | row :: rows =>
    if row.dir ≠ .unknownPipe ∧ p < maxPipes then
      ⟨row.pipe, row.dir, copyTargets row.targets⟩ :: readPipes (p + 1) rows
    else []

def readProcess (pt : Ptype) (row : RProcess) : ProcessH :=
  { processDbNew pt with
    pid := row.pid
    rCode := row.rcode
    pipes := (processDbNew pt).pipes ++ readPipes 0 row.pipes }

def readProcesses (r : Registered) (pnr : ℕ) : List RProcess → List ProcessH
  | [] => []
  | row :: rows =>
    if row.ptype ≠ "" ∧ pnr < maxProcesses then
      match r.ptypeFind row.ptype with
      | none => readProcesses r (pnr + 1) rows
      | some pt => readProcess pt row :: readProcesses r (pnr + 1) rows
    else []

/-- The union is read as the type says; a type that was saved is found again. -/
def readValue : (type : EDt) → RValue → type.Value
  | .string, .s s | .strings, .s s | .variableString, .s s | .variableStrings, .s s => some s
  | .string, .i _ | .strings, .i _ | .variableString, .i _ | .variableStrings, .i _ => some ""
  | .int, .i i | .variableInt, .i i => i
  | .int, .s _ | .variableInt, .s _ => (0 : Int)
  | .timeT, _ | .variableTimeT, _ => (0 : Int)
  | .uDT, _ | .set, _ | .alias, _ | .variableSet, _ => ()

def readData (type : DataType) (row : RDataEntry) : DataEntry where
  type := type
  vn := if type.type.isVariable then some row.vn else none
  t := readValue type.type row.t

/-- The loop over the data ends at a row without type; unknown types are skipped.
`initng_list_add` makes the row that is read last the newest entry. -/
def readDatas (r : Registered) : List RDataEntry → List DataEntry
  | [] => []
  | row :: rows =>
    if row.optType = .uDT then []
    else
      match r.dataTypeFind row.type with
      | none => readDatas r rows
      | some type => readData type row :: readDatas r rows

def readEntry (r : Registered) (entry : DataSaveStruct) (state : AState) (type : Stype) :
    SavedService where
  name := entry.name
  currentState := state
  type := some type
  timeCurrentState := entry.timeCurrentState
  processes := readProcesses r 0 entry.process
  data := readDatas r entry.data

def readFile (r : Registered) : List DataSaveStruct → List SavedService → Bool × List SavedService
  | [], db => (true, db)
  | entry :: rest, db =>
    -- "Entry exists, won't create it!"
    if db.any fun current => current.name = entry.name then readFile r rest db
    else
      match r.activeStateFind entry.state, r.serviceTypeGetByName entry.type with
      | some state, some type => readFile r rest (db ++ [readEntry r entry state type])
      | _, _ => (false, (readFile r rest db).2)

end Initng
