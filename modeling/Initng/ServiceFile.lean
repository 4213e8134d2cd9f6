import Initng.DecimalText
import Initng.Reload
import Initng.RequestEffect
import Initng.ServiceHooks

/-! `modules/service_file/initng_service_file.c`. -/

namespace Initng

namespace AState

def parsing : AState := ⟨"PARSING", .isNew⟩
def parsingForStart : AState := ⟨"PARSING_FOR_START", .isNew⟩
def notRunning : AState := ⟨"NOT_RUNNING", .isDown⟩
def parseFail : AState := ⟨"PARSE_FAIL", .isFailed⟩

end AState

def Parsing (g : G) (s : Sid) : Prop :=
  (g.svc s).currentState = .parsing ∨ (g.svc s).currentState = .parsingForStart

instance (g : G) (s : Sid) : Decidable (Parsing g s) := inferInstanceAs (Decidable (_ ∨ _))

def Stype.unset : Stype := ⟨"unset"⟩

def jumpSpaces (string : List Char) : List Char := string.dropWhile fun c => c == ' ' || c == '\t'

def dupQuoted (close : Char) (string : List Char) : Option (List Char × List Char) :=
  let word := string.takeWhile fun c => c != close
  if word.isEmpty then none else some (word, (string.drop word.length).drop 1)

/-- `initng_string_dup_next_word`: the word, and where the string goes on. -/
def dupNextWord (string : List Char) : Option (List Char × List Char) :=
  match jumpSpaces string with
  | [] => none
  | c :: rest =>
    if c = '\n' then none
    else if c = '\x22' then dupQuoted '\x22' rest
    else if c = '\x7b' then dupQuoted '\x7d' rest
    else
      let word := (c :: rest).takeWhile fun c => !" \t\n;,".toList.contains c
      if word.isEmpty then none else some (word, (c :: rest).drop word.length)

lemma dupQuoted_length {close : Char} {string word rest : List Char}
    (h : dupQuoted close string = some (word, rest)) : rest.length ≤ string.length := by
  unfold dupQuoted at h
  dsimp only at h
  split at h
  · cases h
  · cases h
    simp only [List.length_drop]
    omega

lemma dupNextWord_length {string word rest : List Char}
    (h : dupNextWord string = some (word, rest)) : rest.length < string.length := by
  have hjump : (jumpSpaces string).length ≤ string.length := (List.dropWhile_sublist _).length_le
  unfold dupNextWord at h
  split at h
  · cases h
  next c tail heq =>
    rw [heq, List.length_cons] at hjump
    split at h
    · cases h
    split at h
    · have := dupQuoted_length h
      omega
    split at h
    · have := dupQuoted_length h
      omega
    · dsimp only at h
      split at h
      · cases h
      next hword =>
        cases h
        have hpos : 0 < ((c :: tail).takeWhile fun c => !" \t\n;,".toList.contains c).length := by
          simpa [List.isEmpty_iff, List.length_pos_iff] using hword
        simp only [List.length_drop, List.length_cons]
        omega

def dupWords (string : List Char) : List String :=
  match _h : dupNextWord string with
  | none => []
  | some (word, rest) => String.ofList word :: dupWords rest
termination_by string.length
decreasing_by exact dupNextWord_length _h

/-! ## Data

The records of `G` have no room for the `t.i` of an entry; its place is taken by the text that
`%i` prints of it. -/

def SEntry.ofName (name : String) : SEntry :=
  if name = "env" then .env
  else if name = "use" then .use
  else if name = "need" then .need
  else if name = "require" then .require
  else if name = "from_file" then .fromFile
  else if name = "internal_restarting" then .restarting
  else .other name

def SData.matches (type : SEntry) (vn : Option String) (d : SData) : Bool :=
  d.type == type && (d.vn.isNone || vn.isNone || d.vn == vn)

def putData (new : SData) : List SData → List SData
  | [] => [new]
  | d :: rest =>
    if d.matches new.type new.vn then { d with s := new.s } :: rest else d :: putData new rest

def addOnce (new : SData) (data : List SData) : List SData :=
  if data.any (SData.matches new.type new.vn) then data else data ++ [new]

/-- What the functions that set data have in common: an entry of a type above 50 is not set
without a variable name. -/
def setData (type : DataType) (vn : Option String) (active : Sid)
    (f : List SData → List SData) (g : G) : G :=
  if vn.isNone && type.type.isVariable then g
  else g.modify active fun a => { a with data := f a.data }

def setStringVar (type : DataType) (vn : Option String) (active : Sid) (string : String) : G → G :=
  setData type vn active (putData ⟨.ofName type.name, some string, vn⟩)

def setIntVar (type : DataType) (vn : Option String) (active : Sid) (value : Int) : G → G :=
  setData type vn active (putData ⟨.ofName type.name, some (toString value), vn⟩)

def setAnotherStringVar (type : DataType) (vn : Option String) (active : Sid) (string : String) :
    G → G :=
  setData type vn active (· ++ [⟨.ofName type.name, some string, vn⟩])

def setVar (type : DataType) (vn : Option String) (active : Sid) : G → G :=
  setData type vn active (addOnce ⟨.ofName type.name, none, vn⟩)

def varsOf (type : DataType) (vn : Option String) (active : Sid) (g : G) : List SData :=
  (g.svc active).data.filter (SData.matches (.ofName type.name) vn)

inductive BpReqType
  | unsetInvalid
  | newActive (type fromFile : String)
  | setVariable (vartype varname value : String)
  | getVariable (vartype varname : String)
  | done
  | abort
  deriving DecidableEq

structure BpReq where
  version : Int
  request : BpReqType
  service : String
  deriving DecidableEq

structure BpRep where
  success : Bool := false
  message : String := ""
  deriving DecidableEq

def serviceFileVersion : Int := 1

def bpRepMaxlen : ℕ := 1024

def BpRep.failed (message : String) : BpRep := ⟨false, message⟩

def orNull (string : String) : Option String := if string.isEmpty then none else some string

def setOrigin (newActive : Sid) (fromFile : String) (stype : Stype) (g : G) : G :=
  g.modify newActive fun a =>
    { a with data := putData ⟨.fromFile, some fromFile, none⟩ a.data, type := some stype }

def bpNewActive (r : Registered) (type service fromFile : String) (g : G) : BpRep × G :=
  match r.serviceTypeGetByName type with
  | none =>
    (.failed ("Unable to find service type \"" ++ strncpy 500 type ++ "\" ."), g)
  | some stype =>
    match activeDbFindByName g service with
    | some newActive =>
      if (g.svc newActive).currentState ≠ .parsingForStart then (.failed "Duplet found.", g)
      else (⟨true, ""⟩, setOrigin newActive fromFile stype g)
    | none =>
      let newActive := (activeDbNew service g).1
      let g := (activeDbNew service g).2.modify newActive fun a =>
        { a with currentState := .parsing }
      if (activeDbRegister newActive g).1 then
        (⟨true, ""⟩, setOrigin newActive fromFile stype (activeDbRegister newActive g).2)
      else ({}, activeDbFree newActive g)

def bpSetByType (type : DataType) (varname : Option String) (value : String) (active : Sid)
    (g : G) : BpRep × G :=
  match type.type with
  | .string | .variableString => (⟨true, ""⟩, setStringVar type varname active value g)
  | .strings | .variableStrings =>
    (⟨true, ""⟩, (dupWords value.toList).foldl
      (fun g word => setAnotherStringVar type varname active word g) g)
  | .set | .variableSet => (⟨true, ""⟩, setVar type varname active g)
  | .int | .variableInt =>
    (⟨true, ""⟩, setIntVar type varname active (DecimalText.atoi value.toList) g)
  | _ => (.failed "Unknown data type.", g)

def EDt.isSet (type : EDt) : Bool := type == .set || type == .variableSet

def bpSetVariable (r : Registered) (service vartype varname value : String) (g : G) :
    BpRep × G :=
  if service.isEmpty then (.failed "Service missing.", g)
  else if vartype.isEmpty then (.failed "Vartype missing.", g)
  else
    match activeDbFindByName g service with
    | none => (.failed (service ++ ": service not found"), g)
    | some active =>
      if ¬ Parsing g active then
        (.failed "Please dont edit finished services.", g)
      else
        match r.dataTypeFind vartype with
        | none => (.failed (vartype ++ ": variable entry not found"), g)
        | some type =>
          if value.isEmpty && !type.type.isSet then (.failed "Value missing.", g)
          else bpSetByType type (orNull varname) value active g

def overlay (message : List Char) (p : ℕ) (text : List Char) : List Char :=
  message.take p ++ text ++ message.drop (p + text.length)

/-- The loop of `bp_get_variable` over the strings; it ends when no room remains, and `none` is
`strlen` of NULL.  The place `p` moves on by the blank only. -/
def bpGetStrings : List SData → ℕ → ℕ → List Char → Option (List Char)
  | [], _, _, _ => none
  | itt :: rest, p, rem, message =>
    match itt.s with
    | none => none
    | some tmp =>
      let text := tmp.toList.take rem
      let message := overlay message p text
      if rem - text.length = 0 then some message
      else bpGetStrings rest (p + 1) (rem - text.length - 1) (overlay message p [' '])

def cText (message : List Char) : String := String.ofList (message.takeWhile fun c => c != '\x00')

def bpGetVariable (r : Registered) (service vartype varname : String) (g : G) : Option BpRep :=
  if service.isEmpty || vartype.isEmpty then some (.failed "Variables missing.")
  else
    match activeDbFindByName g service with
    | none => some (.failed (service ++ ": service not found"))
    | some active =>
      match r.dataTypeFind vartype with
      | none => some (.failed "Variable entry not found.")
      | some type =>
        let vars := varsOf type (orNull varname) active g
        match type.type with
        | .string | .variableString =>
          (vars.head?.bind SData.s).map fun string => ⟨true, strncpy bpRepMaxlen string⟩
        | .strings | .variableStrings =>
          (bpGetStrings vars 0 bpRepMaxlen (List.replicate (bpRepMaxlen + 1) '\x00')).map
            fun message => ⟨true, cText message⟩
        | .set | .variableSet => some ⟨!vars.isEmpty, ""⟩
        | .int | .variableInt => some ⟨true, (vars.head?.bind SData.s).getD "0"⟩
        | _ => some (.failed "Unknown data type.")

def BpRep.notParsing : BpRep := .failed "Service is not in PARSING state, can not start."

def bpDone (m : Modules) (fuel : ℕ) (service : String) (g : G) : Option (BpRep × G) :=
  match activeDbFindByName g service with
  | none => some (.failed "Service not found.", g)
  | some active =>
    if (g.svc active).type = none ∨ (g.svc active).type = some .unset then
      some (.failed "Type not set, please run iregister type service\n", g)
    else if (g.svc active).currentState = .parsingForStart then
      let marked := commonMarkService active .redyForStart g
      if marked.1 then
        (handlerStartService m fuel active marked.2).map fun started =>
          (⟨started.1, ""⟩, started.2)
      else some (.notParsing, marked.2)
    else if (g.svc active).currentState = .parsing then
      let marked := commonMarkService active .notRunning g
      some (⟨marked.1, ""⟩, marked.2)
    else some (.notParsing, g)

def bpAbort (service : String) (g : G) : BpRep :=
  match activeDbFindByName g service with
  | none => .failed "Service not found."
  | some active =>
    if ¬ Parsing g active then
      .failed "Service is not in PARSING state, cant start."
    else ⟨true, ""⟩

def bpHandleClient (m : Modules) (r : Registered) (fuel : ℕ) (req : BpReq) (g : G) :
    Option (BpRep × G) :=
  if req.version ≠ serviceFileVersion then some (.failed "Bad protocol version", g)
  else
    match req.request with
    | .newActive type fromFile => some (bpNewActive r type req.service fromFile g)
    | .setVariable vartype varname value =>
      some (bpSetVariable r req.service vartype varname value g)
    | .getVariable vartype varname =>
      (bpGetVariable r req.service vartype varname g).map fun rep => (rep, g)
    | .done => bpDone m fuel req.service g
    | .abort => some (bpAbort req.service g, g)
    | .unsetInvalid => some ({}, g)

def handleKilled (m : Modules) (fuel : ℕ) (service : Sid) (rCode : Int) (g : G) : Option G :=
  if wExitStatus rCode ≠ 0 ∨ (g.svc service).type = some .unset then
    some (commonMarkService service .parseFail g).2
  else (handlerStartService m fuel service g).map Prod.snd

structure FileStat where
  regular : Bool
  executable : Bool
  deriving DecidableEq

def parseNewServiceFile (stat : Option FileStat) (name : String) (g : G) : Option Sid × G :=
  match stat with
  | none => (none, g)
  | some fstat =>
    if !fstat.regular then (none, g)
    else if !fstat.executable then (none, g)
    else
      let newActive := (activeDbNew name g).1
      let g := (activeDbNew name g).2.modify newActive fun a =>
        { a with currentState := .parsingForStart, type := some .unset }
      if (activeDbRegister newActive g).1 then (some newActive, (activeDbRegister newActive g).2)
      else (none, activeDbFree newActive g)

def stringBasename (string : List Char) : List Char :=
  (string.reverse.takeWhile fun c => c != '/').reverse

def beforeSlash (string : List Char) : List Char :=
  ((string.reverse.dropWhile fun c => c != '/').drop 1).reverse

def triedFiles (root name : String) : List String :=
  let file := root ++ "/" ++ name
  [file, file ++ "/this", String.ofList (beforeSlash file.toList) ++ "/any"]

def parseFirst (stat : String → Option FileStat) (name : String) : List String → G → Option Sid × G
  | [], g => (none, g)
  | file :: files, g =>
    match parseNewServiceFile (stat file) name g with
    | (some newActive, g) => (some newActive, g)
    | (none, g) => parseFirst stat name files g

def createNewActive (root : String) (stat : String → Option FileStat) (name : String)
    (st : G × Option Sid) : EventStatus × (G × Option Sid) :=
  if stringBasename name.toList = "this".toList ∨ stringBasename name.toList = "any".toList then
    (.unknown, st)
  else
    match parseFirst stat name (triedFiles root name) st.1 with
    | (some newActive, g) => (.handled, (g, some newActive))
    | (none, g) => (.unknown, (g, st.2))

end Initng
