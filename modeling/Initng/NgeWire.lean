import Initng.ActiveDb
import Initng.DecimalText
import Initng.TextSearch

/-! `modules/nge`, `initng_nge.c` and `libngeclient.c`. -/

namespace Initng

open DecimalText TextSearch

structure CText where
  chars : List Char
  nulFree : '\x00' ∉ chars
  deriving DecidableEq

def EIs.code : EIs → Int
  | .isNew => 0
  | .isUp => 1
  | .isDown => 2
  | .isFailed => 3
  | .isStarting => 4
  | .isStopping => 5
  | .isWaiting => 6

def HSysState.code : HSysState → Int
  | .stateNull => 0
  | .stateStarting => 1
  | .stateUp => 2
  | .stateStopping => 3
  | .stateAse => 4
  | .stateServicesLoaded => 5
  | .stateExit => 6
  | .stateRestart => 7
  | .stateSulogin => 8
  | .stateHalt => 9
  | .stateReboot => 10
  | .stateExecve => 11
  | .statePoweroff => 12

inductive EMt
  | msgFail | msgWarn | msg
  deriving DecidableEq

def EMt.code : EMt → Int
  | .msgFail => 0
  | .msgWarn => 1
  | .msg => 2

def tagOption (a : String × List Char) : List Char :=
  ' ' :: (a.1.toList ++ ('=' :: '\x22' :: (a.2 ++ ['\x22'])))

def eventOpen : List Char := "<event type=".toList

def eventClose : List Char := "</event>".toList

/-- How a tag ends: with `/>`, with a blank before it, or with content and `</event>`. -/
inductive TagEnding
  | empty
  | blank
  | content (text : List Char)
  deriving DecidableEq

def TagEnding.text : TagEnding → List Char
  | .empty => ['/', '>']
  | .blank => [' ', '/', '>']
  | .content text => '>' :: (text ++ eventClose)

/-- The tag of an event: what `type` says, the other options in their order, and the end. -/
structure EventTag where
  type : String
  attrs : List (String × List Char)
  ending : TagEnding

def EventTag.text (t : EventTag) : List Char :=
  eventOpen ++ '\x22' :: (t.type.toList ++ '\x22' :: (t.attrs.flatMap tagOption ++ t.ending.text))

/-- What the hooks of the server are called for, and `close_all_listeners`.  `send` is told to send
16 bytes of a string that has 14: the zero at its end goes with it, and what stands behind it. -/
inductive NgeServerEvent
  | serviceStateChange (sysState : HSysState) (service : CText) (is : EIs) (state : CText)
      (percent : Int32) (serviceType : CText) (hidden : Int32)
  | systemStateChange (state : HSysState) (runlevel : CText)
  | serviceOutput (service process buffer : CText)
  | errMsg (mt : EMt) (file func : CText) (line : Int32) (message : CText)
  | processKilled (service : CText) (is : EIs) (state process : CText) (exitStatus termSig : Int32)
  | disconnect (behind : Char)

def percentStarted (sysState : HSysState) (percent : Int32) : Int :=
  if sysState = .stateStarting then percent.toInt else 0

def percentStopped (sysState : HSysState) (percent : Int32) : Int :=
  if sysState = .stateStopping then percent.toInt else 0

/-- The tags of `astatus_change`, `system_state_change`, `system_pipe_watchers`, `print_error` and
`handle_killed`. -/
def NgeServerEvent.tag : NgeServerEvent → Option EventTag
  | .serviceStateChange sysState service is state percent serviceType hidden =>
    some ⟨"service_state_change",
      [("service", service.chars), ("is", printed is.code), ("state", state.chars),
        ("percent_started", printed (percentStarted sysState percent)),
        ("percent_stopped", printed (percentStopped sysState percent)),
        ("service_type", serviceType.chars), ("hidden", printed hidden.toInt)], .empty⟩
  | .systemStateChange state runlevel =>
    some ⟨"system_state_change",
      [("system_state", printed state.code), ("runlevel", runlevel.chars)], .blank⟩
  | .serviceOutput service process buffer =>
    some ⟨"service_output",
      [("service", service.chars), ("process", process.chars)], .content buffer.chars⟩
  | .errMsg mt file func line message =>
    some ⟨"err_msg",
      [("mt", printed mt.code), ("file", file.chars), ("func", func.chars),
        ("line", printed line.toInt)], .content message.chars⟩
  | .processKilled service is state process exitStatus termSig =>
    some ⟨"process_killed",
      [("service", service.chars), ("is", printed is.code), ("state", state.chars),
        ("process", process.chars), ("exit_status", printed exitStatus.toInt),
        ("term_sig", printed termSig.toInt)], .empty⟩
  | .disconnect _ => none

def disconnectLine : List Char := "</disconnect>\n".toList

def NgeServerEvent.text (e : NgeServerEvent) : List Char :=
  match e.tag, e with
  | some tag, _ => tag.text ++ ['\n']
  | none, .disconnect behind => disconnectLine ++ ['\x00', behind]
  | none, _ => []

/-- `nge_event`; a string that is missing is NULL.  A ping has the state type 0, by which
`get_next_event` tells that there is no event. -/
inductive NgeEvent
  | serviceStateChange (service : Option (List Char)) (is : Int) (stateName : Option (List Char))
      (percentStarted percentStopped : Int) (serviceType : Option (List Char)) (hidden : Int)
  | systemStateChange (systemState : Int) (runlevel : Option (List Char))
  | errMsg (mt : Int) (file func : Option (List Char)) (line : Int) (message : Option (List Char))
  | connect (pver : Int) (initngVersion : Option (List Char))
  | disconnect
  | initialServiceState (service : Option (List Char)) (is : Int) (stateName : Option (List Char))
      (serviceType : Option (List Char)) (hidden : Int)
  | initialSystemState (systemState : Int) (runlevel : Option (List Char))
  | initialStateFinished
  | serviceOutput (service process output : Option (List Char))
  | processKilled (service : Option (List Char)) (is : Int)
      (stateName process : Option (List Char)) (exitStatus termSig : Int)
  deriving DecidableEq

def untilQuote (point : List Char) : List Char := point.takeWhile fun c => c != '\x22'

/-- The loop of `ngeclient_get_option`; the two loops in it that skip blanks never turn, for no
character is both a space and a tab. -/
def getOptionFrom (name : List Char) : ℕ → List Char → Option (List Char)
  | 0, _ => none
  | fuel + 1, point =>
    match afterFirst name point with
    | none => none
    | some ('=' :: '\x22' :: point) => some (untilQuote point)
    | some ('=' :: point) => getOptionFrom name fuel point
    | some point => getOptionFrom name fuel point

def ngeclientGetOption (tag : List Char) (name : String) : Option (List Char) :=
  getOptionFrom name.toList (tag.length + 1) tag

def ngeclientGetInt (tag : List Char) (name : String) : Int :=
  match ngeclientGetOption tag name with
  | none => -1
  | some string => atoi string

def ngeclientGetContent (tag : List Char) : Option (List Char) :=
  if tag.head? ≠ some '<' then none
  else
    match tag.dropWhile fun c => c != '>' with
    | [] => none
    | _ :: point =>
      let content := point.takeWhile fun c => c != '<'
      if (point.drop content.length).isEmpty then none
      else if content.isEmpty then none
      else some content

def handleEventOf (type tag : List Char) : Option NgeEvent :=
  if type = "service_state_change".toList then
    some (.serviceStateChange (ngeclientGetOption tag "service") (ngeclientGetInt tag "is")
      (ngeclientGetOption tag "state") (ngeclientGetInt tag "percent_started")
      (ngeclientGetInt tag "percent_stopped") (ngeclientGetOption tag "service_type")
      (ngeclientGetInt tag "hidden"))
  else if type = "system_state_change".toList then
    some (.systemStateChange (ngeclientGetInt tag "system_state")
      (ngeclientGetOption tag "runlevel"))
  else if type = "service_output".toList then
    some (.serviceOutput (ngeclientGetOption tag "service") (ngeclientGetOption tag "process")
      (ngeclientGetContent tag))
  else if type = "process_killed".toList then
    some (.processKilled (ngeclientGetOption tag "service") (ngeclientGetInt tag "is")
      (ngeclientGetOption tag "state") (ngeclientGetOption tag "process")
      (ngeclientGetInt tag "exit_status") (ngeclientGetInt tag "term_sig"))
  else if type = "err_msg".toList then
    some (.errMsg (ngeclientGetInt tag "mt") (ngeclientGetOption tag "file")
      (ngeclientGetOption tag "func") (ngeclientGetInt tag "line") (ngeclientGetContent tag))
  else if type = "initial_service_state".toList then
    some (.initialServiceState (ngeclientGetOption tag "service") (ngeclientGetInt tag "is")
      (ngeclientGetOption tag "state") (ngeclientGetOption tag "service_type")
      (ngeclientGetInt tag "hidden"))
  else if type = "initial_system_state".toList then
    some (.initialSystemState (ngeclientGetInt tag "system_state")
      (ngeclientGetOption tag "runlevel"))
  else if type = "initial_state_finished".toList then some .initialStateFinished
  else none

def ngeclientHandleEvent (tag : List Char) : Option (Option NgeEvent) :=
  (ngeclientGetOption tag "type").map fun type => handleEventOf type tag

def ngeclientHandleConnect (tag : List Char) : NgeEvent :=
  .connect (ngeclientGetInt tag "protocol_version") (ngeclientGetOption tag "initng_version")

/-- `ngeclient_handle_tag`, with the event it fills, if it fills it.  The last `strncmp` compares
the zero at the end, too. -/
def ngeclientHandleTag (tag : List Char) : Option (Option NgeEvent) :=
  let name := tag.drop 1
  if name.head? = some '?' then some none
  else if "event ".toList.isPrefixOf name then ngeclientHandleEvent tag
  else if "connect ".toList.isPrefixOf name then some (some (ngeclientHandleConnect tag))
  else if name = "disconnect>".toList then some (some .disconnect)
  else some none

structure NgeConnection where
  readBuffer : Option (List Char)
  readBufferLen : ℕ
  deriving DecidableEq

def ngeclientConnected : NgeConnection := ⟨none, 0⟩

abbrev Arrival := List (List Char)

section
variable (junk : ℕ → Char)

/-- `ngeclient_read_and_fill_buffer`: `realloc` of NULL gives memory that holds anything. -/
def ngeclientReadAndFillBuffer (arrival : Arrival) (c : NgeConnection) : NgeConnection :=
  arrival.foldl
    (fun c piece =>
      ⟨c.readBuffer.map fun buffer => buffer ++ piece, c.readBufferLen + piece.length⟩)
    { c with readBuffer := some (c.readBuffer.getD ((List.range c.readBufferLen).map junk)) }

def ngeclientPollForInput (c : NgeConnection) : List Arrival → NgeConnection × List Arrival
  | [] => (c, [])
  | arrival :: later =>
    if arrival.isEmpty then (c, later)
    else (ngeclientReadAndFillBuffer junk arrival c, later)

def ngeclientCutBuffert (chars : ℕ) (c : NgeConnection) : NgeConnection :=
  match c.readBuffer with
  | none => c
  | some buffer =>
    if chars = 0 ∨ c.readBufferLen < 1 then c
    else ⟨some (buffer.drop chars), c.readBufferLen - chars⟩

def NgeConnection.string (c : NgeConnection) : List Char :=
  (c.readBuffer.getD []).takeWhile fun c => c != '\x00'

def closeLength (point : List Char) : ℕ :=
  let skipped := point.takeWhile fun c => c != '>'
  skipped.length + if (point.drop skipped.length).isEmpty then 0 else 1

def tagLength : List Char → Option ℕ
  | [] => none
  | c :: rest =>
    if c = '/' ∧ rest.head? = some '>' then some 2
    else if c = '<' ∧ rest.head? = some '/' then some (2 + closeLength (rest.drop 1))
    else (tagLength rest).map (· + 1)

def skipNewlines (c : NgeConnection) : NgeConnection :=
  ngeclientCutBuffert (c.string.takeWhile fun c => c == '\n').length c

inductive TagsRead
  | returned (event : Option NgeEvent) (c : NgeConnection)
  | rerun (c : NgeConnection)
  | fault
  deriving DecidableEq

def readTags : ℕ → NgeConnection → TagsRead
  | 0, _ => .fault
  | fuel + 1, c =>
    if c.string.isEmpty ∨ c.readBufferLen < 1 then .returned none c
    else
      let c := skipNewlines c
      match c.string with
      | [] => .rerun { c with readBuffer := none }
      | first :: _ =>
        if first ≠ '<' then .returned none c
        else
          match tagLength c.string with
          | none => .returned none c
          | some chars =>
            match ngeclientHandleTag (c.string.take chars) with
            | none => .fault
            | some none => readTags fuel (ngeclientCutBuffert chars c)
            | some (some event) => .returned (some event) (ngeclientCutBuffert chars c)

def NgeConnection.isEmpty (c : NgeConnection) : Bool := c.readBuffer.isNone || c.readBufferLen < 1

def getNextEvent : ℕ → NgeConnection → List Arrival →
    Option (Option NgeEvent × NgeConnection × List Arrival)
  | 0, _, _ => none
  | fuel + 1, c, arrivals =>
    let quick := ngeclientPollForInput junk c arrivals
    let polled := if quick.1.isEmpty then ngeclientPollForInput junk quick.1 quick.2 else quick
    if polled.1.isEmpty then some (none, polled)
    else
      match readTags (polled.1.readBufferLen + 1) polled.1 with
      | .returned event c => some (event, c, polled.2)
      | .rerun c => getNextEvent fuel c polled.2
      | .fault => none

/-- The events that `n` calls of `get_next_event` return.  A call that is made anew from itself
has polled before, so there are no more of them than there are arrivals. -/
def nextEvents : ℕ → NgeConnection → List Arrival →
    Option (List NgeEvent × NgeConnection × List Arrival)
  | 0, c, arrivals => some ([], c, arrivals)
  | n + 1, c, arrivals =>
    (getNextEvent junk (arrivals.length + 2) c arrivals).bind fun r =>
      (nextEvents n r.2.1 r.2.2).map fun more => (r.1.toList ++ more.1, more.2)

end

end Initng
