import Initng.ServiceFile

/-! `modules/service_file/bp.c`. -/

namespace Initng.Bp

open List Option

abbrev Argv := List (Option String)

def arg (argv : Argv) (i : ℕ) : Option String := argv[i]?.join

def firstChar (string : String) : Char := string.toList.headD '\x00'

def untilNull : Argv → Option (List String)
  | [] => none
  | none :: _ => some []
  | some string :: rest => (untilNull rest).map (string :: ·)

/-- `strncat` to the value; a negative `left` is a large number there. -/
def strncat (value string : String) (left : Int) : Option String :=
  let text := value ++ if left < 0 then string else strncpy left.toNat string
  if text.length ≤ 1024 then some text else none

/-- What a function that builds requests does: it returns `FALSE`, or it calls `bp_send` with
one request after the other as long as that succeeds. -/
inductive Plan
  | refuse
  | send (requests : List BpReqType)
  deriving DecidableEq

def bpAddExec (argc : ℕ) (argv : Argv) : Option Plan := do
  let accepted ← if argc = 1 then pure true else
    if argc = 3 then (arg argv 2).map fun string => firstChar string == '=' else pure false
  if accepted then
    let relative ← if argc = 3 then (arg argv 3).map fun string => firstChar string != '/'
      else pure true
    let file ← if relative then arg argv 0 else pure ""
    let value ← if relative then
        strncat (strncpy 1024 file) " internal_" (1024 - file.length) else pure ""
    let left : Int := if relative then 1024 - file.length - 10 else 1024
    let action ← arg argv (if argc = 1 then 1 else 3)
    let value ← strncat value action left
    let name ← arg argv 1
    pure (.send [.setVariable "exec" (strncpy 100 name) value])
  else pure .refuse

def bpGetVariable (argc : ℕ) (argv : Argv) : Option Plan :=
  if argc = 1 then do
    let vartype ← arg argv 1
    pure (.send [.getVariable (strncpy 100 vartype) ""])
  else if argc = 2 then do
    -- `argv++` comes between the two
    let varname ← arg argv 1
    let vartype ← arg argv 2
    pure (.send [.getVariable (strncpy 100 vartype) (strncpy 100 varname)])
  else some .refuse

def setValues (vartype varname : String) (argv : Argv) : Option Plan :=
  (untilNull argv).map fun values => .send (values.map fun value =>
    .setVariable (strncpy 100 vartype) (strncpy 100 varname) (strncpy 1024 value))

def bpSetVariable (argc : ℕ) (argv : Argv) : Option Plan :=
  if argc < 1 then some .refuse
  else if argc < 3 then do
    let vartype ← arg argv 1
    let varname ← if argc = 2 then arg argv 2 else pure ""
    pure (.send [.setVariable (strncpy 100 vartype) (strncpy 100 varname) ""])
  else do
    let vartype ← arg argv 1
    let second ← arg argv 2
    if firstChar second = '=' then setValues vartype "" (argv.drop 3)
    else if argc < 4 then pure .refuse
    else do
      let third ← arg argv 3
      if firstChar third = '=' then setValues vartype second (argv.drop 4) else pure .refuse

def bpNewActive (argc : ℕ) (argv : Argv) : Option Plan :=
  if argc = 1 then do
    let type ← arg argv 1
    let fromFile ← arg argv 0
    pure (.send [.newActive (strncpy 40 type) (strncpy 100 fromFile)])
  else some .refuse

inductive Command
  | iunknown
  | iabort
  | iregister
  | idone
  | iget
  | iset
  | iexec
  deriving DecidableEq

def Command.name : Command → String
  | iunknown => ""
  | iabort => "iabort"
  | iregister => "iregister"
  | idone => "idone"
  | iget => "iget"
  | iset => "iset"
  | iexec => "iexec"

/-- `map_cmd`.  The names differ in their second letter, by which the source chooses the one to
compare with. -/
def mapCmd (cmd : String) : Command :=
  ([.iabort, .iregister, .idone, .iget, .iset, .iexec].find? fun c => c.name == cmd).getD .iunknown

def callCommand (cmd : Command) (argc : ℕ) (argv : Argv) : Option Plan :=
  match cmd with
  | .iunknown => some .refuse
  | .iabort => some (.send [.abort])
  | .idone => some (.send [.done])
  | .iregister => bpNewActive argc argv
  | .iget => bpGetVariable argc argv
  | .iset => bpSetVariable argc argv
  | .iexec => bpAddExec argc argv

/-- The requests that are sent if the `k`-th is answered with `answers k`. -/
def sendAll (answers : ℕ → Bool) : ℕ → List BpReqType → List BpReqType
  | _, [] => []
  | k, request :: rest => request :: if answers k then sendAll answers (k + 1) rest else []

def Plan.sent (answers : ℕ → Bool) : Plan → List BpReqType
  | refuse => []
  | send requests => sendAll answers 0 requests

def basename (string : String) : String :=
  String.ofList (string.toList.reverse.takeWhile (· ≠ '/')).reverse

def copyEntries : List String → ℕ → Argv → Argv
  | [], _, newArgv => newArgv
  | entry :: rest, newArgc, newArgv => copyEntries rest (newArgc + 1) (newArgv.set newArgc entry)

def newArgv (sfile : String) (args : List String) : Argv :=
  copyEntries args 0 ((replicate (args.length + 2) none).set 0 sfile)

/-- `main`: the requests it sends; `none` after a fault. -/
def main (sfile service : Option String) (argv0 : String) (args : List String)
    (answers : ℕ → Bool) : Option (List BpReq) :=
  match sfile, service with
  | some sfile, some service =>
    (callCommand (mapCmd (basename argv0)) args.length (newArgv sfile args)).map fun plan =>
      (plan.sent answers).map fun request => ⟨serviceFileVersion, request, strncpy 100 service⟩
  | _, _ => some []

structure Arg (size : ℕ) where
  text : String
  short : text.length < size

inductive Form
  | isetType (type : Arg 101)
  | isetName (type name : Arg 101)
  | isetValues (type : Arg 101) (value : Arg 1025) (values : List (Arg 1025))
  | isetNamed (type name : Arg 101) (value : Arg 1025) (values : List (Arg 1025))
  | igetType (type : Arg 101)
  | igetName (type name : Arg 101)
  | iexec (name : Arg 101)
  | iexecAction (name : Arg 101) (action : Arg 1025)
  | iregister (type : Arg 41)

namespace Form

def command : Form → Command
  | isetType _ | isetName _ _ | isetValues _ _ _ | isetNamed _ _ _ _ => .iset
  | igetType _ | igetName _ _ => .iget
  | iexec _ | iexecAction _ _ => .iexec
  | iregister _ => .iregister

def args : Form → List String
  | isetType type | igetType type => [type.text]
  | isetName type name | igetName type name => [type.text, name.text]
  | isetValues type value values => type.text :: "=" :: (value :: values).map Arg.text
  | isetNamed type name value values =>
    type.text :: name.text :: "=" :: (value :: values).map Arg.text
  | iexec name => [name.text]
  | iexecAction name action => [name.text, "=", action.text]
  | iregister type => [type.text]

def documented (sfile : String) : Form → List BpReqType
  | isetType type => [.setVariable type.text "" ""]
  | isetName type name => [.setVariable type.text name.text ""]
  | isetValues type value values =>
    (value :: values).map fun value => .setVariable type.text "" value.text
  | isetNamed type name value values =>
    (value :: values).map fun value => .setVariable type.text name.text value.text
  | igetType type => [.getVariable type.text ""]
  | igetName type name => [.getVariable type.text name.text]
  | iexec name => [.setVariable "exec" name.text (sfile ++ " internal_" ++ name.text)]
  | iexecAction name action =>
    [.setVariable "exec" name.text (sfile ++ " internal_" ++ action.text)]
  | iregister type => [.newActive type.text sfile]

def argv0 (dir : Option String) (form : Form) : String :=
  dir.elim form.command.name fun dir => dir ++ "/" ++ form.command.name

/-- The documented requests are sent, and nothing is read through NULL. -/
def SendsDocumented (dir : Option String) (sfile service : Arg 101) (answers : ℕ → Bool)
    (form : Form) : Prop :=
  main (some sfile.text) (some service.text) (form.argv0 dir) form.args answers =
    some ((form.documented sfile.text).map fun request =>
      ⟨serviceFileVersion, request, service.text⟩)

/-- The only command line that works: type and name are empty, and all requests but the last are
answered with success. -/
def Works (answers : ℕ → Bool) : Form → Prop
  | isetNamed type name _ values =>
    type.text = "" ∧ name.text = "" ∧ ∀ k < values.length, answers k = true
  | _ => False

end Form

lemma copyEntries_eq (args : List String) (front rest : Argv)
    (h : args.length ≤ rest.length) :
    copyEntries args front.length (front ++ rest) = front ++ args.map some ++
      rest.drop args.length := by
  induction args generalizing front rest with
  | nil => simp [copyEntries]
  | cons entry args ih =>
    obtain ⟨slot, rest, rfl⟩ : ∃ slot tail, rest = slot :: tail :=
      exists_cons_of_length_pos (by rw [length_cons] at h; omega)
    have hset : (front ++ slot :: rest).set front.length (some entry) =
        (front ++ [some entry]) ++ rest := by simp
    have hlen : front.length + 1 = (front ++ [some entry]).length := by simp
    rw [copyEntries, hset, hlen, ih _ _ (by simpa using h)]
    simp

lemma newArgv_cons (sfile entry : String) (args : List String) :
    newArgv sfile (entry :: args) = some entry :: (args.map some ++ [none, none]) := by
  have hcopy := copyEntries_eq (entry :: args) []
    ((replicate ((entry :: args).length + 2) none).set 0 (some sfile)) (by simp)
  have hdrop : ((replicate ((entry :: args).length + 2) none).set 0 (some sfile)).drop
      (entry :: args).length = [none, none] := by
    rw [length_cons, replicate_succ, set_cons_zero, drop_succ_cons, drop_replicate]
    simp [replicate]
  rw [newArgv]
  refine hcopy.trans ?_
  rw [hdrop]
  rfl

lemma basename_behind (dir : Option String) {name : String} (h : '/' ∉ name.toList) :
    basename (dir.elim name fun dir => dir ++ "/" ++ name) = name := by
  have htake (rest : List Char) : (name.toList.reverse ++ rest).takeWhile (· ≠ '/') =
      name.toList.reverse ++ rest.takeWhile (· ≠ '/') := by
    refine takeWhile_append_of_pos fun c hc => ?_
    have hne : c ≠ '/' := fun he => h (he ▸ mem_reverse.mp hc)
    simpa using hne
  cases dir with
  | none =>
    have hself := htake []
    rw [append_nil, takeWhile_nil, append_nil] at hself
    rw [elim_none, basename, hself, reverse_reverse, String.ofList_toList]
  | some dir =>
    have hchars : (dir ++ "/" ++ name).toList.reverse =
        name.toList.reverse ++ '/' :: dir.toList.reverse := by simp
    rw [elim_some, basename, hchars, htake, takeWhile_cons_of_neg (by decide),
      append_nil, reverse_reverse, String.ofList_toList]

namespace Form

lemma mapCmd_argv0 (dir : Option String) (form : Form) :
    mapCmd (basename (form.argv0 dir)) = form.command := by
  have hname (c : Command) : '/' ∉ c.name.toList ∧ mapCmd c.name = c := by
    cases c <;> decide
  rw [argv0, basename_behind dir (hname _).1, (hname _).2]

lemma sendsDocumented_iff {dir : Option String} {sfile service : Arg 101} {answers : ℕ → Bool}
    {form : Form} : form.SendsDocumented dir sfile service answers ↔
      ∃ plan, callCommand form.command form.args.length (newArgv sfile.text form.args) =
        some plan ∧ plan.sent answers = form.documented sfile.text := by
  have hservice : strncpy 100 service.text = service.text :=
    strncpy_of_le (Nat.le_of_lt_succ service.short)
  have hinj : Function.Injective fun request : BpReqType =>
      (⟨serviceFileVersion, request, service.text⟩ : BpReq) := fun a b h => congrArg BpReq.request h
  rw [SendsDocumented, main, mapCmd_argv0, hservice, map_eq_some_iff]
  simp only [hinj.list_map.eq_iff]

lemma not_sendsDocumented_of_none {form : Form} {dir : Option String} {sfile service : Arg 101}
    {answers : ℕ → Bool}
    (h : callCommand form.command form.args.length (newArgv sfile.text form.args) = none) :
    ¬ form.SendsDocumented dir sfile service answers := by
  rw [sendsDocumented_iff, h]
  rintro ⟨plan, hplan, -⟩
  cases hplan

end Form

lemma length_sendAll_le (answers : ℕ → Bool) (k : ℕ) (requests : List BpReqType) :
    (sendAll answers k requests).length ≤ requests.length := by
  induction requests generalizing k with
  | nil => exact Nat.le_refl 0
  | cons request rest ih =>
    have hrest := ih (k + 1)
    rw [sendAll]
    split
    · simpa using hrest
    · simp

lemma sendAll_eq_iff {answers : ℕ → Bool} {k : ℕ} {request : BpReqType}
    {rest : List BpReqType} : sendAll answers k (request :: rest) = request :: rest ↔
      ∀ i < rest.length, answers (k + i) = true := by
  induction rest generalizing k request with
  | nil => simp [sendAll]
  | cons next rest ih =>
    rw [sendAll]
    by_cases hk : answers k
    · rw [if_pos hk, cons_inj_right, ih]
      constructor
      · intro h i hi
        cases i with
        | zero => exact hk
        | succ i => exact Nat.add_right_comm k 1 i ▸ h i (Nat.lt_of_succ_lt_succ hi)
      · intro h i hi
        exact Nat.add_right_comm k 1 i ▸ h (i + 1) (Nat.succ_lt_succ hi)
    · rw [if_neg hk]
      exact iff_of_false (by simp) fun h => hk (h 0 (by simp))

lemma setValues_eq (vartype varname : String) (values : List String) (rest : Argv) :
    setValues vartype varname (values.map some ++ none :: rest) =
      some (.send (values.map fun value => .setVariable (strncpy 100 vartype)
        (strncpy 100 varname) (strncpy 1024 value))) := by
  have hvalues : untilNull (values.map some ++ none :: rest) = some values := by
    induction values with
    | nil => rfl
    | cons value values ih =>
      rw [map_cons, cons_append, untilNull, ih]
      rfl
  rw [setValues, hvalues, map_some]

/-- Without a name the vector is read one place too far on, so that a value is lost. -/
lemma bpSetVariable_unnamed (answers : ℕ → Bool) (type value : String) (values : List String) :
    ∃ plan, bpSetVariable (values.length + 3)
        (some type :: some "=" :: some value :: (values.map some ++ [none, none])) = some plan ∧
      (plan.sent answers).length ≤ values.length := by
  have hlength (vartype varname : String) (values : List String) :
      ((Plan.send (values.map fun value => .setVariable (strncpy 100 vartype)
        (strncpy 100 varname) (strncpy 1024 value))).sent answers).length ≤ values.length := by
    have hle := length_sendAll_le answers 0 (values.map fun value =>
      .setVariable (strncpy 100 vartype) (strncpy 100 varname) (strncpy 1024 value))
    rwa [length_map] at hle
  rw [bpSetVariable, if_neg (by omega), if_neg (by omega)]
  simp only [arg, getElem?_cons_succ, getElem?_cons_zero, join_some,
    bind_eq_bind, bind_some, drop_succ_cons, drop_zero]
  by_cases hfirst : firstChar value = '='
  · rw [if_pos hfirst, setValues_eq]
    exact ⟨_, rfl, hlength _ _ _⟩
  rw [if_neg hfirst]
  cases values with
  | nil => exact ⟨.refuse, rfl, Nat.le_refl 0⟩
  | cons next values =>
    simp only [length_cons, map_cons, cons_append, getElem?_cons_zero,
      join_some, bind_some, drop_succ_cons, drop_zero]
    rw [if_neg (by omega)]
    by_cases hnext : firstChar next = '='
    · rw [if_pos hnext, setValues_eq]
      exact ⟨_, rfl, Nat.le_succ_of_le (hlength _ _ _)⟩
    · rw [if_neg hnext]
      exact ⟨.refuse, rfl, Nat.zero_le _⟩

/-- With a name, the name is taken for the type. -/
lemma bpSetVariable_named (type name value : String) (values : List String) :
    bpSetVariable (values.length + 4) (some type :: some name :: some "=" :: some value ::
        (values.map some ++ [none, none])) =
      some (.send ((value :: values).map fun value =>
        .setVariable (strncpy 100 name) "" (strncpy 1024 value))) := by
  have hempty : strncpy 100 "" = "" := by decide
  rw [bpSetVariable, if_neg (by omega), if_neg (by omega)]
  simp only [arg, getElem?_cons_succ, getElem?_cons_zero, join_some,
    bind_eq_bind, bind_some, drop_succ_cons, drop_zero]
  rw [if_pos (by decide)]
  have hset := setValues_eq name "" (value :: values) [none]
  rwa [hempty] at hset

/-- `iexec` reads a NULL, or refuses: it looks for the equals sign in the place of the action. -/
lemma bpAddExec_named (name : String) : bpAddExec 1 [some name, none, none] = none := by
  simp [bpAddExec, arg]

lemma bpAddExec_action (name action : String) :
    bpAddExec 3 [some name, some "=", some action, none, none] = none ∨
      bpAddExec 3 [some name, some "=", some action, none, none] = some .refuse := by
  by_cases hfirst : firstChar action = '='
  · exact .inl (by simp [bpAddExec, arg, hfirst])
  · exact .inr (by simp [bpAddExec, arg, hfirst])

section
variable {dir : Option String} {sfile service : Arg 101} {answers : ℕ → Bool}

lemma isetValues_not_documented (type : Arg 101) (value : Arg 1025) (values : List (Arg 1025)) :
    ¬ (Form.isetValues type value values).SendsDocumented dir sfile service answers := by
  obtain ⟨plan, hplan, hle⟩ :=
    bpSetVariable_unnamed answers type.text value.text (values.map Arg.text)
  rw [length_map] at hplan hle
  rw [Form.sendsDocumented_iff]
  rintro ⟨plan', hplan', hsent⟩
  have heq : plan = plan' := by
    rw [Form.args, newArgv_cons] at hplan'
    simp only [map_cons, cons_append, length_cons, length_map] at hplan'
    exact some.inj (hplan.symm.trans hplan')
  have hlen := congrArg length hsent
  rw [← heq, Form.documented, length_map, length_cons] at hlen
  omega

lemma isetNamed_documented_iff (type name : Arg 101) (value : Arg 1025)
    (values : List (Arg 1025)) :
    (Form.isetNamed type name value values).SendsDocumented dir sfile service answers ↔
      type.text = "" ∧ name.text = "" ∧ ∀ k < values.length, answers k = true := by
  have hplan := bpSetVariable_named type.text name.text value.text (values.map Arg.text)
  have hname : strncpy 100 name.text = name.text := strncpy_of_le (Nat.le_of_lt_succ name.short)
  have hvalues : ((value.text :: values.map Arg.text).map fun value =>
      BpReqType.setVariable (strncpy 100 name.text) "" (strncpy 1024 value)) =
      (value :: values).map fun value => .setVariable name.text "" value.text := by
    rw [← List.map_cons, List.map_map, hname]
    refine map_congr_left fun v _ => ?_
    rw [Function.comp_apply, strncpy_of_le (Nat.le_of_lt_succ v.short)]
  rw [length_map, hvalues] at hplan
  rw [Form.sendsDocumented_iff, Form.args, newArgv_cons]
  simp only [map_cons, cons_append, length_cons, length_map, Form.command,
    callCommand, hplan, some.injEq, exists_eq_left', Plan.sent, Form.documented]
  constructor
  · intro h
    have hfirst := (cons.inj h).1
    simp only [BpReqType.setVariable.injEq] at hfirst
    obtain ⟨htype, hempty, -⟩ := hfirst
    rw [← htype, ← hempty, sendAll_eq_iff] at h
    exact ⟨htype ▸ hempty.symm, hempty.symm, by simpa using h⟩
  · rintro ⟨htype, hempty, hanswers⟩
    rw [htype, hempty, sendAll_eq_iff]
    simpa using hanswers

end

/-- The documented requests are sent for one form of `iset` only, and there only for an empty type
and an empty name. -/
theorem sendsDocumented_iff_works (dir : Option String) (sfile service : Arg 101)
    (answers : ℕ → Bool) (form : Form) :
    form.SendsDocumented dir sfile service answers ↔ form.Works answers := by
  cases form with
  | isetType | isetName => exact iff_of_false (Form.not_sendsDocumented_of_none rfl) id
  | isetValues type value values =>
    exact iff_of_false (isetValues_not_documented type value values) id
  | isetNamed type name value values => exact isetNamed_documented_iff type name value values
  | igetType | igetName => exact iff_of_false (Form.not_sendsDocumented_of_none rfl) id
  | iexec name =>
    exact iff_of_false (Form.not_sendsDocumented_of_none (bpAddExec_named name.text)) id
  | iexecAction name action =>
    refine iff_of_false ?_ id
    rcases bpAddExec_action name.text action.text with hnone | hrefuse
    · exact Form.not_sendsDocumented_of_none hnone
    · rw [Form.sendsDocumented_iff]
      rintro ⟨plan, hplan, hsent⟩
      obtain rfl : .refuse = plan := some.inj (hrefuse.symm.trans hplan)
      exact cons_ne_nil _ _ hsent.symm
  | iregister type => exact iff_of_false (Form.not_sendsDocumented_of_none rfl) id

/-- `iset need = net` is refused, and `iget need` reads through NULL. -/
theorem not_always_documented :
    main (some "/etc/initng/getty") (some "getty") "iset" ["need", "=", "net"] (fun _ => true) =
        some [] ∧
      main (some "/etc/initng/getty") (some "getty") "iget" ["need"] (fun _ => true) = none ∧
      ¬ ∀ form : Form, form.SendsDocumented none ⟨"/etc/initng/getty", by decide⟩
        ⟨"getty", by decide⟩ fun _ => true := by
  have hiset : main (some "/etc/initng/getty") (some "getty") "iset" ["need", "=", "net"]
      (fun _ => true) = some [] := by decide +kernel
  refine ⟨hiset, by decide +kernel, fun h => ?_⟩
  have hsent := h (.isetValues ⟨"need", by decide⟩ ⟨"net", by decide⟩ [])
  exact absurd (hiset.symm.trans hsent) (by decide +kernel)

end Initng.Bp
