import Initng.HeapBlock
import Initng.NgeWire
import Initng.ServiceFile

/-! `main/env/new.c`. -/

namespace Initng

open DecimalText HeapBlock List Option

/-- What the environment is made of: `initng_environ`, `getppid()`, the service, the names in
`g`, and the names and values of the ENV entries in the order of `get_next_string_var`. -/
structure EnvData where
  environ : List CText
  environ_length : environ.length ≤ 8
  ppid : Int
  name : CText
  devConsole : Option CText
  runlevel : Option CText
  oldRunlevel : Option CText
  entries : List (CText × CText)

abbrev EnvSlots := List (List Char)

/-- `env[nr]` gets `size` bytes, into which the parts are copied, and `nr` is increased; `none`
if a part does not fit or there is no slot. -/
def addString (size : ℕ) (parts : List (List Char)) (env : EnvSlots) : Option EnvSlots :=
  if env.length < 114 then (concatText '\x00' size parts).map fun string => env ++ [string]
  else none

/-- `snprintf` cuts the text off. -/
def addPid (ppid : Int) : EnvSlots → Option EnvSlots :=
  addString 32 [("INITNG_PID=".toList ++ printed ppid).take 31]

def addLevel (size : ℕ) (name : String) (runlevel : Option CText) (env : EnvSlots) :
    Option EnvSlots :=
  match runlevel with
  | some runlevel =>
    if env.length + 1 < 114 then
      addString (size + runlevel.chars.length) [name.toList, runlevel.chars] env
    else some env
  | none => some env

def addEntry (env : EnvSlots) (entry : CText × CText) : Option EnvSlots :=
  if env.length + 1 < 114 then
    addString (1 + entry.1.chars.length + entry.2.chars.length)
      [entry.1.chars, ['='], entry.2.chars] env
  else some env

namespace EnvData

variable (d : EnvData)

def console : List Char := (d.devConsole.map CText.chars).getD "/dev/console".toList

def serviceStrings : List (EnvSlots → Option EnvSlots) :=
  [addString (9 + d.name.chars.length) ["SERVICE=".toList, d.name.chars],
    addString (6 + d.name.chars.length) ["NAME=".toList, stringBasename d.name.chars],
    addString (9 + d.console.length) ["CONSOLE=".toList, d.console],
    addLevel 10 "RUNLEVEL=" d.runlevel, addLevel 14 "PREVLEVEL=" d.oldRunlevel]

def initngEnvNew : Option EnvSlots := do
  let env ← addPid d.ppid (d.environ.map CText.chars)
  let env ← if env.length + 4 < 114 then do
      let env ← d.serviceStrings.foldlM (fun env add => add env) env
      d.entries.foldlM addEntry env
    else some env
  if env.length < 114 then some env else none

/-- All strings are written inside of their memory and all slots inside of the array, and of less
than 100 entries each is there. -/
def Built : Prop :=
  ∃ env, d.initngEnvNew = some env ∧ env.length + 1 ≤ 114 ∧
    (d.entries.length < 100 → ∀ entry ∈ d.entries, entry.1.chars ++ '=' :: entry.2.chars ∈ env)

end EnvData

def AddsOne (add : EnvSlots → Option EnvSlots) : Prop :=
  ∀ env : EnvSlots, env.length < 113 → ∃ env', add env = some env' ∧ env'.length ≤ env.length + 1

lemma addsOne_addString {size : ℕ} {parts : List (List Char)}
    (hparts : ∀ part ∈ parts, '\x00' ∉ part) (hfits : parts.flatten.length < size) :
    AddsOne (addString size parts) := by
  intro env henv
  have hconcat : concatText '\x00' size parts = some parts.flatten := by
    rw [concatText_eq (by omega) hparts, if_pos hfits]
  refine ⟨env ++ [parts.flatten], ?_, by rw [length_append, length_singleton]⟩
  rw [addString, if_pos (by omega), hconcat, map_some]

lemma addsOne_named {k n : ℕ} {name : String} {text : List Char}
    (hname : '\x00' ∉ name.toList) (hk : name.toList.length < k) (htext : '\x00' ∉ text)
    (hn : text.length ≤ n) : AddsOne (addString (k + n) [name.toList, text]) := by
  refine addsOne_addString (fun part hpart => ?_) ?_
  · rcases mem_pair.mp hpart with rfl | rfl
    · exact hname
    · exact htext
  · rw [flatten_cons, flatten_singleton, length_append]
    omega

lemma addsOne_addLevel {size : ℕ} {name : String} (hname : '\x00' ∉ name.toList)
    (hsize : name.toList.length < size) (runlevel : Option CText) :
    AddsOne (addLevel size name runlevel) := by
  intro env henv
  cases runlevel with
  | none => exact ⟨env, rfl, Nat.le_succ _⟩
  | some runlevel =>
    rw [addLevel, if_pos (by omega)]
    exact addsOne_named hname hsize runlevel.nulFree le_rfl env henv

lemma foldlM_addsOne {adds : List (EnvSlots → Option EnvSlots)} (hadds : ∀ add ∈ adds, AddsOne add)
    {env : EnvSlots} (henv : env.length + adds.length < 114) :
    ∃ env', adds.foldlM (fun env add => add env) env = some env' ∧
      env'.length ≤ env.length + adds.length := by
  induction adds generalizing env with
  | nil => exact ⟨env, rfl, le_rfl⟩
  | cons add adds ih =>
    rw [length_cons] at henv
    obtain ⟨env₁, h₁, hlen₁⟩ := hadds add (.head _) env (by omega)
    obtain ⟨env', h', hlen'⟩ := ih (fun a ha => hadds a (.tail _ ha)) (by omega : env₁.length + _ < _)
    refine ⟨env', ?_, by rw [length_cons]; omega⟩
    rw [foldlM_cons, h₁]
    exact h'

lemma addEntry_overflows {env : EnvSlots} (henv : env.length + 1 < 114) (entry : CText × CText) :
    addEntry env entry = none := by
  have hparts : ∀ part ∈ [entry.1.chars, ['='], entry.2.chars], '\x00' ∉ part := by
    simp [entry.1.nulFree, entry.2.nulFree]
  have hlen : [entry.1.chars, ['='], entry.2.chars].flatten.length =
      entry.1.chars.length + (1 + entry.2.chars.length) := by
    rw [flatten_cons, flatten_cons, flatten_singleton, length_append, length_append,
      length_singleton]
  rw [addEntry, if_pos henv, addString, if_pos (by omega), concatText_eq (by omega) hparts,
    if_neg (by omega), map_none]

namespace EnvData

variable (d : EnvData)

lemma addsOne_serviceStrings : ∀ add ∈ d.serviceStrings, AddsOne add := by
  have hbase : '\x00' ∉ stringBasename d.name.chars := by
    intro h
    rw [stringBasename, mem_reverse] at h
    exact d.name.nulFree (mem_reverse.mp (takeWhile_subset _ h))
  have hshort : (stringBasename d.name.chars).length ≤ d.name.chars.length := by
    have hle := (takeWhile_sublist (fun c => c != '/') (l := d.name.chars.reverse)).length_le
    rw [stringBasename, length_reverse]
    rwa [length_reverse] at hle
  have hconsole : '\x00' ∉ d.console := by
    unfold console
    cases d.devConsole with
    | none => decide
    | some text => exact text.nulFree
  simp only [serviceStrings, forall_mem_cons]
  exact ⟨addsOne_named (by decide) (by decide) d.name.nulFree le_rfl,
    addsOne_named (by decide) (by decide) hbase hshort,
    addsOne_named (by decide) (by decide) hconsole le_rfl,
    addsOne_addLevel (by decide) (by decide) _, addsOne_addLevel (by decide) (by decide) _, by simp⟩

lemma addsOne_addPid : AddsOne (addPid d.ppid) := by
  refine addsOne_addString (fun part hpart => ?_) ?_
  · rw [mem_singleton.mp hpart]
    intro h
    rcases mem_append.mp (take_subset _ _ h) with h | h
    · exact absurd h (by decide)
    · exact notMem_printed (by decide) (by decide) d.ppid h
  · rw [flatten_singleton, length_take]
    omega

lemma initngEnvNew_eq : ∃ env, env.length + 1 < 114 ∧
    d.initngEnvNew = (d.entries.foldlM addEntry env).bind fun env =>
      if env.length < 114 then some env else none := by
  have henviron := d.environ_length
  obtain ⟨env₁, h₁, hlen₁⟩ := d.addsOne_addPid (d.environ.map CText.chars)
    (by rw [length_map]; omega)
  rw [length_map] at hlen₁
  have hcount : d.serviceStrings.length = 5 := rfl
  obtain ⟨env, henv, hlen⟩ := foldlM_addsOne d.addsOne_serviceStrings
    (by omega : env₁.length + _ < _)
  refine ⟨env, by omega, ?_⟩
  rw [initngEnvNew, h₁]
  show (if env₁.length + 4 < 114 then _ else _) = _
  rw [if_pos (by omega), henv]
  rfl

/-- The environment is built exactly if no ENV entry is set: there is no room for the NUL. -/
theorem built_iff : d.Built ↔ d.entries = [] := by
  obtain ⟨env, hlen, heq⟩ := d.initngEnvNew_eq
  rw [Built, heq]
  cases hentries : d.entries with
  | nil =>
    refine iff_of_true ⟨env, if_pos (by omega), by omega, fun _ entry hentry => ?_⟩ rfl
    cases hentry
  | cons entry entries =>
    refine iff_of_false ?_ (by simp)
    rintro ⟨env', henv', -⟩
    rw [foldlM_cons, addEntry_overflows hlen] at henv'
    cases henv'

/-- One variable is set. -/
theorem not_always_built : ¬ ∀ d : EnvData, d.Built := by
  intro h
  obtain ⟨env, henv, -⟩ := h ⟨[], by decide, 1, ⟨['n'], by decide⟩, none, none, none,
    [(⟨['A'], by decide⟩, ⟨['b'], by decide⟩)]⟩
  cases henv

end EnvData

end Initng
