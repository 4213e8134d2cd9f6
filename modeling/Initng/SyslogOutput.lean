import Initng.NgeWire
import Initng.StepRun
import Mathlib.Data.List.Forall2
import Mathlib.Data.List.TakeWhile

/-! `modules/syslog/initng_syslog.c`: what services write goes to `vsyslog`, or into a buffer as long
as there is no `/dev/log`. -/

namespace Initng

open StepRun List

structure LogEnt where
  prio : ℕ
  owner : Option String
  text : List Char
  deriving DecidableEq

/-- `log_list`, with the newest entry in front, and what `vsyslog` was given. -/
structure Syslog where
  running : Bool
  logList : List LogEnt
  handed : List LogEnt

def LogEnt.cut (ent : LogEnt) : LogEnt := { ent with text := ent.text.take 199 }

def initngLog (c : Syslog) (ent : LogEnt) : Syslog :=
  if c.running then { c with handed := c.handed ++ [ent] }
  else { c with logList := ent.cut :: c.logList }

def checkSyslog (devLog : Bool) (c : Syslog) : Syslog :=
  if devLog then ⟨true, [], c.handed ++ c.logList.reverse⟩ else { c with running := false }

def freeBuffert (devLog : Bool) (c : Syslog) : Syslog :=
  { checkSyslog devLog c with running := true, logList := [] }

/-- The turns of the loop of `syslog_fetch_output`; there are no more than characters. -/
def outputTexts : ℕ → List Char → List (List Char)
  | 0, _ => []
  | _, [] => []
  | turns + 1, c :: rest =>
    let log := ((c :: rest).takeWhile (· ≠ '\n')).take 200
    log :: outputTexts turns ((c :: rest).drop (log.length + 1))

def outputEnts (service : String) (chunk : CText) : List LogEnt :=
  (outputTexts chunk.chars.length chunk.chars).map fun text => ⟨5, some service, text⟩

inductive SyslogEvent
  | output (service : String) (chunk : CText)
  | log (ent : LogEnt)
  | check (devLog : Bool)
  | free (devLog : Bool)

def SyslogEvent.apply (e : SyslogEvent) (c : Syslog) : Syslog :=
  match e with
  | output service chunk => (outputEnts service chunk).foldl initngLog c
  | log ent => initngLog c ent
  | check devLog => checkSyslog devLog c
  | free devLog => freeBuffert devLog c

/-- What was handed over, and then what is buffered. -/
def Syslog.all (c : Syslog) : List LogEnt := c.handed ++ c.logList.reverse

/-- The entries are what an event has to leave: the texts of a chunk make it up but for its
newlines. -/
def SyslogEvent.Left : SyslogEvent → List LogEnt → Prop
  | output _ chunk, ents => ents.flatMap LogEnt.text = chunk.chars.filter (· ≠ '\n') ∧
      ∀ ent ∈ ents, '\n' ∉ ent.text
  | log ent, ents => ∃ text, ents = [{ ent with text := text }]
  | _, ents => ents = []

/-- The events have left all that they should, in their order. -/
def ReachesSyslog (events : List SyslogEvent) (c : Syslog) : Prop :=
  ∃ parts, Forall₂ SyslogEvent.Left events parts ∧ c.all = parts.flatten

/-- There are no more than so many characters between newlines. -/
def LinesFit (n : ℕ) (text : List Char) : Prop :=
  ∀ line, line <:+: text → '\n' ∉ line → line.length ≤ n

/-- Lines are not longer than what `syslog_fetch_output` and the buffer take, and nothing is thrown
away. -/
def SyslogEvent.Fits (c : Syslog) : SyslogEvent → Prop
  | output _ chunk => LinesFit (if c.running then 200 else 199) chunk.chars
  | free devLog => devLog = true ∨ c.logList = []
  | _ => True

/-- Nothing is buffered once syslog runs. -/
def Syslog.Ok (c : Syslog) : Prop := c.running = true → c.logList = []

section
variable {c : Syslog} {n : ℕ}

/-- A turn takes the line in front and goes on behind its newline. -/
lemma outputTexts_line (turns : ℕ) {text : List Char} (hne : text ≠ []) (h : LinesFit 200 text) :
    ∃ line more, outputTexts (turns + 1) text = line :: outputTexts turns more ∧ '\n' ∉ line ∧
      text.filter (· ≠ '\n') = line ++ more.filter (· ≠ '\n') ∧ line <:+: text ∧
      more <:+: text ∧ more.length < text.length := by
  have hsucc : outputTexts (turns + 1) text = (text.takeWhile (· ≠ '\n')).take 200 ::
      outputTexts turns (text.drop (((text.takeWhile (· ≠ '\n')).take 200).length + 1)) := by
    cases text with
    | nil => exact absurd rfl hne
    | cons a rest => rfl
  have hpos := length_pos_iff.mpr hne
  have hself {line : List Char} (hline : '\n' ∉ line) : ∀ x ∈ line, decide (x ≠ '\n') = true :=
    fun x hx => decide_eq_true fun hx' : x = '\n' => hline (hx' ▸ hx)
  by_cases hm : '\n' ∈ text
  · obtain ⟨line, more, rfl, hline⟩ := eq_append_cons_of_mem hm
    have hfits := h line (prefix_append _ _).isInfix hline
    refine ⟨line, more, ?_, hline, ?_, (prefix_append _ _).isInfix,
      ((suffix_cons _ more).trans (suffix_append _ _)).isInfix, by simp; omega⟩
    · rw [hsucc, takeWhile_append_of_pos (hself hline), takeWhile_cons_of_neg (by simp), append_nil,
        take_of_length_le hfits, ← drop_drop, drop_left, drop_one, tail_cons]
    · rw [filter_append, filter_eq_self.mpr (hself hline), filter_cons_of_neg (by simp)]
  · have hfits := h text infix_rfl hm
    refine ⟨text, [], ?_, hm, ?_, infix_rfl, nil_infix, hpos⟩
    · rw [hsucc, takeWhile_eq_self_iff.mpr (hself hm), take_of_length_le hfits,
        drop_eq_nil_of_le (Nat.le_succ _)]
    · rw [filter_eq_self.mpr (hself hm), filter_nil, append_nil]

lemma outputTexts_spec (hn : n ≤ 200) (turns : ℕ) {text : List Char} (h : LinesFit n text)
    (hturns : text.length ≤ turns) :
    (outputTexts turns text).flatten = text.filter (· ≠ '\n') ∧
      ∀ log ∈ outputTexts turns text, '\n' ∉ log ∧ log.length ≤ n := by
  induction turns generalizing text with
  | zero => simp [length_eq_zero_iff.mp (Nat.le_zero.mp hturns), outputTexts]
  | succ turns ih =>
    by_cases hne : text = []
    · simp [hne, outputTexts]
    · obtain ⟨line, more, hturn, hline, hfilter, hin, hmore, hlt⟩ := outputTexts_line turns hne
        fun line hin hline => (h line hin hline).trans hn
      obtain ⟨hall, hlogs⟩ := @ih more (fun line hin => h line (hin.trans hmore)) (by omega)
      rw [hturn, hfilter, flatten_cons, hall]
      exact ⟨rfl, forall_mem_cons.mpr ⟨⟨hline, h line hin hline⟩, hlogs⟩⟩

lemma all_foldl_initngLog (hok : c.Ok) (ents : List LogEnt) :
    (ents.foldl initngLog c).all = c.all ++ ents.map (if c.running then id else LogEnt.cut) ∧
      (ents.foldl initngLog c).Ok := by
  induction ents generalizing c with
  | nil => exact ⟨by simp, hok⟩
  | cons ent ents ih =>
    cases hrunning : c.running with
    | true =>
      have hnone := hok hrunning
      obtain ⟨hall, hok'⟩ := @ih (initngLog c ent) (by simp [initngLog, Syslog.Ok, hrunning, hnone])
      exact ⟨by simpa [initngLog, Syslog.all, hrunning, hnone] using hall, hok'⟩
    | false =>
      obtain ⟨hall, hok'⟩ := @ih (initngLog c ent) (by simp [initngLog, Syslog.Ok, hrunning])
      exact ⟨by simpa [initngLog, Syslog.all, hrunning] using hall, hok'⟩

lemma SyslogEvent.apply_left (hok : c.Ok) {e : SyslogEvent} (h : e.Fits c) :
    (∃ ents, e.Left ents ∧ (e.apply c).all = c.all ++ ents) ∧ (e.apply c).Ok := by
  cases e with
  | output service chunk =>
    obtain ⟨hall, hok'⟩ := all_foldl_initngLog hok (outputEnts service chunk)
    obtain ⟨hflatten, hlogs⟩ := outputTexts_spec (by split <;> decide) _ h le_rfl
    have hsame : (outputEnts service chunk).map (if c.running then id else LogEnt.cut) =
        outputEnts service chunk := by
      have hkept : ∀ ent ∈ outputEnts service chunk,
          (if c.running then id else LogEnt.cut) ent = ent := by
        intro ent hent
        obtain ⟨log, hlog, rfl⟩ := mem_map.mp hent
        have hlength := (hlogs log hlog).2
        split
        · rfl
        next hdown => simp [LogEnt.cut, take_of_length_le, if_neg hdown ▸ hlength]
      exact (map_congr_left hkept).trans (map_id _)
    refine ⟨⟨_, ⟨?_, ?_⟩, hall.trans (by rw [hsame])⟩, hok'⟩
    · rw [← hflatten, outputEnts, flatMap_map, flatMap_id']
    · simpa [outputEnts] using fun log hlog => (hlogs log hlog).1
  | log ent =>
    obtain ⟨hall, hok'⟩ := all_foldl_initngLog hok [ent]
    refine ⟨⟨_, ?_, hall⟩, hok'⟩
    split
    · exact ⟨ent.text, rfl⟩
    · exact ⟨_, rfl⟩
  | check devLog =>
    cases devLog <;> simp [SyslogEvent.apply, SyslogEvent.Left, checkSyslog, Syslog.all, Syslog.Ok]
  | free devLog =>
    rcases h with rfl | h
    · simp [SyslogEvent.apply, SyslogEvent.Left, freeBuffert, checkSyslog, Syslog.all, Syslog.Ok]
    · cases devLog <;>
        simp [SyslogEvent.apply, SyslogEvent.Left, freeBuffert, checkSyslog, Syslog.all, Syslog.Ok, h]

lemma run_left (hok : c.Ok) {events : List SyslogEvent}
    (h : Along SyslogEvent.apply (fun c e => e.Fits c) c events) :
    ∃ parts, Forall₂ SyslogEvent.Left events parts ∧
      (run SyslogEvent.apply events c).all = c.all ++ parts.flatten := by
  induction events generalizing c with
  | nil => exact ⟨[], .nil, by simp⟩
  | cons e events ih =>
    obtain ⟨⟨ents, hleft, hall⟩, hok'⟩ := SyslogEvent.apply_left hok h.1
    obtain ⟨parts, hparts, hrun⟩ := ih hok' h.2
    exact ⟨ents :: parts, .cons hleft hparts, by rw [run_cons, hrun, hall]; simp⟩

end

/-- What is produced arrives in full and in order as long as the lines are not too long. -/
theorem reachesSyslog {events : List SyslogEvent}
    (h : Along SyslogEvent.apply (fun c e => e.Fits c) ⟨false, [], []⟩ events) :
    ReachesSyslog events (run SyslogEvent.apply events ⟨false, [], []⟩) :=
  run_left (fun hrunning => by cases hrunning) h

theorem reachesSyslog_late : ∃ chunk : CText, chunk.chars = ['o', 'k', '\n', 'u', 'p'] ∧
    ReachesSyslog [.output "net" chunk, .check true]
      (run SyslogEvent.apply [.output "net" chunk, .check true] ⟨false, [], []⟩) := by
  refine ⟨⟨_, by decide⟩, rfl, reachesSyslog ⟨fun line hline _ => ?_, trivial, trivial⟩⟩
  exact hline.length_le.trans (by decide)

/-- A character of a line is skipped for a newline. -/
theorem not_always_reachesSyslog : ∃ chunk : CText, chunk.chars = replicate 201 'a' ∧
    ¬ ReachesSyslog [.check true, .output "net" chunk]
      (run SyslogEvent.apply [.check true, .output "net" chunk] ⟨false, [], []⟩) := by
  refine ⟨⟨replicate 201 'a', fun hm => absurd (eq_of_mem_replicate hm) (by decide)⟩, rfl, ?_⟩
  rintro ⟨parts, hparts, hall⟩
  cases hparts with
  | cons hcheck hparts => cases hparts with
    | cons houtput hparts =>
      cases hparts
      cases hcheck
      rw [flatten_cons, nil_append, flatten_singleton] at hall
      have htexts := houtput.1
      rw [← hall] at htexts
      exact absurd (congrArg length htexts) (by decide +kernel)

end Initng
