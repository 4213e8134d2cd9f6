import Initng.NgeWire

/-! `print_program_output` of `modules/cpout/initng_cpout.c`. -/

namespace Initng

open List

/-- The first loop, from the characters that are left; `jumping` is set inside of a line that is
jumped over. -/
def sortOut : Bool → List Char → Option (List Char)
  | _, [] => some []
  | jumping, c :: rest =>
    if jumping ∧ c ≠ '\n' then sortOut true rest
    -- `buffer_pos[i + 2]` lies behind the zero
    else if c = '[' ∧ rest = [] then none
    else if c = '[' ∧ rest[1]? = some ']' then sortOut true rest
    else if c = ' ' ∨ c = '\n' ∨ c = '\t' then sortOut false rest
    else some (c :: rest)

inductive PrintMode
  | line
  /-- inside of a line that is jumped over -/
  | jumping
  /-- in front of a line -/
  | indent
  deriving DecidableEq

/-- The second loop: what it writes, and whether it has read no character behind the zero. -/
def printLoop : PrintMode → List Char → List Char × Bool
  -- the zero is written like any character, and the loop goes on behind it
  | .jumping, [] => (['\x00'], false)
  | _, [] => ([], true)
  | mode, c :: rest =>
    if mode = .jumping ∧ c ≠ '\n' then printLoop .jumping rest
    else if mode = .indent ∧ (c = ' ' ∨ c = '\t') then printLoop .indent rest
    else if c = '[' ∧ rest = [] then ([], false)
    else if c = '[' ∧ rest[1]? = some ']' then printLoop .jumping rest
    else if c = '\n' then
      ('\n' :: ' ' :: ' ' :: (printLoop .indent rest).1, (printLoop .indent rest).2)
    else (c :: (printLoop .line rest).1, (printLoop .line rest).2)

/-- The static variables; services and process types stand for their addresses. -/
structure Cpout where
  color : Bool
  lastservice : Option ℕ
  lastPtype : Option ℕ

/-- A service or a process type that writes. -/
structure Writer where
  addr : ℕ
  name : CText

/-- What is written before the second loop. -/
def Cpout.header (c : Cpout) (service ptype : Writer) : List Char :=
  if c.lastservice ≠ some service.addr ∧ c.lastPtype ≠ some ptype.addr then
    (if c.lastservice.isSome then ['\n'] else []) ++ '\n' ::
      ((if c.color then "\x1b[36m".toList else []) ++ ' ' :: (service.name.chars ++ ' ' ::
        (ptype.name.chars ++ ':' :: ((if c.color then "\x1b[0m".toList else []) ++
          ['\n', ' ', ' ']))))
  else []

/-- `quiet` is set when `quiet_when_up` is and the system is up. -/
def printProgramOutput (c : Cpout) (quiet : Bool) (service ptype : Writer) (chunk : CText) :
    List Char × Bool :=
  if quiet then ([], true)
  else
    match sortOut false chunk.chars with
    | none => ([], false)
    | some rest =>
      if rest.length < 2 then ([], true)
      else (c.header service ptype ++ (printLoop .line rest).1, (printLoop .line rest).2)

/-- Nothing is read behind the zero, and no zero is written. -/
def StaysInside (r : List Char × Bool) : Prop := r.2 = true ∧ '\x00' ∉ r.1

/-- The last line has a `[` that is its last character or that a `]` stands two behind of. -/
def Dangling (text : List Char) : Prop :=
  ∃ p rest, text = p ++ '[' :: rest ∧ '\n' ∉ rest ∧ (rest = [] ∨ rest[1]? = some ']')

variable {text : List Char}

lemma Dangling.cons {c : Char} (h : Dangling text) : Dangling (c :: text) := by
  obtain ⟨p, rest, rfl, hrest⟩ := h
  exact ⟨c :: p, rest, rfl, hrest⟩

lemma dangling_last : Dangling ['['] := ⟨[], [], rfl, not_mem_nil, .inl rfl⟩

lemma sortOut_spec (jumping : Bool) (h : ¬ Dangling text) :
    ∃ rest, sortOut jumping text = some rest ∧ rest <:+ text := by
  induction text generalizing jumping with
  | nil => exact ⟨[], by cases jumping <;> rfl, suffix_refl []⟩
  | cons c text ih =>
    have hmore (jumping : Bool) : ∃ rest, sortOut jumping text = some rest ∧ rest <:+ c :: text := by
      obtain ⟨rest, hsome, hrest⟩ := ih jumping fun hd => h hd.cons
      exact ⟨rest, hsome, hrest.trans (suffix_cons c text)⟩
    rw [sortOut]
    split_ifs with hjump hlast hbash hblank
    · exact hmore true
    · obtain ⟨rfl, rfl⟩ := hlast
      exact absurd dangling_last h
    · exact hmore true
    · exact hmore false
    · exact ⟨c :: text, rfl, suffix_refl _⟩

lemma printLoop_inside {mode : PrintMode} (hnul : '\x00' ∉ text)
    (h : ¬ Dangling text) (hjump : mode = .jumping → '\n' ∈ text) :
    StaysInside (printLoop mode text) := by
  induction text generalizing mode with
  | nil => cases mode with
    | jumping => cases hjump rfl
    | line | indent => exact ⟨rfl, not_mem_nil⟩
  | cons c text ih =>
    have hc : '\x00' ≠ c := fun hc => hnul (hc ▸ .head _)
    have hmore {mode : PrintMode} := @ih mode (fun hm => hnul (.tail _ hm)) fun hd => h hd.cons
    rw [printLoop]
    split_ifs with hskip hindent hlast hbash hline
    · exact hmore fun _ => (mem_cons.mp (hjump hskip.1)).resolve_left (Ne.symm hskip.2)
    · exact hmore fun hno => nomatch hno
    · obtain ⟨rfl, rfl⟩ := hlast
      exact absurd dangling_last h
    · obtain ⟨rfl, hbash⟩ := hbash
      exact hmore fun _ => by_contra fun hline => h ⟨[], text, rfl, hline, .inr hbash⟩
    · have hinside := @hmore .indent fun hno => nomatch hno
      exact ⟨hinside.1, by simpa using hinside.2⟩
    · have hinside := @hmore .line fun hno => nomatch hno
      exact ⟨hinside.1, by simpa [hc] using hinside.2⟩

lemma nul_notMem_header (c : Cpout) (service ptype : Writer) : '\x00' ∉ c.header service ptype := by
  have hservice := service.name.nulFree
  have hptype := ptype.name.nulFree
  unfold Cpout.header
  split_ifs <;> simp [hservice, hptype]

end Initng
