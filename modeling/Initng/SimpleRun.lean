import Initng.HeapBlock
import Initng.NgeWire
import Initng.WordSplit

/-! `modules/simple_launcher/initng_simple_launcher.c`. -/

namespace Initng.Launcher

open WordSplit HeapBlock List Option

def nul : Char := '\x00'

def escaped : Char → Char
  | 'a' => '\x07'
  | 'b' => '\x08'
  | 'f' => '\x0c'
  | 'n' => '\n'
  | 'r' => '\r'
  | 't' => '\t'
  | 'v' => '\x0b'
  | c => c

/-- The loop of `initng_string_fix_escapes`, from the point where the bytes in `unread` are left
to read.  Since `d` does not pass `s`, nothing has been written to them. -/
def fixEscapesFrom (mem : List Char) (d : ℕ) : List Char → Option (List Char)
  | [] => none
  | c :: unread =>
    if c = nul then some (mem.set d nul)
    else if c = '\\' then
      match unread with
      | [] => none
      | e :: unread => fixEscapesFrom (mem.set d (escaped e)) (d + 1) unread
    else fixEscapesFrom (mem.set d c) (d + 1) unread

def initngStringFixEscapes (mem : List Char) : Option (List Char) := fixEscapesFrom mem 0 mem

def skipDelim (delim : Char → Bool) : List Char → Option (List Char)
  | [] => none
  | c :: string => if c = nul || delim c then skipDelim delim string else some (c :: string)

def initngStringSplitDelim (delim : Char → Bool) (mem : List Char) : Option (List (List Char)) :=
  (skipDelim delim mem).bind fun string => (textAt nul string 0).map (words delim)

def whitespace (c : Char) : Bool := [' ', '\t', '\n', '\r', '\x0b'].contains c

/-- The environment variable `PATH`, and which files `stat` finds with one of the modes that
`expand_exec` looks for. -/
structure SearchPath where
  path : Option CText
  usable : List Char → Bool

def defaultPath : List Char := "/bin:/sbin:/usr/bin:/usr/sbin:/usr/local/bin:/usr/local/sbin".toList

def SearchPath.text (sys : SearchPath) : List Char := sys.path.elim defaultPath CText.chars

def fileIn (exec entry : List Char) : List Char :=
  (if entry.getLast? = some '/' then entry else entry ++ ['/']) ++ exec

def expandExec (sys : SearchPath) (exec : List Char) : Option (Option (List Char)) :=
  if exec.head? = some '/' then some none
  else (initngStringSplitDelim (· == ':') (sys.text ++ [nul])).map fun entries =>
    (entries.map (fileIn exec)).find? sys.usable

/-- `simple_run` on a stored string: the argument vector, which has nothing in it if there is
nothing to run and is `none` if the file is not found, and the memory afterwards. -/
def simpleRun (sys : SearchPath) (mem : List Char) :
    Option (Option (List (List Char)) × List Char) := do
  let mem ← initngStringFixEscapes mem
  let argv ← initngStringSplitDelim whitespace mem
  match argv with
  | [] => pure (some [], mem)
  | first :: rest =>
    if first.head? = some '/' then pure (some (first :: rest), mem)
    else
      match ← expandExec sys first with
      | none => pure (none, mem)
      -- `free(argv[0])` frees the block in which `argv` is, and `argv[0]` is written then
      | some _ => none

def launches (sys : SearchPath) : ℕ → List Char → Option (List (Option (List (List Char))))
  | 0, _ => some []
  | n + 1, mem => do
    let r ← simpleRun sys mem
    let vectors ← launches sys n r.2
    pure (r.1 :: vectors)

def unescape : List Char → List Char
  | [] => []
  | c :: rest =>
    if c = '\\' then
      match rest with
      | [] => []
      | e :: rest => escaped e :: unescape rest
    else c :: unescape rest

def expected (sys : SearchPath) (str : List Char) : Option (List (List Char)) :=
  match words whitespace (unescape str) with
  | [] => some []
  | first :: rest =>
    if first.head? = some '/' then some (first :: rest)
    else (((words (· == ':') sys.text).map (fileIn first)).find? sys.usable).map (· :: rest)

def LaunchesSame (sys : SearchPath) (str : CText) : Prop :=
  ∃ argv, expected sys str.chars = some argv ∧
    ∀ n, launches sys n (str.chars ++ [nul]) = some (replicate n (some argv))

/-- Every backslash is followed by a character, which it escapes. -/
def Complete : List Char → Bool
  | [] => true
  | c :: rest =>
    if c = '\\' then
      match rest with
      | [] => false
      | _ :: rest => Complete rest
    else Complete rest

/-- Every backslash is followed by a character that is no backslash. -/
def Plain : List Char → Bool
  | [] => true
  | c :: rest =>
    if c = '\\' then
      match rest with
      | [] => false
      | e :: rest => e != '\\' && Plain rest
    else Plain rest

def Absolute (str : List Char) : Prop :=
  Plain str = true ∧ ∃ first rest, words whitespace (unescape str) = first :: rest ∧
    first.head? = some '/'

section
variable {mem mem' out old str tail : List Char} {d : ℕ}

variable {c e : Char}

lemma eq_of_escaped (h : escaped e = c)
    (hc : c ∉ ['\x07', '\x08', '\x0c', '\n', '\r', '\t', '\x0b']) : e = c := by
  unfold escaped at h
  split at h
  case h_8 => exact h
  all_goals exact absurd (by simp [← h]) hc

lemma fixEscapesFrom_escape : fixEscapesFrom mem d ('\\' :: e :: tail) =
    fixEscapesFrom (mem.set d (escaped e)) (d + 1) tail := by
  have hne : '\\' ≠ nul := by decide
  simp [fixEscapesFrom, hne]

lemma fixEscapesFrom_char (hnul : c ≠ nul) (hc : c ≠ '\\') :
    fixEscapesFrom mem d (c :: tail) = fixEscapesFrom (mem.set d c) (d + 1) tail := by
  rw [fixEscapesFrom.eq_def]
  simp only [hnul, hc, if_false]

lemma unescape_escape (e : Char) (str : List Char) :
    unescape ('\\' :: e :: str) = escaped e :: unescape str := by simp [unescape]

lemma unescape_char (hc : c ≠ '\\') (str : List Char) :
    unescape (c :: str) = c :: unescape str := by
  rw [unescape.eq_def]
  exact if_neg hc

lemma complete_char (hc : c ≠ '\\') (str : List Char) : Complete (c :: str) = Complete str := by
  rw [Complete.eq_def]
  exact if_neg hc

lemma fixEscapesFrom_take {unread : List Char} (h : fixEscapesFrom mem d unread = some mem') :
    mem'.take d = mem.take d := by
  fun_induction fixEscapesFrom mem d unread with
  | case1 => cases h
  | case2 mem d unread => rw [← some.inj h, take_set_of_le (Nat.le_refl d)]
  | case3 => cases h
  | case4 mem d e unread hnul ih | case5 mem d c unread hnul hback ih =>
    have hcut := congrArg (take d) (ih h)
    rwa [take_take, take_take, Nat.min_eq_left (Nat.le_succ d),
      take_set_of_le (Nat.le_refl d)] at hcut

lemma fixEscapesFrom_set {x : Char} :
    fixEscapesFrom ((out ++ x :: old).set out.length c) (out.length + 1) =
      fixEscapesFrom (out ++ [c] ++ old) (out ++ [c]).length := by
  simp

section
variable (hnul : nul ∉ str)
include hnul

/-- The loop ends at the terminator, or goes on behind it when a backslash has escaped it. -/
lemma fixEscapesFrom_eq (hlen : str.length < old.length) :
    fixEscapesFrom (out ++ old) out.length (str ++ nul :: tail) =
      if Complete str then some (out ++ unescape str ++ nul :: old.drop ((unescape str).length + 1))
      else fixEscapesFrom (out ++ unescape str ++ nul :: old.drop ((unescape str).length + 1))
        ((out ++ unescape str).length + 1) tail := by
  obtain ⟨x, old, rfl⟩ := exists_cons_of_length_pos (Nat.zero_lt_of_lt hlen)
  induction str using unescape.induct generalizing out x old with
  | case1 =>
    rw [nil_append, fixEscapesFrom.eq_def]
    simp [unescape, Complete]
  | case2 =>
    rw [singleton_append, fixEscapesFrom_escape, fixEscapesFrom_set]
    simp [unescape, Complete, show escaped nul = nul by decide]
  | case3 e str ih =>
    obtain ⟨y, old, rfl⟩ := exists_cons_of_length_pos (l := old) (Nat.zero_lt_of_lt <|
      Nat.lt_of_succ_lt_succ hlen)
    rw [cons_append, cons_append, fixEscapesFrom_escape, fixEscapesFrom_set,
      ih (fun hin => hnul (.tail _ (.tail _ hin))) y old (by simp at hlen ⊢; omega)]
    simp [unescape_escape, Complete]
  | case4 c str hc ih =>
    obtain ⟨y, old, rfl⟩ := exists_cons_of_length_pos (l := old) (Nat.zero_lt_of_lt <|
      Nat.lt_of_succ_lt_succ hlen)
    rw [cons_append, fixEscapesFrom_char (fun he => hnul (he ▸ .head _)) hc,
      fixEscapesFrom_set, ih (fun hin => hnul (.tail _ hin)) y old (by simpa using hlen)]
    simp [unescape_char hc, complete_char hc]

lemma initngStringFixEscapes_eq (tail : List Char) :
    initngStringFixEscapes (str ++ nul :: tail) =
      if Complete str then
        some (unescape str ++ nul :: (str ++ nul :: tail).drop ((unescape str).length + 1))
      else fixEscapesFrom
        (unescape str ++ nul :: (str ++ nul :: tail).drop ((unescape str).length + 1))
        ((unescape str).length + 1) tail := by
  have hlen : str.length < (str ++ nul :: tail).length := by simp
  have heq : fixEscapesFrom ([] ++ (str ++ nul :: tail)) ([] : List Char).length
      (str ++ nul :: tail) = _ := fixEscapesFrom_eq hnul hlen
  exact heq

lemma initngStringFixEscapes_text
    (h : initngStringFixEscapes (str ++ nul :: tail) = some mem') :
    ∃ left, mem' = unescape str ++ nul :: left := by
  rw [initngStringFixEscapes_eq hnul] at h
  split at h
  · exact ⟨_, (some.inj h).symm⟩
  · have hkeep : mem'.take ((unescape str).length + 1) = unescape str ++ [nul] := by
      simpa [take_append, take_of_length_le] using fixEscapesFrom_take h
    refine ⟨mem'.drop ((unescape str).length + 1), ?_⟩
    rw [append_cons, ← hkeep, take_append_drop]

lemma complete_of_fixEscapes
    (h : initngStringFixEscapes (str ++ [nul]) = some mem') : Complete str = true := by
  by_contra hnot
  rw [initngStringFixEscapes_eq hnul, if_neg hnot] at h
  cases h

end

lemma plain_iff : Plain str = true ↔ Complete str = true ∧ '\\' ∉ unescape str := by
  induction str using unescape.induct with
  | case1 | case2 => simp [Plain, Complete, unescape]
  | case3 e str ih =>
    have hback : '\\' = escaped e ↔ e = '\\' :=
      ⟨fun he => eq_of_escaped he.symm (by decide), fun he => by rw [he]; rfl⟩
    simp [Plain, Complete, unescape_escape, ih, hback, and_left_comm]
  | case4 c str hc ih =>
    rw [Plain.eq_def, complete_char hc, unescape_char hc]
    simp [hc, ih, Ne.symm hc]

lemma initngStringFixEscapes_plain (hnul : nul ∉ str) (h : Plain str = true)
    (tail : List Char) :
    ∃ left, initngStringFixEscapes (str ++ nul :: tail) = some (unescape str ++ nul :: left) := by
  rw [initngStringFixEscapes_eq hnul, if_pos (plain_iff.mp h).1]
  exact ⟨_, rfl⟩

lemma unescape_of_notMem (h : '\\' ∉ str) : unescape str = str ∧ Plain str = true := by
  induction str with
  | nil => exact ⟨rfl, rfl⟩
  | cons c str ih =>
    rw [mem_cons, not_or] at h
    obtain ⟨hstr, hplain⟩ := ih h.2
    have hc : c ≠ '\\' := fun he => h.1 he.symm
    refine ⟨by rw [unescape_char hc, hstr], ?_⟩
    rw [Plain.eq_def]
    simpa [hc] using hplain

lemma count_unescape (str : List Char) :
    (unescape str).count '\\' ≤ str.count '\\' ∧
      ('\\' ∈ str → (unescape str).count '\\' < str.count '\\') := by
  induction str using unescape.induct with
  | case1 | case2 => simp [unescape]
  | case3 e str ih =>
    have hle : [escaped e].count '\\' ≤ [e].count '\\' := by
      by_cases he : escaped e = '\\'
      · exact Nat.le_of_eq (by rw [he, eq_of_escaped he (by decide)])
      · rw [count_singleton, if_neg (by simpa using he)]
        exact Nat.zero_le _
    have hrest := ih.1
    rw [unescape_escape, count_cons_self, ← singleton_append, count_append,
      ← singleton_append (l := str), count_append]
    omega
  | case4 c str hc ih =>
    rw [unescape_char hc, count_cons_of_ne hc, count_cons_of_ne hc, mem_cons]
    exact ⟨ih.1, fun h => ih.2 (h.resolve_left fun he => hc he.symm)⟩

lemma nul_notMem_unescape (hnul : nul ∉ str) : nul ∉ unescape str := by
  induction str using unescape.induct with
  | case1 => exact hnul
  | case2 => simp [unescape]
  | case3 e str ih =>
    rw [unescape_escape, mem_cons, not_or]
    refine ⟨fun he => hnul (.tail _ ?_), ih fun hin => hnul (.tail _ (.tail _ hin))⟩
    rw [eq_of_escaped he.symm (by decide)]
    exact .head _
  | case4 c str hc ih =>
    rw [unescape_char hc, mem_cons, not_or]
    exact ⟨fun he => hnul (he ▸ .head _), ih fun hin => hnul (.tail _ hin)⟩

lemma slash_mem_unescape (h : '/' ∈ str) : '/' ∈ unescape str := by
  induction str using unescape.induct with
  | case1 => cases h
  | case2 => simp at h
  | case3 e str ih =>
    rw [unescape_escape, mem_cons]
    rcases mem_cons.mp (mem_of_ne_of_mem (by decide) h) with rfl | hin
    · exact .inl rfl
    · exact .inr (ih hin)
  | case4 c str hc ih =>
    rw [unescape_char hc, mem_cons]
    exact (mem_cons.mp h).imp id ih

end

section
variable {delim : Char → Bool} {mem text : List Char}

lemma skipDelim_text (hnul : nul ∉ text) (h : words delim text ≠ []) (tail : List Char) :
    ∃ front string, text = front ++ string ∧ (∀ c ∈ front, delim c = true) ∧
      skipDelim delim (text ++ tail) = some (string ++ tail) ∧
        ∀ c ∈ string.head?, delim c = false := by
  induction text with
  | nil => exact absurd rfl h
  | cons c text ih =>
    have hc : c ≠ nul := fun he => hnul (he ▸ .head _)
    by_cases hdelim : delim c
    · have hwords : words delim text ≠ [] := by
        rwa [← singleton_append, words_append (by simpa using hdelim)] at h
      obtain ⟨front, string, rfl, hfront, hskip, hhead⟩ := ih (fun hin => hnul (.tail _ hin)) hwords
      refine ⟨c :: front, string, rfl, forall_mem_cons.mpr ⟨hdelim, hfront⟩, ?_, hhead⟩
      rw [cons_append, skipDelim, if_pos (by simp [hdelim]), hskip]
    · refine ⟨[], c :: text, rfl, fun x hx => (by cases hx), ?_, by simpa using hdelim⟩
      rw [cons_append, skipDelim, if_neg (by simp [hc, hdelim])]

lemma initngStringSplitDelim_words (hnul : nul ∉ text) (h : words delim text ≠ [])
    (left : List Char) :
    initngStringSplitDelim delim (text ++ nul :: left) = some (words delim text) := by
  obtain ⟨front, string, rfl, hfront, hskip, -⟩ := skipDelim_text hnul h (nul :: left)
  have hstring : nul ∉ string := fun hin => hnul (mem_append_right _ hin)
  rw [initngStringSplitDelim, hskip, bind_some, textAt_text hstring, map_some, words_append hfront]

lemma initngStringSplitDelim_ne_nil : initngStringSplitDelim delim mem ≠ some [] := by
  induction mem with
  | nil => simp [initngStringSplitDelim, skipDelim]
  | cons c mem ih =>
    rw [initngStringSplitDelim, skipDelim]
    split
    · exact ih
    next hc =>
      rw [Bool.or_eq_true, not_or] at hc
      have hnul : c ≠ nul := by simpa using hc.1
      rw [bind_some, textAt, drop_zero]
      split
      · rw [map_some, Ne, some_inj, words_eq_nil_iff]
        intro hall
        exact hc.2 (hall c (by simp [hnul]))
      · simp

end

section
variable {sys : SearchPath} {mem mem' first : List Char} {rest argv : List (List Char)}

lemma simpleRun_eq_some (h : simpleRun sys mem = some (some argv, mem')) :
    initngStringFixEscapes mem = some mem' ∧
      initngStringSplitDelim whitespace mem' = some argv ∧
      ∃ first rest, argv = first :: rest ∧ first.head? = some '/' := by
  obtain ⟨mem₁, hfix, h⟩ := bind_eq_some_iff.mp h
  obtain ⟨argv₁, hsplit, h⟩ := bind_eq_some_iff.mp h
  cases argv₁ with
  | nil => exact absurd hsplit initngStringSplitDelim_ne_nil
  | cons first rest =>
    dsimp only at h
    split at h
    next hfirst =>
      cases h
      exact ⟨hfix, hsplit, first, rest, rfl, hfirst⟩
    · obtain ⟨found, -, h⟩ := bind_eq_some_iff.mp h
      cases found with
      | none | some => cases h

lemma launches_succ {n : ℕ} {vectors : List (Option (List (List Char)))}
    {vector : Option (List (List Char))} (h : launches sys (n + 1) mem = some (vector :: vectors)) :
    ∃ mem', simpleRun sys mem = some (vector, mem') ∧ launches sys n mem' = some vectors := by
  obtain ⟨r, hr, h⟩ := bind_eq_some_iff.mp h
  obtain ⟨vs, hvs, h⟩ := bind_eq_some_iff.mp h
  cases h
  exact ⟨r.2, hr, hvs⟩

lemma launches_absolute {n : ℕ} (hfix : initngStringFixEscapes mem = some mem')
    (hsplit : initngStringSplitDelim whitespace mem' = some (first :: rest))
    (hfirst : first.head? = some '/')
    (h : launches sys n mem' = some (replicate n (some (first :: rest)))) :
    launches sys (n + 1) mem = some (replicate (n + 1) (some (first :: rest))) := by
  simp [launches, simpleRun, hfix, hsplit, hfirst, h, replicate_succ]

variable {text : List Char}

lemma launches_replicate (hnul : nul ∉ text) (hback : '\\' ∉ text)
    (hwords : words whitespace text = first :: rest) (hfirst : first.head? = some '/') (n : ℕ)
    (left : List Char) : launches sys n (text ++ nul :: left) =
      some (replicate n (some (first :: rest))) := by
  obtain ⟨hsame, hplain⟩ := unescape_of_notMem hback
  induction n generalizing left with
  | zero => rfl
  | succ n ih =>
    obtain ⟨left', hfix⟩ := initngStringFixEscapes_plain hnul hplain left
    rw [hsame] at hfix
    have hsplit := initngStringSplitDelim_words hnul (hwords ▸ cons_ne_nil _ _) left'
    exact launches_absolute hfix (hwords ▸ hsplit) hfirst (ih left')

lemma notMem_of_same {left : List Char} (hnul : nul ∉ text)
    (hwords : words whitespace text = first :: rest) (hfirst : first.head? = some '/')
    (h : simpleRun sys (text ++ nul :: left) = some (some (first :: rest), mem')) :
    '\\' ∉ text := by
  obtain ⟨hfix, hsplit, -⟩ := simpleRun_eq_some h
  obtain ⟨left', rfl⟩ := initngStringFixEscapes_text hnul hfix
  have hslash : '/' ∈ text := by
    rw [head?_of_words hwords] at hfirst
    exact (mem_filter.mp (mem_of_head? hfirst)).1
  have hsome : words whitespace (unescape text) ≠ [] := by
    rw [Ne, words_eq_nil_iff]
    exact fun hall => absurd (hall _ (slash_mem_unescape hslash)) (by decide)
  rw [initngStringSplitDelim_words (nul_notMem_unescape hnul) hsome, ← hwords, some_inj] at hsplit
  have hcount (xs : List Char) : (words whitespace xs).flatten.count '\\' = xs.count '\\' := by
    rw [flatten_words]
    exact count_filter (by decide)
  intro hback
  have hless := (count_unescape text).2 hback
  rw [← hcount, hsplit, hcount] at hless
  exact Nat.lt_irrefl _ hless

end

/-- A command line is launched the same way every time exactly if it is plain and begins with an
absolute path. -/
theorem launchesSame_iff (sys : SearchPath) (str : CText) :
    LaunchesSame sys str ↔ Absolute str.chars := by
  have hnul : nul ∉ str.chars := str.nulFree
  have hnul' := nul_notMem_unescape hnul
  constructor
  · rintro ⟨argv, hexpected, h⟩
    obtain ⟨mem₁, hrun₁, h₁⟩ := launches_succ (h 2)
    obtain ⟨mem₂, hrun₂, -⟩ := launches_succ h₁
    obtain ⟨hfix, hsplit, first, rest, rfl, hfirst⟩ := simpleRun_eq_some hrun₁
    obtain ⟨left, rfl⟩ := initngStringFixEscapes_text hnul hfix
    have hwords : words whitespace (unescape str.chars) = first :: rest := by
      by_cases hnone : words whitespace (unescape str.chars) = []
      · simp [expected, hnone] at hexpected
      · rw [initngStringSplitDelim_words hnul' hnone] at hsplit
        exact some.inj hsplit
    have hback := notMem_of_same hnul' hwords hfirst hrun₂
    exact ⟨plain_iff.mpr ⟨complete_of_fixEscapes hnul hfix, hback⟩, first, rest, hwords, hfirst⟩
  · rintro ⟨hplain, first, rest, hwords, hfirst⟩
    refine ⟨first :: rest, by simp [expected, hwords, hfirst], fun n => ?_⟩
    cases n with
    | zero => rfl
    | succ n =>
      obtain ⟨left, hfix⟩ := initngStringFixEscapes_plain hnul hplain []
      have hsplit := initngStringSplitDelim_words hnul' (hwords ▸ cons_ne_nil _ _) left
      exact launches_absolute hfix (hwords ▸ hsplit) hfirst
        (launches_replicate hnul' (plain_iff.mp hplain).2 hwords hfirst n left)

/-- The string `/bin/echo a\\tb` loses a backslash at each launch: the word `a\tb` of the first
one is two words in the second.  A program that is found in the search path is not launched. -/
theorem not_always_same :
    launches ⟨none, fun _ => true⟩ 2 ("/bin/echo a\\\\tb".toList ++ [nul]) =
        some [some ["/bin/echo".toList, "a\\tb".toList],
          some ["/bin/echo".toList, "a".toList, "b".toList]] ∧
      launches ⟨none, fun _ => true⟩ 1 ("echo a".toList ++ [nul]) = none ∧
      ¬ LaunchesSame ⟨none, fun _ => true⟩ ⟨"/bin/echo a\\\\tb".toList, by decide⟩ := by
  have htwo : launches ⟨none, fun _ => true⟩ 2 ("/bin/echo a\\\\tb".toList ++ [nul]) =
      some [some ["/bin/echo".toList, "a\\tb".toList],
        some ["/bin/echo".toList, "a".toList, "b".toList]] := by decide +kernel
  refine ⟨htwo, by decide +kernel, fun ⟨argv, _, h⟩ => ?_⟩
  have hsame := htwo.symm.trans (h 2)
  simp only [replicate, some.injEq, cons.injEq] at hsame
  exact absurd (hsame.1.trans hsame.2.1.symm) (by decide +kernel)

end Initng.Launcher
