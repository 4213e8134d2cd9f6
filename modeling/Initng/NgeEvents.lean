import Initng.NgeTags
import Mathlib.Data.List.TakeWhile

namespace Initng

open DecimalText TextSearch List

def NgeServerEvent.event : NgeServerEvent → NgeEvent
  | .serviceStateChange sysState service is state percent serviceType hidden =>
    .serviceStateChange (some service.chars) is.code (some state.chars)
      (percentStarted sysState percent) (percentStopped sysState percent)
      (some serviceType.chars) hidden.toInt
  | .systemStateChange state runlevel => .systemStateChange state.code (some runlevel.chars)
  | .serviceOutput service process buffer =>
    .serviceOutput (some service.chars) (some process.chars) (some buffer.chars)
  | .errMsg mt file func line message =>
    .errMsg mt.code (some file.chars) (some func.chars) line.toInt (some message.chars)
  | .processKilled service is state process exitStatus termSig =>
    .processKilled (some service.chars) is.code (some state.chars) (some process.chars)
      exitStatus.toInt termSig.toInt
  | .disconnect _ => .disconnect

def NgeServerEvent.Plain (e : NgeServerEvent) : Prop := ∃ t, e.tag = some t ∧ t.Plain

lemma EIs.isInt_code (is : EIs) : IsInt is.code := by
  cases is <;> decide

lemma HSysState.isInt_code (state : HSysState) : IsInt state.code := by
  cases state <;> decide

lemma EMt.isInt_code (mt : EMt) : IsInt mt.code := by
  cases mt <;> decide

lemma isInt_int32 (value : Int32) : IsInt value.toInt := ⟨value.le_toInt, value.toInt_lt⟩

lemma isInt_percent (p : Prop) [Decidable p] (percent : Int32) :
    IsInt (if p then percent.toInt else 0) := by
  split
  · exact isInt_int32 percent
  · decide

lemma NgeServerEvent.readsAs {e : NgeServerEvent} {t : EventTag} (htag : e.tag = some t)
    (hplain : t.Plain) : ReadsAs t.text e.event := by
  have hfit : NamesFit t.type (t.attrs.map Prod.fst) := by
    cases e <;> cases htag <;> dsimp only [map] <;> decide +kernel
  have hget (i : ℕ) {name : String} {value : List Char} (hi : t.attrs[i]? = some (name, value)) :
      ngeclientGetOption t.text name = some value := EventTag.getOption hfit hplain hi
  have hint (i : ℕ) {name : String} {value : Int} (hvalue : IsInt value)
      (hi : t.attrs[i]? = some (name, printed value)) : ngeclientGetInt t.text name = value :=
    EventTag.getInt hfit hplain hi hvalue
  refine EventTag.readsAs hfit hplain ?_ ?_ ?_
  -- strings have no zero in them, and numbers have none
  · cases e <;> cases htag <;> simp [notMem_printed, CText.nulFree]
  · intro text htext
    cases e <;> cases htag <;> cases htext <;> exact CText.nulFree _
  · cases e with
    | serviceStateChange sysState service is state percent serviceType hidden =>
      cases htag
      rw [handleEventOf, if_pos rfl, hget 0 rfl, hint 1 is.isInt_code rfl, hget 2 rfl,
        hint 3 (isInt_percent _ percent) rfl, hint 4 (isInt_percent _ percent) rfl, hget 5 rfl,
        hint 6 (isInt_int32 _) rfl]
      rfl
    | systemStateChange state runlevel =>
      cases htag
      rw [handleEventOf, if_neg (by simp), if_pos rfl, hint 0 state.isInt_code rfl, hget 1 rfl]
      rfl
    | serviceOutput service process buffer =>
      cases htag
      rw [handleEventOf, if_neg (by simp), if_neg (by simp), if_pos rfl, hget 0 rfl, hget 1 rfl,
        EventTag.getContent hfit hplain rfl]
      rfl
    | errMsg mt file func line message =>
      cases htag
      rw [handleEventOf, if_neg (by simp), if_neg (by simp), if_neg (by simp),
        if_neg (by simp), if_pos rfl, hint 0 mt.isInt_code rfl, hget 1 rfl, hget 2 rfl,
        hint 3 (isInt_int32 _) rfl, EventTag.getContent hfit hplain rfl]
      rfl
    | processKilled service is state process exitStatus termSig =>
      cases htag
      rw [handleEventOf, if_neg (by simp), if_neg (by simp), if_neg (by simp), if_pos rfl,
        hget 0 rfl, hint 1 is.isInt_code rfl, hget 2 rfl, hget 3 rfl, hint 4 (isInt_int32 _) rfl,
        hint 5 (isInt_int32 _) rfl]
      rfl
    | disconnect behind => cases htag

structure NgeConnection.Holds (c : NgeConnection) (b : List Char) : Prop where
  bytes : c.readBuffer.getD [] = b
  length : c.readBufferLen = b.length

section
variable {c : NgeConnection} {b : List Char} {junk : ℕ → Char}

lemma ngeclientConnected_holds : ngeclientConnected.Holds [] := ⟨rfl, rfl⟩

variable (h : c.Holds b)
include h

lemma NgeConnection.Holds.isEmpty_iff : c.isEmpty = true ↔ b = [] := by
  have hlength := h.length
  have hbytes := h.bytes
  constructor
  · intro hempty
    simp only [NgeConnection.isEmpty, Bool.or_eq_true, decide_eq_true_eq] at hempty
    rcases hempty with hnone | hzero
    · rw [Option.isNone_iff_eq_none] at hnone
      simpa [hnone] using hbytes.symm
    · exact length_eq_zero_iff.mp (by omega)
  · rintro rfl
    simp [NgeConnection.isEmpty, hlength]

lemma NgeConnection.Holds.string (hnul : '\x00' ∉ b) : c.string = b := by
  rw [NgeConnection.string, h.bytes]
  exact takeWhile_eq_self_iff.mpr (bne_of_notMem hnul)

lemma NgeConnection.Holds.fill (arrival : Arrival) :
    (ngeclientReadAndFillBuffer junk arrival c).Holds (b ++ arrival.flatten) := by
  have hstart : c.readBuffer.getD ((range c.readBufferLen).map junk) = b := by
    have hbytes := h.bytes
    cases hbuffer : c.readBuffer with
    | some buffer => simpa [hbuffer] using hbytes
    | none =>
      have hnil : b = [] := by simpa [hbuffer] using hbytes.symm
      simp [h.length, hnil]
  have hpieces (arrival : Arrival) (bytes : List Char) (len : ℕ) (hlen : len = bytes.length) :
      (arrival.foldl (fun (c : NgeConnection) piece => ⟨c.readBuffer.map fun buffer =>
        buffer ++ piece, c.readBufferLen + piece.length⟩) ⟨some bytes, len⟩).Holds
        (bytes ++ arrival.flatten) := by
    induction arrival generalizing bytes len with
    | nil => exact ⟨by simp, by simpa using hlen⟩
    | cons piece arrival ih =>
      rw [flatten_cons, ← append_assoc]
      exact ih (bytes ++ piece) (len + piece.length) (by simp [hlen])
  rw [ngeclientReadAndFillBuffer, hstart]
  exact hpieces arrival b c.readBufferLen h.length

lemma NgeConnection.Holds.poll (junk : ℕ → Char) (arrivals : List Arrival) :
    ∃ c', ngeclientPollForInput junk c arrivals = (c', arrivals.tail) ∧
      c'.Holds (b ++ (arrivals.head?.getD []).flatten) := by
  cases arrivals with
  | nil => exact ⟨c, rfl, by simpa using h⟩
  | cons arrival later =>
    by_cases hempty : arrival.isEmpty = true
    · refine ⟨c, by simp [ngeclientPollForInput, hempty], ?_⟩
      simpa [List.isEmpty_iff.mp hempty] using h
    · exact ⟨ngeclientReadAndFillBuffer junk arrival c,
        by simp [ngeclientPollForInput, hempty], h.fill arrival⟩

lemma NgeConnection.Holds.cut (chars : ℕ) : (ngeclientCutBuffert chars c).Holds (b.drop chars) := by
  have hbytes := h.bytes
  have hlength := h.length
  unfold ngeclientCutBuffert
  split
  next hnone =>
    have hnil : b = [] := by simpa [hnone] using hbytes.symm
    simpa [hnil] using h
  next buffer hsome =>
    have hb : buffer = b := by simpa [hsome] using hbytes
    split
    next hno =>
      rcases hno with rfl | hzero
      · simpa using h
      · have hnil : b = [] := length_eq_zero_iff.mp (by omega)
        simpa [hnil] using h
    · exact ⟨by simp [hb], by simp [hlength]⟩

end

def wire (todo : List (List Char × NgeEvent)) : List Char := todo.flatMap fun p => p.1 ++ ['\n']

/-- These events are still to be handed out: their bytes are in the buffer or have yet to arrive,
maybe behind a newline, and no arrival ends inside of `</event>`. -/
structure Undelivered (todo : List (List Char × NgeEvent)) (b : List Char)
    (arrivals : List Arrival) : Prop where
  stream : b ++ arrivals.flatten.flatten = wire todo ∨
    b ++ arrivals.flatten.flatten = '\n' :: wire todo
  cuts : ∀ i k, 2 ≤ k → k < 8 → ¬ eventClose.take k <:+ b ++ (arrivals.take i).flatten.flatten
  reads : ∀ p ∈ todo, ReadsAs p.1 p.2

section
variable {todo : List (List Char × NgeEvent)} {b : List Char} {arrivals : List Arrival}

lemma Undelivered.receive (h : Undelivered todo b arrivals) :
    Undelivered todo (b ++ (arrivals.head?.getD []).flatten) arrivals.tail := by
  cases arrivals with
  | nil => simpa using h
  | cons arrival later =>
    refine ⟨?_, fun i k hk hk' => ?_, h.reads⟩
    · simpa using h.stream
    · simpa using h.cuts (i + 1) k hk hk'

lemma Undelivered.cuts_drop {p : List Char} (h : Undelivered todo (p ++ b) arrivals) (i k : ℕ)
    (hk : 2 ≤ k) (hk' : k < 8) :
    ¬ eventClose.take k <:+ b ++ (arrivals.take i).flatten.flatten := by
  intro hsuffix
  refine h.cuts i k hk hk' (hsuffix.trans ?_)
  rw [append_assoc]
  exact suffix_append p _

lemma nul_notMem_wire (hreads : ∀ p ∈ todo, ReadsAs p.1 p.2) : '\x00' ∉ wire todo := by
  intro hm
  obtain ⟨p, hp, hm⟩ := mem_flatMap.mp hm
  rcases mem_append.mp hm with hm | hm
  · exact (hreads p hp).nulFree hm
  · simp at hm

lemma Undelivered.nulFree (h : Undelivered todo b arrivals) : '\x00' ∉ b := by
  intro hm
  have hwire := nul_notMem_wire h.reads
  rcases h.stream with hs | hs
  · exact hwire (hs ▸ mem_append_left _ hm)
  · have hm' : '\x00' ∈ '\n' :: wire todo := hs ▸ mem_append_left _ hm
    rcases mem_cons.mp hm' with hm' | hm'
    · simp at hm'
    · exact hwire hm'

lemma wire_head {x : Char} (hreads : ∀ p ∈ todo, ReadsAs p.1 p.2)
    (hx : (wire todo).head? = some x) : x = '<' := by
  cases todo with
  | nil => simp [wire] at hx
  | cons p todo =>
    have hstart := (hreads p (.head _)).start
    obtain ⟨rest, hp⟩ := head?_eq_some_iff.mp hstart
    simp only [wire, flatMap_cons, hp, cons_append, head?_cons, Option.some.injEq] at hx
    exact hx.symm

variable {c : NgeConnection}

lemma Undelivered.skipNewlines (h : Undelivered todo b arrivals) (hc : c.Holds b) (hb : b ≠ []) :
    ∃ b', (skipNewlines c).Holds b' ∧ Undelivered todo b' arrivals ∧
      b' ++ arrivals.flatten.flatten = wire todo := by
  have hstring := hc.string h.nulFree
  -- bytes that begin the rest of the stream do not begin with a newline
  have hnone (bytes : List Char) (hw : bytes ++ arrivals.flatten.flatten = wire todo) :
      bytes.takeWhile (fun x => x == '\n') = [] := by
    cases bytes with
    | nil => rfl
    | cons x bytes =>
      have hx : x = '<' := wire_head h.reads (by rw [← hw]; rfl)
      rw [hx]
      rfl
  rcases h.stream with hs | hs
  · refine ⟨b, ?_, h, hs⟩
    rw [Initng.skipNewlines, hstring, hnone b hs]
    exact hc.cut 0
  · obtain ⟨x, bytes, rfl⟩ := exists_cons_of_ne_nil hb
    obtain ⟨rfl, hw⟩ := cons.inj hs
    refine ⟨bytes, ?_, ⟨.inl hw, h.cuts_drop (p := ['\n']), h.reads⟩, hw⟩
    rw [Initng.skipNewlines, hstring, takeWhile_cons_of_pos (by rfl), hnone bytes hw]
    exact hc.cut 1

lemma NgeConnection.Holds.loops (hc : c.Holds b) (hnul : '\x00' ∉ b) (hb : b ≠ []) :
    ¬ (c.string.isEmpty = true ∨ c.readBufferLen < 1) := by
  have hpos := length_pos_iff.mpr hb
  rw [hc.string hnul, hc.length, List.isEmpty_iff]
  simp only [hb, false_or]
  omega

lemma NgeConnection.Holds.readTags {b' : List Char} (hc : c.Holds b) (hnul : '\x00' ∉ b)
    (hb : b ≠ []) (hc' : (skipNewlines c).Holds b') (hnul' : '\x00' ∉ b')
    (hhead : b'.head? = some '<') (fuel : ℕ) :
    readTags (fuel + 1) c =
      match tagLength b' with
      | none => .returned none (skipNewlines c)
      | some chars =>
        match ngeclientHandleTag (b'.take chars) with
        | none => .fault
        | some none => Initng.readTags fuel (ngeclientCutBuffert chars (skipNewlines c))
        | some (some event) =>
          .returned (some event) (ngeclientCutBuffert chars (skipNewlines c)) := by
  obtain ⟨rest, rfl⟩ := head?_eq_some_iff.mp hhead
  rw [Initng.readTags, if_neg (hc.loops hnul hb)]
  dsimp only
  rw [hc'.string hnul']
  rfl

lemma NgeConnection.Holds.readTags_nil (hc : c.Holds b) (hnul : '\x00' ∉ b) (hb : b ≠ [])
    (hc' : (skipNewlines c).Holds []) (fuel : ℕ) :
    ∃ c', Initng.readTags (fuel + 1) c = .rerun c' ∧ c'.Holds [] := by
  refine ⟨{ skipNewlines c with readBuffer := none }, ?_, ⟨rfl, hc'.length⟩⟩
  rw [Initng.readTags, if_neg (hc.loops hnul hb)]
  dsimp only
  rw [hc'.string not_mem_nil]

/-- The loop over the buffer asks for more when the buffer has been used up, waits for more when
the next event has not arrived as a whole, or hands it out. -/
lemma Undelivered.readTags (h : Undelivered todo b arrivals) (hc : c.Holds b) (hb : b ≠ [])
    (fuel : ℕ) :
    (∃ c', readTags (fuel + 1) c = .rerun c' ∧ c'.Holds [] ∧ Undelivered todo [] arrivals) ∨
    (∃ c' b', readTags (fuel + 1) c = .returned none c' ∧ c'.Holds b' ∧
      Undelivered todo b' arrivals ∧ arrivals ≠ []) ∨
    ∃ p rest c' b', todo = p :: rest ∧ readTags (fuel + 1) c = .returned (some p.2) c' ∧
      c'.Holds b' ∧ Undelivered rest b' arrivals := by
  obtain ⟨b', hc', h', hw⟩ := h.skipNewlines hc hb
  by_cases hnil : b' = []
  · subst hnil
    obtain ⟨c', hrun, hholds⟩ := hc.readTags_nil h.nulFree hb hc' fuel
    exact .inl ⟨c', hrun, hholds, h'⟩
  right
  obtain ⟨x, bytes, hcons⟩ := exists_cons_of_ne_nil hnil
  have hx : x = '<' := wire_head h.reads (by rw [← hw, hcons]; rfl)
  have hrun := hc.readTags h.nulFree hb hc' h'.nulFree (by rw [hcons, hx]; rfl) fuel
  obtain ⟨p, rest, rfl⟩ : ∃ p rest, todo = p :: rest := by
    refine exists_cons_of_ne_nil fun htodo => ?_
    rw [htodo, hcons] at hw
    cases hw
  have hp := h.reads p (.head _)
  have hstream : b' ++ arrivals.flatten.flatten = p.1 ++ ('\n' :: wire rest) := by
    rw [hw]
    simp [wire]
  by_cases hwhole : p.1 <+: b'
  · -- the next event is there
    right
    obtain ⟨more, rfl⟩ := hwhole
    have hmore : more ++ arrivals.flatten.flatten = '\n' :: wire rest := by
      rw [append_assoc] at hstream
      exact append_cancel_left hstream
    have hcut := hc'.cut p.1.length
    rw [drop_left] at hcut
    refine ⟨p, rest, _, more, rfl, ?_, hcut, .inr hmore, h'.cuts_drop, fun q hq =>
      h.reads q (.tail _ hq)⟩
    rw [hrun, hp.whole more]
    dsimp only
    rw [take_left, hp.handled]
  · -- a part of it is there
    left
    have hpart : b' <+: p.1 := by
      have hb' : b' <+: p.1 ++ ('\n' :: wire rest) := ⟨_, hstream⟩
      have hor := prefix_or_prefix_of_prefix hb' (prefix_append _ _)
      exact hor.resolve_right hwhole
    have hnot : b' ≠ p.1 := fun heq => hwhole (heq ▸ prefix_refl _)
    have hcuts := hp.cut b' hpart hnot fun k hk hk' => by simpa using h'.cuts 0 k hk hk'
    refine ⟨_, b', by rw [hrun, hcuts], hc', h', ?_⟩
    rintro rfl
    refine hwhole ⟨'\n' :: wire rest, ?_⟩
    simpa using hstream.symm

lemma Undelivered.polled (h : Undelivered todo b arrivals) (hc : c.Holds b) (junk : ℕ → Char) :
    let quick := ngeclientPollForInput junk c arrivals
    let polled := if quick.1.isEmpty then ngeclientPollForInput junk quick.1 quick.2 else quick
    ∃ b', polled.1.Holds b' ∧ Undelivered todo b' polled.2 ∧
      polled.2.length ≤ arrivals.length - 1 ∧ (arrivals = [] → b' = b) := by
  obtain ⟨c₁, hpoll, hc₁⟩ := hc.poll junk arrivals
  dsimp only
  rw [hpoll]
  dsimp only
  split
  · obtain ⟨c₂, hpoll₂, hc₂⟩ := hc₁.poll junk arrivals.tail
    rw [hpoll₂]
    refine ⟨_, hc₂, h.receive.receive, ?_, fun hnil => by simp [hnil]⟩
    simp only [length_tail]
    omega
  · exact ⟨_, hc₁, h.receive, by simp, fun hnil => by simp [hnil]⟩

lemma Undelivered.todo_eq_nil (h : Undelivered todo [] []) : todo = [] := by
  rcases h.stream with hs | hs
  · cases todo with
    | nil => rfl
    | cons p todo => simp [wire] at hs
  · cases hs

/-- What one call of `get_next_event` does: it hands out the next event, or it has used up an
arrival, or there is no event left. -/
inductive Called (todo : List (List Char × NgeEvent)) (arrivals : List Arrival) :
    Option NgeEvent × NgeConnection × List Arrival → Prop
  | none {c : NgeConnection} {b : List Char} {later : List Arrival} (holds : c.Holds b)
      (pending : Undelivered todo b later) (used : later.length < arrivals.length ∨ todo = []) :
      Called todo arrivals (none, c, later)
  | event {p : List Char × NgeEvent} {rest : List (List Char × NgeEvent)} {c : NgeConnection}
      {b : List Char} {later : List Arrival} (first : todo = p :: rest) (holds : c.Holds b)
      (pending : Undelivered rest b later) (used : later.length ≤ arrivals.length) :
      Called todo arrivals (some p.2, c, later)

lemma Called.mono {later : List Arrival} {r : Option NgeEvent × NgeConnection × List Arrival}
    (h : Called todo later r) (hle : later.length ≤ arrivals.length) : Called todo arrivals r := by
  cases h with
  | none holds pending used => exact .none holds pending (used.imp_left (·.trans_le hle))
  | event first holds pending used => exact .event first holds pending (used.trans hle)

lemma Undelivered.getNextEvent (h : Undelivered todo b arrivals) (hc : c.Holds b)
    (junk : ℕ → Char) (fuel : ℕ) (hfuel : arrivals.length + min 1 b.length < fuel) :
    ∃ r, getNextEvent junk fuel c arrivals = some r ∧ Called todo arrivals r := by
  induction fuel generalizing c b arrivals with
  | zero => omega
  | succ fuel ih =>
    obtain ⟨b', hc', h', hlater, hsame⟩ := h.polled hc junk
    rw [Initng.getNextEvent]
    generalize (if (ngeclientPollForInput junk c arrivals).1.isEmpty = true then
      ngeclientPollForInput junk (ngeclientPollForInput junk c arrivals).1
        (ngeclientPollForInput junk c arrivals).2
      else ngeclientPollForInput junk c arrivals) = polled at hc' h' hlater ⊢
    obtain ⟨c', later⟩ := polled
    dsimp only
    have hlater : later.length ≤ arrivals.length - 1 := hlater
    have hle : later.length ≤ arrivals.length := by omega
    by_cases hempty : b' = []
    · subst hempty
      rw [if_pos (hc'.isEmpty_iff.mpr rfl)]
      refine ⟨_, rfl, .none hc' h' ?_⟩
      by_cases hshort : later.length < arrivals.length
      · exact .inl hshort
      · have hlen : later = [] := length_eq_zero_iff.mp (by omega)
        subst hlen
        exact .inr h'.todo_eq_nil
    rw [if_neg fun hyes => hempty (hc'.isEmpty_iff.mp hyes)]
    rcases h'.readTags hc' hempty c'.readBufferLen with
      ⟨c'', hrun, hholds, hpending⟩ | ⟨c'', b'', hrun, hholds, hpending, hmore⟩ |
      ⟨p, rest, c'', b'', rfl, hrun, hholds, hpending⟩
    · -- only newlines were there: the call is made anew
      rw [hrun]
      dsimp only
      obtain ⟨r, hr, hcalled⟩ := ih hpending hholds (by
        by_cases hnone : arrivals = []
        · have hpos := length_pos_iff.mpr hempty
          rw [hsame hnone] at hpos
          simp only [hnone, length_nil] at hlater hfuel
          simp only [length_nil]
          omega
        · have hpos := length_pos_iff.mpr hnone
          simp only [length_nil]
          omega)
      exact ⟨r, hr, hcalled.mono hle⟩
    · rw [hrun]
      have hpos := length_pos_iff.mpr hmore
      exact ⟨_, rfl, .none hholds hpending (.inl (by omega))⟩
    · rw [hrun]
      exact ⟨_, rfl, .event rfl hholds hpending hle⟩

/-- Calls as many as the arrivals and the events hand out the events, in their order, and no other
event. -/
lemma Undelivered.nextEvents (h : Undelivered todo b arrivals) (hc : c.Holds b) (junk : ℕ → Char)
    (n : ℕ) (hn : arrivals.length + todo.length ≤ n ∨ todo = []) :
    ∃ rest, nextEvents junk n c arrivals = some (todo.map Prod.snd, rest) := by
  induction n generalizing todo c b arrivals with
  | zero =>
    have hnil : todo = [] := hn.elim (fun hle => length_eq_zero_iff.mp (by omega)) id
    exact ⟨_, by rw [hnil]; rfl⟩
  | succ n ih =>
    obtain ⟨r, hr, hcalled⟩ := h.getNextEvent hc junk (arrivals.length + 2) (by omega)
    rw [Initng.nextEvents, hr]
    cases hcalled with
    | none holds pending used =>
      obtain ⟨rest, hrest⟩ := ih pending holds (by
        rcases hn with hle | hnil
        · exact used.imp_left fun hlt => by omega
        · exact .inr hnil)
      exact ⟨rest, by simp [hrest]⟩
    | event first holds pending used =>
      subst first
      obtain ⟨rest, hrest⟩ := ih pending holds (by
        refine .inl ?_
        have hle := hn.resolve_right (cons_ne_nil _ _)
        rw [length_cons] at hle
        omega)
      exact ⟨rest, by simp [hrest]⟩

end

/-- No call finds the bytes that were received so far ending inside of `</event>`, behind
its `</`. -/
def CutsApart (arrivals : List Arrival) : Prop :=
  ∀ i k, 2 ≤ k → k < 8 → ¬ eventClose.take k <:+ (arrivals.take i).flatten.flatten

lemma exists_todo {events : List NgeServerEvent} (hplain : ∀ e ∈ events, e.Plain) :
    ∃ todo : List (List Char × NgeEvent), wire todo = events.flatMap NgeServerEvent.text ∧
      todo.map Prod.snd = events.map NgeServerEvent.event ∧ todo.length = events.length ∧
      ∀ p ∈ todo, ReadsAs p.1 p.2 := by
  induction events with
  | nil => exact ⟨[], rfl, rfl, rfl, fun p hp => nomatch hp⟩
  | cons e events ih =>
    obtain ⟨todo, hwire, hevents, hlength, hreads⟩ := ih fun e he => hplain e (.tail _ he)
    obtain ⟨t, htag, ht⟩ := hplain e (.head _)
    have htext : e.text = t.text ++ ['\n'] := by
      simp only [NgeServerEvent.text, htag]
    refine ⟨(t.text, e.event) :: todo, ?_, ?_, ?_, fun p hp => ?_⟩
    · rw [flatMap_cons, ← hwire, htext]
      rfl
    · rw [map_cons, map_cons, hevents]
    · rw [length_cons, length_cons, hlength]
    · rcases mem_cons.mp hp with rfl | hp
      · exact NgeServerEvent.readsAs htag ht
      · exact hreads p hp

/-- No event is lost, made up or changed, as long as every event is plain and no call finds the
bytes cut inside of `</event>`. -/
theorem events_survive (junk : ℕ → Char) (events : List NgeServerEvent) (arrivals : List Arrival)
    (hplain : ∀ e ∈ events, e.Plain)
    (hstream : arrivals.flatten.flatten = events.flatMap NgeServerEvent.text)
    (hcuts : CutsApart arrivals) (n : ℕ) (hn : arrivals.length + events.length ≤ n) :
    ∃ rest, nextEvents junk n ngeclientConnected arrivals =
      some (events.map NgeServerEvent.event, rest) := by
  obtain ⟨todo, hwire, hevents, hlength, hreads⟩ := exists_todo hplain
  have hpending : Undelivered todo [] arrivals :=
    ⟨.inl (by rw [nil_append, hstream, hwire]), hcuts, hreads⟩
  rw [← hevents]
  exact hpending.nextEvents ngeclientConnected_holds junk n (.inl (by omega))

lemma cutsApart_of_bounded {arrivals : List Arrival}
    (h : ∀ i ≤ arrivals.length, ∀ k < 8, 2 ≤ k →
      ¬ eventClose.take k <:+ (arrivals.take i).flatten.flatten) : CutsApart arrivals := by
  intro i k hk hk'
  by_cases hi : i ≤ arrivals.length
  · exact h i hi k hk' hk
  · have hall := h arrivals.length le_rfl k hk' hk
    rw [take_length] at hall
    rwa [take_of_length_le (Nat.le_of_not_le hi)]

def upEvent : NgeServerEvent := .systemStateChange .stateUp ⟨"default".toList, by decide⟩

def outputEvent (line : CText) : NgeServerEvent :=
  .serviceOutput ⟨"getty".toList, by decide⟩ ⟨"daemon".toList, by decide⟩ line

def cutAt (k : ℕ) (bytes : List Char) : List Arrival := [[bytes.take k], [bytes.drop k]]

lemma cutAt_flatten (k : ℕ) (bytes : List Char) : (cutAt k bytes).flatten.flatten = bytes := by
  simp [cutAt]

lemma upEvent_plain : upEvent.Plain :=
  ⟨_, rfl, by decide +kernel, by decide +kernel, by decide +kernel, fun _ hcontent =>
    nomatch hcontent⟩

lemma outputEvent_plain : (outputEvent ⟨['u', 'p'], by decide⟩).Plain :=
  ⟨_, rfl, by decide +kernel, by decide +kernel, by decide +kernel, fun text hcontent => by
    cases hcontent
    decide +kernel⟩

theorem events_survive_getty :
    ∃ rest, nextEvents (fun _ => '\x00') 4 ngeclientConnected
      (cutAt 30 ((outputEvent ⟨['u', 'p'], by decide⟩).text ++ upEvent.text)) =
      some ([(outputEvent ⟨['u', 'p'], by decide⟩).event, upEvent.event], rest) := by
  refine events_survive _ [outputEvent ⟨['u', 'p'], by decide⟩, upEvent] _ ?_ ?_ ?_ 4 (by decide)
  · intro e he
    rcases mem_pair.mp he with rfl | rfl
    · exact outputEvent_plain
    · exact upEvent_plain
  · rw [cutAt_flatten, flatMap_cons, flatMap_singleton]
  · exact cutsApart_of_bounded (by decide +kernel)

section
variable {junk : ℕ → Char} {c : NgeConnection} {arrivals : List Arrival}

lemma nextEvents_succ {r : Option NgeEvent × NgeConnection × List Arrival}
    (h : getNextEvent junk (arrivals.length + 2) c arrivals = some r) (n : ℕ) :
    nextEvents junk (n + 1) c arrivals =
      (nextEvents junk n r.2.1 r.2.2).map fun more => (r.1.toList ++ more.1, more.2) := by
  rw [nextEvents, h]
  rfl

lemma nextEvents_stuck (h : getNextEvent junk 2 c [] = some (none, c, [])) (n : ℕ) :
    nextEvents junk n c [] = some ([], c, []) := by
  induction n with
  | zero => rfl
  | succ n ih =>
    rw [nextEvents_succ h, ih]
    rfl

end

/-- Some number of calls returns just the events that were sent. -/
def Survive (events : List NgeServerEvent) (arrivals : List Arrival) : Prop :=
  ∃ n rest, nextEvents (fun _ => '\x00') n ngeclientConnected arrivals =
    some (events.map NgeServerEvent.event, rest)

/-- Events are lost: the one behind a plain line of output, when the first arrival ends with `</` of
its `</event>`; a line of output with a `<` in it; and the disconnect. -/
theorem events_not_always_survive :
    ¬ Survive [outputEvent ⟨['u', 'p'], by decide⟩, upEvent]
        (cutAt 66 ((outputEvent ⟨['u', 'p'], by decide⟩).text ++ upEvent.text)) ∧
      ¬ Survive [outputEvent ⟨['a', '<', 'b'], by decide⟩]
        [[(outputEvent ⟨['a', '<', 'b'], by decide⟩).text]] ∧
      ¬ Survive [.disconnect '\x00'] [[(NgeServerEvent.disconnect '\x00').text]] := by
  refine ⟨?_, ?_, ?_⟩
  · rintro ⟨n, rest, hn⟩
    -- what is left of `</event>` stays in front of the buffer
    obtain ⟨left, hleft⟩ : ∃ left, left = "event>\n".toList ++ upEvent.text := ⟨_, rfl⟩
    have hfirst : getNextEvent (fun _ => '\x00') 4 ngeclientConnected
        (cutAt 66 ((outputEvent ⟨['u', 'p'], by decide⟩).text ++ upEvent.text)) =
        some (some (outputEvent ⟨['u', 'p'], by decide⟩).event, ⟨some [], 0⟩, [[left]]) := by
      rw [hleft]
      decide +kernel
    have hsecond : getNextEvent (fun _ => '\x00') 3 ⟨some [], 0⟩ [[left]] =
        some (none, ⟨some left, left.length⟩, []) := by
      rw [hleft]
      decide +kernel
    have hstuck : getNextEvent (fun _ => '\x00') 2 ⟨some left, left.length⟩ [] =
        some (none, ⟨some left, left.length⟩, []) := by
      rw [hleft]
      decide +kernel
    cases n with
    | zero => cases hn
    | succ n =>
      rw [nextEvents_succ hfirst] at hn
      cases n with
      | zero => cases hn
      | succ n =>
        rw [nextEvents_succ hsecond, nextEvents_stuck hstuck] at hn
        cases hn
  · rintro ⟨n, rest, hn⟩
    have hfirst : getNextEvent (fun _ => '\x00') 3 ngeclientConnected
        [[(outputEvent ⟨['a', '<', 'b'], by decide⟩).text]] =
        some (some (outputEvent ⟨['a'], by decide⟩).event, ⟨some ['\n'], 1⟩, []) := by
      decide +kernel
    cases n with
    | zero => cases hn
    | succ n =>
      rw [nextEvents_succ hfirst, Option.map_eq_some_iff] at hn
      obtain ⟨more, -, hmore⟩ := hn
      simp [outputEvent, NgeServerEvent.event] at hmore
  · rintro ⟨n, rest, hn⟩
    have hfirst : getNextEvent (fun _ => '\x00') 3 ngeclientConnected
        [[(NgeServerEvent.disconnect '\x00').text]] = some (none, ⟨none, 2⟩, []) := by
      decide +kernel
    have hstuck : getNextEvent (fun _ => '\x00') 2 ⟨none, 2⟩ [] = some (none, ⟨none, 2⟩, []) := by
      decide +kernel
    cases n with
    | zero => cases hn
    | succ n =>
      rw [nextEvents_succ hfirst, nextEvents_stuck hstuck] at hn
      cases hn

end Initng
