import Initng.CutStream
import Initng.NgcsRoundTrip

/-! `modules/ngcs/ngcs_common.c`. -/

namespace Initng

open LittleEndian CutStream List Option

structure NgcsSent where
  chan : CInt
  type : CInt
  len : CInt
  data : List Byte
  sized : data.length = len.toInt.toNat
  deriving DecidableEq

def NgcsSent.encode (m : NgcsSent) : List Byte :=
  intBytes m.chan ++ intBytes m.type ++ intBytes m.len ++ m.data

structure NgcsOut where
  /-- `fd` is not negative. -/
  isOpen : Bool
  wrbuf : List Byte
  wrbuflen : ℕ
  towrite : ℕ
  accepted : List Byte
  deriving DecidableEq

/-- What `send` does: it accepts so many bytes, of those offered at most, it asks to try again
(`EAGAIN`, `EINTR`), or it fails. -/
inductive SendResult
  | took (n : ℕ)
  | again
  | failed
  deriving DecidableEq

def memcpyTo (buf : List Byte) (pos : ℕ) (bs : List Byte) : Option (List Byte) :=
  if pos + bs.length ≤ buf.length then some (buf.take pos ++ bs ++ buf.drop (pos + bs.length))
  else none

/-- `realloc`; what lies behind the old contents is left open. -/
def realloc (buf : List Byte) (n : ℕ) (junk : ℕ → Byte) : List Byte :=
  buf.take n ++ (range (n - buf.length)).map junk

def ngcsConnWriteReady (r : SendResult) (c : NgcsOut) : Option NgcsOut :=
  if ¬ c.isOpen ∨ c.towrite = 0 then some c
  else if c.wrbuf.length < c.towrite then none
  else
    match r with
    | .again => some c
    | .failed => some { c with isOpen := false }
    | .took n => do
      let retval := min n c.towrite
      -- `memmove` reads the bytes that are left before it writes them
      let wrbuf ← memcpyTo c.wrbuf 0 ((c.wrbuf.drop retval).take (c.towrite - retval))
      return { c with
        wrbuf := wrbuf
        towrite := c.towrite - retval
        accepted := c.accepted ++ c.wrbuf.take retval }

/-- `ngcs_conn_send` makes room for a message of this length.  The allocation succeeds. -/
def NgcsOut.resize (junk : ℕ → Byte) (totalLen : ℕ) (c : NgcsOut) : NgcsOut :=
  if (c.wrbuflen : ℤ) - c.towrite < totalLen then
    { c with
      wrbuf := realloc c.wrbuf (c.towrite + totalLen) junk
      wrbuflen := c.towrite + totalLen }
  else c

def ngcsConnSend (junk : ℕ → Byte) (r : SendResult) (m : NgcsSent) (c : NgcsOut) :
    Option (Bool × NgcsOut) :=
  let totalLen := 12 + m.len.toInt.toNat
  if ¬ c.isOpen then some (false, c)
  else if 2 ^ 31 ≤ c.towrite + totalLen then none
  else do
    let c := c.resize junk totalLen
    let wrbuf ← memcpyTo c.wrbuf c.towrite (intBytes m.chan ++ intBytes m.type ++ intBytes m.len)
    let wrbuf ← (if 0 < m.len.toInt then memcpyTo wrbuf (c.towrite + 12) m.data else some wrbuf)
    let c ← ngcsConnWriteReady r { c with wrbuf := wrbuf, towrite := c.towrite + totalLen }
    return (c.isOpen, c)

/-- `ngcs_conn_from_fd`, where `buf` is the memory allocated for `wrbuf`. -/
def ngcsConnFromFd (buf : List Byte) : NgcsOut where
  isOpen := true
  wrbuf := buf
  wrbuflen := 1024
  towrite := 0
  accepted := []

/-- `ngcs_recvall`; `none` is the return value 1.  Each turn takes a byte at least, so `len`
turns are enough. -/
def ngcsRecvall : ℕ → ℕ → Source Byte → Option (List Byte × Source Byte)
  | _, 0, sock => some ([], sock)
  | 0, _ + 1, _ => none
  | fuel + 1, len + 1, sock =>
    let (buf, sock) := sock.read (len + 1)
    if buf.length = 0 then none
    else (ngcsRecvall fuel (len + 1 - buf.length) sock).map fun r => (buf ++ r.1, r.2)

structure NgcsRecv where
  chan : CInt
  type : CInt
  len : CInt
  data : Option (List Byte)
  deriving DecidableEq

/-- `ngcs_recvmsg`; `none` is the return value 1.  The allocation succeeds. -/
def ngcsRecvmsg (sock : Source Byte) : Option (NgcsRecv × Source Byte) := do
  let (head, sock) ← ngcsRecvall 12 12 sock
  let chan := readInt head
  let type := readInt (head.drop 4)
  let len := readInt (head.drop 8)
  if len.toInt < 0 then
    return (⟨chan, type, len, none⟩, sock)
  let (data, sock) ← ngcsRecvall len.toNat len.toNat sock
  return (⟨chan, type, len, some data⟩, sock)

def recvMsgs : ℕ → Source Byte → Option (List NgcsRecv × Source Byte)
  | 0, sock => some ([], sock)
  | n + 1, sock => do
    let (m, sock) ← ngcsRecvmsg sock
    let (ms, sock) ← recvMsgs n sock
    return (m :: ms, sock)

def NgcsSent.received (m : NgcsSent) : NgcsRecv where
  chan := m.chan
  type := m.type
  len := m.len
  data := if m.len.toInt < 0 then none else some m.data

variable {sock : Source Byte} {rest : List Byte} {c : NgcsOut} {ms : List NgcsSent} {r : SendResult}

lemma ngcsRecvall_eq {fuel len : ℕ} (hfuel : len ≤ fuel) {bs : List Byte} (hlen : bs.length = len)
    (hleft : sock.left = bs ++ rest) :
    ∃ sock', ngcsRecvall fuel len sock = some (bs, sock') ∧ sock'.left = rest := by
  induction fuel generalizing len sock bs with
  | zero =>
    obtain rfl : len = 0 := by omega
    obtain rfl : bs = [] := length_eq_zero_iff.mp hlen
    exact ⟨sock, by rw [ngcsRecvall], hleft⟩
  | succ fuel ih =>
    cases len with
    | zero =>
      obtain rfl : bs = [] := length_eq_zero_iff.mp hlen
      exact ⟨sock, by rw [ngcsRecvall], hleft⟩
    | succ len =>
      -- the piece read is a part of `bs`, which the other turns complete
      have happ : (sock.read (len + 1)).1 ++ (sock.read (len + 1)).2.left = bs ++ rest :=
        Source.read_append.trans hleft
      have hle : (sock.read (len + 1)).1.length ≤ len + 1 := Source.length_read_le
      have hne : sock.left ≠ [] := by
        intro h
        rw [h] at hleft
        have hnil := (append_eq_nil_iff.mp hleft.symm).1
        rw [hnil] at hlen
        cases hlen
      have hpos : 0 < (sock.read (len + 1)).1.length :=
        Source.length_read_pos (Nat.succ_pos len) hne
      obtain ⟨more, hbs, hmore⟩ :
          ∃ more, bs = (sock.read (len + 1)).1 ++ more ∧
            (sock.read (len + 1)).2.left = more ++ rest := by
        rcases append_eq_append_iff.mp happ with ⟨more, hbs, hmore⟩ | ⟨more, hbs, hmore⟩
        · exact ⟨more, hbs, hmore⟩
        · have hnil : more.length = 0 := by
            have hlength := congrArg length hbs
            rw [length_append] at hlength
            omega
          obtain rfl := length_eq_zero_iff.mp hnil
          exact ⟨[], by rw [hbs, append_nil, append_nil], hmore.symm⟩
      have hlength : more.length = len + 1 - (sock.read (len + 1)).1.length := by
        rw [hbs, length_append] at hlen
        omega
      obtain ⟨sock', hrest, hleft'⟩ := ih (by omega) hlength hmore
      refine ⟨sock', ?_, hleft'⟩
      rw [ngcsRecvall]
      dsimp only
      rw [if_neg (by omega), hrest, hbs]
      rfl

abbrev NgcsSent.head (m : NgcsSent) : List Byte :=
  intBytes m.chan ++ intBytes m.type ++ intBytes m.len

lemma NgcsSent.length_head (m : NgcsSent) : m.head.length = 12 := by simp [NgcsSent.head]

lemma NgcsSent.length_encode (m : NgcsSent) : m.encode.length = 12 + m.len.toInt.toNat := by
  simp only [NgcsSent.encode, length_append, length_intBytes, m.sized]

lemma ngcsRecvmsg_encode (m : NgcsSent) (hleft : sock.left = m.encode ++ rest) :
    ∃ sock', ngcsRecvmsg sock = some (m.received, sock') ∧ sock'.left = rest := by
  rw [NgcsSent.encode, append_assoc] at hleft
  obtain ⟨sock₁, hrecv₁, hleft₁⟩ := ngcsRecvall_eq (Nat.le_refl 12) m.length_head hleft
  have hchan : readInt m.head = m.chan := by
    rw [NgcsSent.head, append_assoc, readInt_intBytes]
  have htype : readInt (m.head.drop 4) = m.type := by
    rw [NgcsSent.head, append_assoc, drop_left' (length_intBytes _), readInt_intBytes]
  have hlen : readInt (m.head.drop 8) = m.len := by
    rw [drop_left' (by simp), ← append_nil (intBytes m.len), readInt_intBytes]
  have hsized := m.sized
  by_cases hneg : m.len.toInt < 0
  · have hnil : m.data = [] := by
      rw [Int.toNat_of_nonpos (by omega)] at hsized
      exact length_eq_zero_iff.mp hsized
    refine ⟨sock₁, ?_, by rw [hleft₁, hnil, nil_append]⟩
    simp only [ngcsRecvmsg, hrecv₁, bind_eq_bind, bind_some, hchan, htype, hlen,
      if_pos hneg, NgcsSent.received]
    rfl
  · have hnat : m.data.length = m.len.toNat := by
      rw [hsized, BitVec.toInt_eq_toNat_cond]
      rw [BitVec.toInt_eq_toNat_cond] at hneg
      split at hneg <;> split <;> omega
    obtain ⟨sock₂, hrecv₂, hleft₂⟩ := ngcsRecvall_eq (Nat.le_refl m.len.toNat) hnat hleft₁
    refine ⟨sock₂, ?_, hleft₂⟩
    simp only [ngcsRecvmsg, hrecv₁, hrecv₂, bind_eq_bind, bind_some, hchan, htype,
      hlen, if_neg hneg, NgcsSent.received]
    rfl

lemma recvMsgs_flatMap (ms : List NgcsSent)
    (hleft : sock.left = ms.flatMap NgcsSent.encode ++ rest) :
    ∃ sock', recvMsgs ms.length sock = some (ms.map NgcsSent.received, sock') ∧
      sock'.left = rest := by
  induction ms generalizing sock with
  | nil => exact ⟨sock, rfl, hleft⟩
  | cons m ms ih =>
    rw [flatMap_cons, append_assoc] at hleft
    obtain ⟨sock₁, hrecv₁, hleft₁⟩ := ngcsRecvmsg_encode m hleft
    obtain ⟨sock₂, hrecv₂, hleft₂⟩ := ih hleft₁
    refine ⟨sock₂, ?_, hleft₂⟩
    simp only [length_cons, recvMsgs, hrecv₁, hrecv₂, bind_eq_bind, bind_some, map_cons]
    rfl

def NgcsOut.pending (c : NgcsOut) : List Byte := c.wrbuf.take c.towrite

/-- The connection is open, and these messages were sent: what the socket has accepted of them
and what waits. -/
structure NgcsOut.Carries (c : NgcsOut) (ms : List NgcsSent) : Prop where
  isOpen : c.isOpen
  wrbuflen : c.wrbuflen = c.wrbuf.length
  towrite : c.towrite ≤ c.wrbuf.length
  stream : c.accepted ++ c.pending = ms.flatMap NgcsSent.encode

lemma memcpyTo_eq (buf : List Byte) (pos : ℕ) (bs : List Byte)
    (h : pos + bs.length ≤ buf.length) :
    ∃ buf', memcpyTo buf pos bs = some buf' ∧ buf'.length = buf.length ∧
      buf'.take (pos + bs.length) = buf.take pos ++ bs := by
  refine ⟨_, if_pos h, ?_, ?_⟩
  · simp only [length_append, length_take, length_drop]
    omega
  · apply take_left'
    rw [length_append, length_take]
    omega

lemma NgcsOut.Carries.writeReady (h : c.Carries ms) (hr : r ≠ .failed) :
    ∃ c', ngcsConnWriteReady r c = some c' ∧ c'.Carries ms := by
  have hroom := h.towrite
  unfold ngcsConnWriteReady
  by_cases hidle : ¬ c.isOpen ∨ c.towrite = 0
  · exact ⟨c, if_pos hidle, h⟩
  rw [if_neg hidle, if_neg (by omega)]
  cases r with
  | failed => exact absurd rfl hr
  | again => exact ⟨c, rfl, h⟩
  | took n =>
    dsimp only
    have hk : min n c.towrite ≤ c.towrite := Nat.min_le_right ..
    generalize min n c.towrite = k at hk ⊢
    have hlen : ((c.wrbuf.drop k).take (c.towrite - k)).length = c.towrite - k := by
      rw [length_take, length_drop]
      omega
    obtain ⟨buf, hcopy, hlength, htake⟩ :=
      memcpyTo_eq c.wrbuf 0 ((c.wrbuf.drop k).take (c.towrite - k)) (by omega)
    rw [hlen, Nat.zero_add, take_zero, nil_append] at htake
    rw [hcopy]
    refine ⟨_, rfl, h.isOpen, h.wrbuflen.trans hlength.symm, ?_, ?_⟩
    · dsimp only
      omega
    · rw [← h.stream]
      dsimp only [NgcsOut.pending]
      rw [htake, append_assoc, ← take_add, Nat.add_sub_cancel' hk]

lemma NgcsOut.Carries.resize (h : c.Carries ms) (junk : ℕ → Byte) (n : ℕ) :
    ∃ buf, c.resize junk n = { c with wrbuf := buf, wrbuflen := buf.length } ∧
      c.towrite + n ≤ buf.length ∧ buf.take c.towrite = c.pending := by
  have hlen := h.wrbuflen
  have hroom := h.towrite
  unfold NgcsOut.resize
  split_ifs with hsmall
  · have hlength : (realloc c.wrbuf (c.towrite + n) junk).length = c.towrite + n := by
      simp only [realloc, length_append, length_take, length_map, length_range]
      omega
    refine ⟨realloc c.wrbuf (c.towrite + n) junk, by rw [hlength], by omega, ?_⟩
    rw [realloc, take_of_length_le (by omega : c.wrbuf.length ≤ c.towrite + n),
      take_append_of_le_length hroom]
    rfl
  · exact ⟨c.wrbuf, by rw [← hlen], by omega, rfl⟩

lemma NgcsOut.Carries.send (h : c.Carries ms) {m : NgcsSent}
    (hsize : ((ms ++ [m]).flatMap NgcsSent.encode).length < 2 ^ 31) (hr : r ≠ .failed)
    (junk : ℕ → Byte) :
    ∃ c', ngcsConnSend junk r m c = some (true, c') ∧ c'.Carries (ms ++ [m]) := by
  have hflat : (ms ++ [m]).flatMap NgcsSent.encode = c.accepted ++ c.pending ++ m.encode := by
    rw [flatMap_append, ← h.stream, flatMap_singleton]
  have hpending : c.pending.length = c.towrite := by
    rw [NgcsOut.pending, length_take, Nat.min_eq_left h.towrite]
  have hbound : c.towrite + (12 + m.len.toInt.toNat) < 2 ^ 31 := by
    rw [hflat, length_append, length_append, hpending, m.length_encode] at hsize
    omega
  obtain ⟨buf, hresize, hroom, hkept⟩ := h.resize junk (12 + m.len.toInt.toNat)
  have hhead := m.length_head
  obtain ⟨buf₁, hcopy₁, hlength₁, htake₁⟩ := memcpyTo_eq buf c.towrite m.head (by omega)
  rw [hhead, hkept] at htake₁
  -- the data, if there is any, goes behind the head
  obtain ⟨buf₂, hcopy₂, hlength₂, htake₂⟩ : ∃ buf₂,
      (if 0 < m.len.toInt then memcpyTo buf₁ (c.towrite + 12) m.data else some buf₁) =
        some buf₂ ∧ buf₂.length = buf.length ∧
      buf₂.take (c.towrite + (12 + m.len.toInt.toNat)) = c.pending ++ m.encode := by
    have hsized := m.sized
    split_ifs with hpos
    · obtain ⟨buf₂, hcopy₂, hlength₂, htake₂⟩ := memcpyTo_eq buf₁ (c.towrite + 12) m.data (by omega)
      refine ⟨buf₂, hcopy₂, hlength₂.trans hlength₁, ?_⟩
      rw [← add_assoc, ← hsized, htake₂, htake₁, NgcsSent.encode, append_assoc]
    · have hzero : m.len.toInt.toNat = 0 := by omega
      have hnil : m.data = [] := length_eq_zero_iff.mp (hsized.trans hzero)
      refine ⟨buf₁, rfl, hlength₁, ?_⟩
      rw [hzero, htake₁, NgcsSent.encode, hnil, append_nil]
  have hcarries : NgcsOut.Carries { c with
      wrbuf := buf₂
      wrbuflen := buf.length
      towrite := c.towrite + (12 + m.len.toInt.toNat) } (ms ++ [m]) := by
    refine ⟨h.isOpen, hlength₂.symm, ?_, ?_⟩
    · dsimp only
      omega
    · rw [hflat, append_assoc]
      exact congrArg (c.accepted ++ ·) htake₂
  obtain ⟨c', hwrite, hc'⟩ := hcarries.writeReady hr
  refine ⟨c', ?_, hc'⟩
  have hopen : c.isOpen = true := h.isOpen
  have hopen' : c'.isOpen = true := hc'.isOpen
  rw [ngcsConnSend, if_neg (not_not.mpr hopen), if_neg (Nat.not_le.mpr hbound)]
  simp only [hresize, hcopy₁, hcopy₂, hwrite, bind_eq_bind, bind_some, hopen']
  rfl

/-- A call by the program or by the poll loop, with what `send` does in it and what memory a
larger buffer would bring. -/
inductive OutCall
  | send (m : NgcsSent) (r : SendResult) (junk : ℕ → Byte)
  | writeReady (r : SendResult)

def OutCall.result : OutCall → SendResult
  | send _ r _ => r
  | writeReady r => r

def messages : List OutCall → List NgcsSent
  | [] => []
  | .send m _ _ :: calls => m :: messages calls
  | .writeReady _ :: calls => messages calls

def OutCall.apply (c : NgcsOut) : OutCall → Option NgcsOut
  | send m r junk => (ngcsConnSend junk r m c).map Prod.snd
  | writeReady r => ngcsConnWriteReady r c

def runOut : List OutCall → NgcsOut → Option NgcsOut
  | [], c => some c
  | call :: calls, c => do runOut calls (← call.apply c)

lemma NgcsOut.Carries.run (h : c.Carries ms) {calls : List OutCall}
    (hok : ∀ call ∈ calls, call.result ≠ .failed)
    (hsize : ((ms ++ messages calls).flatMap NgcsSent.encode).length < 2 ^ 31) :
    ∃ c', runOut calls c = some c' ∧ c'.Carries (ms ++ messages calls) := by
  induction calls generalizing c ms with
  | nil => exact ⟨c, rfl, by rwa [messages, append_nil]⟩
  | cons call calls ih =>
    have hok' : ∀ call ∈ calls, call.result ≠ .failed := fun d hd => hok d (.tail _ hd)
    cases call with
    | send m r junk =>
      rw [messages, append_cons] at hsize ⊢
      have hprefix : ((ms ++ [m]).flatMap NgcsSent.encode).length < 2 ^ 31 := by
        rw [flatMap_append, length_append] at hsize
        omega
      have hr : r ≠ .failed := hok _ (.head _)
      obtain ⟨c₁, hsend, h₁⟩ := h.send hprefix hr junk
      obtain ⟨c₂, hrun, h₂⟩ := ih h₁ hok' hsize
      exact ⟨c₂, by simp [runOut, OutCall.apply, hsend, hrun], h₂⟩
    | writeReady r =>
      have hr : r ≠ .failed := hok _ (.head _)
      obtain ⟨c₁, hwrite, h₁⟩ := h.writeReady hr
      obtain ⟨c₂, hrun, h₂⟩ := ih h₁ hok' hsize
      exact ⟨c₂, by simp [runOut, OutCall.apply, hwrite, hrun], h₂⟩

lemma ngcsConnFromFd_carries {buf : List Byte} (hbuf : buf.length = 1024) :
    (ngcsConnFromFd buf).Carries [] :=
  ⟨rfl, hbuf.symm, Nat.zero_le _, rfl⟩

/-- Whatever `send` does short of failing, and whenever the socket is ready, the stream is the
messages in the order of the calls, nothing outside of the buffer is touched, and the other
end receives the messages, in whatever pieces the stream arrives. -/
theorem ngcsTransport_reliable {buf : List Byte} (hbuf : buf.length = 1024)
    {calls : List OutCall} (hok : ∀ call ∈ calls, call.result ≠ .failed)
    (hsize : ((messages calls).flatMap NgcsSent.encode).length < 2 ^ 31) :
    ∃ c, runOut calls (ngcsConnFromFd buf) = some c ∧
      c.accepted ++ c.wrbuf.take c.towrite = (messages calls).flatMap NgcsSent.encode ∧
      c.towrite ≤ c.wrbuflen ∧ c.wrbuflen = c.wrbuf.length ∧
      ∀ cuts, ∃ sock, recvMsgs (messages calls).length
          ⟨c.accepted ++ c.wrbuf.take c.towrite, cuts⟩ =
            some ((messages calls).map NgcsSent.received, sock) ∧ sock.left = [] := by
  obtain ⟨c, hrun, h⟩ := (ngcsConnFromFd_carries hbuf).run hok hsize
  rw [nil_append] at h
  refine ⟨c, hrun, h.stream, by rw [h.wrbuflen]; exact h.towrite, h.wrbuflen, fun cuts => ?_⟩
  apply recvMsgs_flatMap
  rw [append_nil]
  exact h.stream

/-- Two bytes on channel 5 and the close of that channel, of which a piece is sent. -/
theorem ngcsTransport_reliable_closed :
    ∃ c, runOut [.send ⟨5, 2, 2, [97, 98], by decide⟩ (.took 3) (fun _ => 0),
        .send ⟨5, 0, -1, [], by decide⟩ .again (fun _ => 0), .writeReady (.took 20)]
        (ngcsConnFromFd (replicate 1024 0)) = some c ∧
      ∀ cuts, ∃ sock, recvMsgs 2 ⟨c.accepted ++ c.wrbuf.take c.towrite, cuts⟩ =
          some ([⟨5, 2, 2, some [97, 98]⟩, ⟨5, 0, -1, none⟩], sock) ∧ sock.left = [] := by
  have hbuf : (replicate 1024 (0 : Byte)).length = 1024 := length_replicate
  have hok : ∀ call ∈ [.send ⟨5, 2, 2, [97, 98], by decide⟩ (.took 3) (fun _ => 0),
      .send ⟨5, 0, -1, [], by decide⟩ .again (fun _ => 0), .writeReady (.took 20)],
      OutCall.result call ≠ .failed := by simp [OutCall.result]
  obtain ⟨c, hrun, -, -, -, hrecv⟩ := ngcsTransport_reliable hbuf hok (by decide)
  exact ⟨c, hrun, hrecv⟩

end Initng
