import Starpc.Packet

/-!
# The tunnel's byte view: `RpcStreamReadWriter`

`rpcstream` runs a second RPC session inside one bidirectional call. `RpcStreamReadWriter`
turns the outer call into an `io.ReadWriteCloser` for the inner session's packet framing:
`Write(p)` sends all of `p` as one `Data` packet, and `Read(p)` copies bytes from its buffer,
or else receives packets until one carries data, copies what fits into `p` and buffers the
rest.

* `RpcStreamPacket` and the two getters `Read` uses;
* `RpcStream`, one end of the outer call: the packets `Recv` will return, the error it returns
  once they run out, the packets `Send` has sent and the error `Send` fails with;
* `RpcStreamReadWriter.write` and `RpcStreamReadWriter.read`, whose `for` loop is `readLoop`;
* `read_delivers_written`: whatever the chunking on both sides, the bytes read so far, the
  buffer and the data still in flight always make up exactly the bytes written.

`p` is represented by its length; `Read` returns the bytes it copied to `p[:n]`.
-/

namespace Starpc

/-- The `body` oneof of `RpcStreamPacket`. -/
inductive RpcStreamPacket.Body
  | init (componentId : String)
  | ack (error : String)
  | data (data : Bytes)
  deriving DecidableEq, Repr

/-- `RpcStreamPacket`, with `body = none` when the oneof is unset. -/
structure RpcStreamPacket where
  body : Option RpcStreamPacket.Body
  deriving DecidableEq, Repr

namespace RpcStreamPacket

/-- `pkt.GetData()`: the bytes of a `Data` packet, empty for any other. -/
def getData (pkt : RpcStreamPacket) : Bytes :=
  match pkt.body with
  | some (.data d) => d
  | _ => []

/-- `pkt.GetAck().GetError()`: the error of an `Ack`, empty for any other packet. -/
def getAckError (pkt : RpcStreamPacket) : String :=
  match pkt.body with
  | some (.ack e) => e
  | _ => ""

/-- A packet that gives `Read` nothing: an `Init`, an `Ack` with an empty error, a `Data`
with no bytes, or an unset body. -/
def IsFiller (pkt : RpcStreamPacket) : Prop := pkt.getAckError = "" ∧ pkt.getData = []

end RpcStreamPacket

/-- One end of the outer call, as the `RpcStream` interface offers it. -/
structure RpcStream where
  /-- The packets `Recv` returns, in order. -/
  incoming : List RpcStreamPacket
  /-- The error `Recv` returns once `incoming` is exhausted (`io.EOF`, a reset, ...). -/
  recvErr : String
  /-- The packets `Send` has sent. -/
  sent : List RpcStreamPacket
  /-- The error every `Send` fails with, if the call is broken. -/
  sendErr : Option String
  deriving DecidableEq, Repr

namespace RpcStream

/-- `stream.Recv()`. -/
def recv (s : RpcStream) : Except String RpcStreamPacket × RpcStream :=
  match s.incoming with
  | [] => (.error s.recvErr, s)
  | pkt :: rest => (.ok pkt, { s with incoming := rest })

/-- `stream.Send(pkt)`. -/
def send (s : RpcStream) (pkt : RpcStreamPacket) : Option String × RpcStream :=
  match s.sendErr with
  | some e => (some e, s)
  | none => (none, { s with sent := s.sent ++ [pkt] })

theorem recv_eq_ok {s s' : RpcStream} {pkt : RpcStreamPacket} (h : s.recv = (.ok pkt, s')) :
    s.incoming = pkt :: s'.incoming ∧ s' = { s with incoming := s'.incoming } := by
  rcases s with ⟨_ | ⟨p, rest⟩, e, sent, se⟩ <;> simp only [recv, Prod.mk.injEq] at h
  · cases h.1
  · obtain ⟨⟨⟩, rfl⟩ := h
    exact ⟨rfl, rfl⟩

theorem recv_eq_error {s s' : RpcStream} {e : String} (h : s.recv = (.error e, s')) :
    s.incoming = [] ∧ s' = s := by
  rcases s with ⟨_ | ⟨p, rest⟩, e, sent, se⟩ <;> simp only [recv, Prod.mk.injEq] at h
  · exact ⟨rfl, h.2.symm⟩
  · cases h.1

theorem recv_of_nil {s : RpcStream} (h : s.incoming = []) :
    s.recv = (.error s.recvErr, { s with incoming := [] }) := by
  obtain ⟨_, _, _, _⟩ := s
  subst h
  rfl

theorem recv_of_cons {s : RpcStream} {pkt : RpcStreamPacket} {rest : List RpcStreamPacket}
    (h : s.incoming = pkt :: rest) : s.recv = (.ok pkt, { s with incoming := rest }) := by
  simp [recv, h]

@[simp] theorem send_of_sendErr_none {s : RpcStream} (h : s.sendErr = none) (pkt : RpcStreamPacket) :
    s.send pkt = (none, { s with sent := s.sent ++ [pkt] }) := by
  simp [send, h]

end RpcStream

/-- `RpcStreamReadWriter`: the stream and the bytes received but not yet read. -/
structure RpcStreamReadWriter where
  stream : RpcStream
  buf : Bytes
  deriving DecidableEq, Repr

/-- `NewRpcStreamReadWriter(stream)`. -/
def newRpcStreamReadWriter (s : RpcStream) : RpcStreamReadWriter := ⟨s, []⟩

namespace RpcStreamReadWriter

/-- `r.Write(p)`: all of a non-empty `p` goes out as one `Data` packet. -/
def write (r : RpcStreamReadWriter) (p : Bytes) : (Nat × Option String) × RpcStreamReadWriter :=
  if p.length = 0 then ((0, none), r)
  else match r.stream.send ⟨some (.data p)⟩ with
    | (some err, s) => ((0, some err), { r with stream := s })
    | (none, s) => ((p.length, none), { r with stream := s })

/-- The `for` loop of `r.Read(p)`, with `room = len(readBuf)` and `out` the bytes copied to
`p` so far: the bytes copied, the error, and the read-writer after. -/
def readLoop (room : Nat) (out : Bytes) (r : RpcStreamReadWriter) :
    Bytes × Option String × RpcStreamReadWriter :=
  if room = 0 then (out, none, r)
  else if r.buf.length ≠ 0 then
    -- `r.buf.Read(readBuf)` copies `min(len(readBuf), r.buf.Len())` bytes, with a nil error
    readLoop (room - min room r.buf.length) (out ++ r.buf.take room)
      { r with buf := r.buf.drop room }
  else if out.length ≠ 0 then (out, none, r)
  else match h : r.stream.recv with
    | (.error e, s) => (out, some e, { r with stream := s })
    | (.ok pkt, s) =>
      if pkt.getAckError ≠ "" then (out, some pkt.getAckError, { r with stream := s })
      else if pkt.getData.length = 0 then readLoop room out { r with stream := s }
      else if pkt.getData.length > room then
        -- `readBuf` is filled; the rest of the data goes to `r.buf`
        readLoop 0 (out ++ pkt.getData.take room)
          { stream := s, buf := r.buf ++ pkt.getData.drop room }
      else readLoop (room - pkt.getData.length) (out ++ pkt.getData) { r with stream := s }
termination_by r.stream.incoming.length + room
decreasing_by
  all_goals simp_wf
  · omega
  all_goals (simp [(RpcStream.recv_eq_ok h).1]; try omega)

/-- `r.Read(p)` for a `p` of length `len`. -/
def read (r : RpcStreamReadWriter) (len : Nat) : Bytes × Option String × RpcStreamReadWriter :=
  readLoop len [] r

/-! The equations of `readLoop`, one for each way through the loop body, with the hypotheses
in the form `readLoop.induct` gives them. -/

theorem readLoop_zero (out : Bytes) (r : RpcStreamReadWriter) : readLoop 0 out r = (out, none, r) := by
  rw [readLoop, if_pos rfl]

variable {room : Nat} {out : Bytes} {r : RpcStreamReadWriter} {pkt : RpcStreamPacket} {s : RpcStream}

theorem readLoop_buffered (h0 : ¬room = 0) (hb : r.buf.length ≠ 0) :
    readLoop room out r =
      readLoop (room - min room r.buf.length) (out ++ r.buf.take room) { r with buf := r.buf.drop room } := by
  rw [readLoop, if_neg h0, if_pos hb]

theorem readLoop_copied (h0 : ¬room = 0) (hb : ¬r.buf.length ≠ 0) (hn : out.length ≠ 0) :
    readLoop room out r = (out, none, r) := by
  rw [readLoop, if_neg h0, if_neg hb, if_pos hn]

theorem readLoop_of_recv_error {e : String} (h0 : ¬room = 0) (hb : ¬r.buf.length ≠ 0)
    (hn : ¬out.length ≠ 0) (hr : r.stream.recv = (.error e, s)) :
    readLoop room out r = (out, some e, { r with stream := s }) := by
  rw [readLoop, if_neg h0, if_neg hb, if_neg hn]
  split <;> rename_i heq <;> obtain ⟨⟩ := hr.symm.trans heq
  rfl

theorem readLoop_of_recv_ok (h0 : ¬room = 0) (hb : ¬r.buf.length ≠ 0) (hn : ¬out.length ≠ 0)
    (hr : r.stream.recv = (.ok pkt, s)) :
    readLoop room out r =
      if pkt.getAckError ≠ "" then (out, some pkt.getAckError, { r with stream := s })
      else if pkt.getData.length = 0 then readLoop room out { r with stream := s }
      else if pkt.getData.length > room then
        readLoop 0 (out ++ pkt.getData.take room)
          { stream := s, buf := r.buf ++ pkt.getData.drop room }
      else readLoop (room - pkt.getData.length) (out ++ pkt.getData) { r with stream := s } := by
  rw [readLoop, if_neg h0, if_neg hb, if_neg hn]
  split <;> rename_i heq <;> obtain ⟨⟩ := hr.symm.trans heq
  rfl

theorem readLoop_of_recv_ack (h0 : ¬room = 0) (hb : ¬r.buf.length ≠ 0) (hn : ¬out.length ≠ 0)
    (hr : r.stream.recv = (.ok pkt, s)) (ha : pkt.getAckError ≠ "") :
    readLoop room out r = (out, some pkt.getAckError, { r with stream := s }) := by
  rw [readLoop_of_recv_ok h0 hb hn hr, if_pos ha]

theorem readLoop_of_recv_empty (h0 : ¬room = 0) (hb : ¬r.buf.length ≠ 0) (hn : ¬out.length ≠ 0)
    (hr : r.stream.recv = (.ok pkt, s)) (ha : ¬pkt.getAckError ≠ "") (hd : pkt.getData.length = 0) :
    readLoop room out r = readLoop room out { r with stream := s } := by
  rw [readLoop_of_recv_ok h0 hb hn hr, if_neg ha, if_pos hd]

theorem readLoop_of_recv_long (h0 : ¬room = 0) (hb : ¬r.buf.length ≠ 0) (hn : ¬out.length ≠ 0)
    (hr : r.stream.recv = (.ok pkt, s)) (ha : ¬pkt.getAckError ≠ "") (hd : ¬pkt.getData.length = 0)
    (hlt : pkt.getData.length > room) :
    readLoop room out r =
      readLoop 0 (out ++ pkt.getData.take room) { stream := s, buf := r.buf ++ pkt.getData.drop room } := by
  rw [readLoop_of_recv_ok h0 hb hn hr, if_neg ha, if_neg hd, if_pos hlt]

theorem readLoop_of_recv_fits (h0 : ¬room = 0) (hb : ¬r.buf.length ≠ 0) (hn : ¬out.length ≠ 0)
    (hr : r.stream.recv = (.ok pkt, s)) (ha : ¬pkt.getAckError ≠ "") (hd : ¬pkt.getData.length = 0)
    (hle : ¬pkt.getData.length > room) :
    readLoop room out r =
      readLoop (room - pkt.getData.length) (out ++ pkt.getData) { r with stream := s } := by
  rw [readLoop_of_recv_ok h0 hb hn hr, if_neg ha, if_neg hd, if_neg hle]

/-- `Read` once for each length in `lens`: the bytes the calls returned, concatenated, and the
read-writer after them. -/
def readAll : List Nat → RpcStreamReadWriter → Bytes × RpcStreamReadWriter
  | [], r => ([], r)
  | len :: lens, r =>
    ((r.read len).1 ++ (readAll lens (r.read len).2.2).1, (readAll lens (r.read len).2.2).2)

/-- `Write` once for each of `ws`, in order. -/
def writeAll : List Bytes → RpcStreamReadWriter → RpcStreamReadWriter
  | [], w => w
  | p :: ps, w => writeAll ps (w.write p).2

/-- The packets that `Write` with each of `ws` sends on `w`'s stream. -/
def sentByWrites (ws : List Bytes) (w : RpcStreamReadWriter) : List RpcStreamPacket :=
  (writeAll ws w).stream.sent.drop w.stream.sent.length

end RpcStreamReadWriter

/-! ### The bytes a packet sequence carries -/

/-- The data of `pkts`, concatenated. -/
def dataOf (pkts : List RpcStreamPacket) : Bytes := (pkts.map RpcStreamPacket.getData).flatten

@[simp] theorem dataOf_nil : dataOf [] = [] := rfl

@[simp] theorem dataOf_cons (p : RpcStreamPacket) (ps : List RpcStreamPacket) :
    dataOf (p :: ps) = p.getData ++ dataOf ps := rfl

@[simp] theorem dataOf_append (ps qs : List RpcStreamPacket) :
    dataOf (ps ++ qs) = dataOf ps ++ dataOf qs := by
  simp [dataOf]

/-- No packet of `pkts` is an `Ack` carrying an error. -/
def NoAckError (pkts : List RpcStreamPacket) : Prop := ∀ p ∈ pkts, p.getAckError = ""

theorem NoAckError.of_suffix {ps qs : List RpcStreamPacket} (h : NoAckError qs) (hs : ps <:+ qs) :
    NoAckError ps := fun p hp => h p (hs.subset hp)

/-- `pkts` is `sent` with filler packets inserted anywhere. -/
inductive WithFillers : List RpcStreamPacket → List RpcStreamPacket → Prop
  | nil : WithFillers [] []
  | sent {p ps qs} : WithFillers ps qs → WithFillers (p :: ps) (p :: qs)
  | filler {p ps qs} : p.IsFiller → WithFillers ps qs → WithFillers ps (p :: qs)

theorem WithFillers.dataOf_eq {ps qs : List RpcStreamPacket} (h : WithFillers ps qs) :
    dataOf qs = dataOf ps := by
  induction h with
  | nil => rfl
  | sent _ ih => simp [ih]
  | filler hf _ ih => simp [ih, hf.2]

theorem WithFillers.noAckError {ps qs : List RpcStreamPacket} (h : WithFillers ps qs)
    (hp : NoAckError ps) : NoAckError qs := by
  induction h with
  | nil => exact hp
  | sent _ ih =>
    intro q hq
    rcases List.mem_cons.1 hq with rfl | hq
    · exact hp q (.head _)
    · exact ih (fun p h => hp p (.tail _ h)) q hq
  | filler hf _ ih =>
    intro q hq
    rcases List.mem_cons.1 hq with rfl | hq
    · exact hf.1
    · exact ih hp q hq

/-- The `Data` packets that `Write` sends for `ws`: one for each non-empty slice. -/
def dataPackets (ws : List Bytes) : List RpcStreamPacket :=
  ws.filterMap fun p => if p.length = 0 then none else some ⟨some (.data p)⟩

theorem dataOf_dataPackets (ws : List Bytes) : dataOf (dataPackets ws) = ws.flatten := by
  induction ws with
  | nil => rfl
  | cons p ps ih =>
    by_cases hp : p = []
    · simpa [dataPackets, hp] using ih
    · simpa [dataPackets, hp, RpcStreamPacket.getData] using ih

theorem noAckError_dataPackets (ws : List Bytes) : NoAckError (dataPackets ws) := by
  intro q hq
  obtain ⟨p, -, hp⟩ := List.mem_filterMap.1 hq
  split at hp
  · cases hp
  · cases hp; rfl

namespace RpcStreamReadWriter

/-- The bytes buffered or still in flight to this end. -/
def pending (r : RpcStreamReadWriter) : Bytes := r.buf ++ dataOf r.stream.incoming

theorem write_of_sendErr_none {w : RpcStreamReadWriter} (h : w.stream.sendErr = none) (p : Bytes) :
    (w.write p).2 = if p.length = 0 then w
      else { w with stream := { w.stream with sent := w.stream.sent ++ [⟨some (.data p)⟩] } } := by
  by_cases hp : p.length = 0 <;> simp [write, hp, h]

theorem writeAll_sent {w : RpcStreamReadWriter} (h : w.stream.sendErr = none) (ws : List Bytes) :
    (writeAll ws w).stream.sent = w.stream.sent ++ dataPackets ws := by
  induction ws generalizing w with
  | nil => simp [writeAll, dataPackets]
  | cons p ps ih =>
    rw [writeAll, ih (by rw [write_of_sendErr_none h]; split <;> exact h), write_of_sendErr_none h]
    by_cases hp : p = [] <;> simp [hp, dataPackets]

theorem sentByWrites_eq {w : RpcStreamReadWriter} (h : w.stream.sendErr = none) (ws : List Bytes) :
    sentByWrites ws w = dataPackets ws := by
  simp [sentByWrites, writeAll_sent h]

theorem readLoop_conserves {room : Nat} {out : Bytes} {r : RpcStreamReadWriter}
    (h : NoAckError r.stream.incoming) :
    (readLoop room out r).1 ++ (readLoop room out r).2.2.pending = out ++ r.pending := by
  induction room, out, r using readLoop.induct with
  | case1 out r => rw [readLoop_zero]
  | case2 room out r h0 hb ih =>
    rw [readLoop_buffered h0 hb, ih h]
    simp only [pending, List.append_assoc]
    rw [← List.append_assoc (r.buf.take room), List.take_append_drop]
  | case3 room out r h0 hb hn => rw [readLoop_copied h0 hb hn]
  | case4 room out r h0 hb hn e s hr =>
    rw [readLoop_of_recv_error h0 hb hn hr, (RpcStream.recv_eq_error hr).2]
  | case5 room out r h0 hb hn pkt s hr ha =>
    exact absurd (h pkt (by simp [(RpcStream.recv_eq_ok hr).1])) ha
  | case6 room out r h0 hb hn pkt s hr ha hd ih =>
    have hs := (RpcStream.recv_eq_ok hr).1
    rw [readLoop_of_recv_empty h0 hb hn hr ha hd, ih (h.of_suffix (by simp [hs]))]
    simp [pending, hs, List.length_eq_zero.1 hd]
  | case7 room out r h0 hb hn pkt s hr ha hd hlt ih =>
    have hs := (RpcStream.recv_eq_ok hr).1
    rw [readLoop_of_recv_long h0 hb hn hr ha hd hlt, ih (h.of_suffix (by simp [hs]))]
    simp only [pending, hs, List.length_eq_zero.1 (not_not.1 hb), dataOf_cons, List.nil_append,
      List.append_assoc]
    rw [← List.append_assoc (pkt.getData.take room), List.take_append_drop]
  | case8 room out r h0 hb hn pkt s hr ha hd hle ih =>
    have hs := (RpcStream.recv_eq_ok hr).1
    rw [readLoop_of_recv_fits h0 hb hn hr ha hd hle, ih (h.of_suffix (by simp [hs]))]
    simp [pending, hs, List.length_eq_zero.1 (not_not.1 hb)]

/-- `Read` only takes packets from the front of what `Recv` has left. -/
theorem readLoop_incoming_suffix (room : Nat) (out : Bytes) (r : RpcStreamReadWriter) :
    (readLoop room out r).2.2.stream.incoming <:+ r.stream.incoming := by
  induction room, out, r using readLoop.induct with
  | case1 out r => simp only [readLoop_zero, List.suffix_refl]
  | case2 room out r h0 hb ih => rwa [readLoop_buffered h0 hb]
  | case3 room out r h0 hb hn => simp only [readLoop_copied h0 hb hn, List.suffix_refl]
  | case4 room out r h0 hb hn e s hr =>
    simp only [readLoop_of_recv_error h0 hb hn hr, (RpcStream.recv_eq_error hr).2, List.suffix_refl]
  | case5 room out r h0 hb hn pkt s hr ha =>
    rw [readLoop_of_recv_ack h0 hb hn hr ha, (RpcStream.recv_eq_ok hr).1]
    exact List.suffix_cons _ _
  | case6 room out r h0 hb hn pkt s hr ha hd ih =>
    rw [readLoop_of_recv_empty h0 hb hn hr ha hd, (RpcStream.recv_eq_ok hr).1]
    exact ih.trans (List.suffix_cons _ _)
  | case7 room out r h0 hb hn pkt s hr ha hd hlt ih =>
    rw [readLoop_of_recv_long h0 hb hn hr ha hd hlt, (RpcStream.recv_eq_ok hr).1]
    exact ih.trans (List.suffix_cons _ _)
  | case8 room out r h0 hb hn pkt s hr ha hd hle ih =>
    rw [readLoop_of_recv_fits h0 hb hn hr ha hd hle, (RpcStream.recv_eq_ok hr).1]
    exact ih.trans (List.suffix_cons _ _)

/-- Without error acks, `Read` fails only when it has copied nothing and the buffer and the
stream are both exhausted. -/
theorem readLoop_error {room : Nat} {out : Bytes} {r : RpcStreamReadWriter}
    (h : NoAckError r.stream.incoming) (he : (readLoop room out r).2.1.isSome) :
    (readLoop room out r).1 = [] ∧ (readLoop room out r).2.2.pending = [] := by
  induction room, out, r using readLoop.induct with
  | case1 out r => simp [readLoop_zero] at he
  | case2 room out r h0 hb ih => rw [readLoop_buffered h0 hb] at he ⊢; exact ih h he
  | case3 room out r h0 hb hn => simp [readLoop_copied h0 hb hn] at he
  | case4 room out r h0 hb hn e s hr =>
    obtain ⟨hi, rfl⟩ := RpcStream.recv_eq_error hr
    rw [readLoop_of_recv_error h0 hb hn hr]
    simp_all [pending]
  | case5 room out r h0 hb hn pkt s hr ha =>
    exact absurd (h pkt (by simp [(RpcStream.recv_eq_ok hr).1])) ha
  | case6 room out r h0 hb hn pkt s hr ha hd ih =>
    have hs := (RpcStream.recv_eq_ok hr).1
    rw [readLoop_of_recv_empty h0 hb hn hr ha hd] at he ⊢
    exact ih (h.of_suffix (by simp [hs])) he
  | case7 room out r h0 hb hn pkt s hr ha hd hlt ih =>
    simp [readLoop_of_recv_long h0 hb hn hr ha hd hlt, readLoop_zero] at he
  | case8 room out r h0 hb hn pkt s hr ha hd hle ih =>
    have hs := (RpcStream.recv_eq_ok hr).1
    rw [readLoop_of_recv_fits h0 hb hn hr ha hd hle] at he ⊢
    exact ih (h.of_suffix (by simp [hs])) he

/-- The run lemma: over any sequence of reads, the bytes returned and the bytes still pending
make up what was pending at the start. -/
theorem readAll_conserves (lens : List Nat) {r : RpcStreamReadWriter}
    (h : NoAckError r.stream.incoming) :
    (readAll lens r).1 ++ (readAll lens r).2.pending = r.pending ∧
      NoAckError (readAll lens r).2.stream.incoming := by
  induction lens generalizing r with
  | nil => exact ⟨rfl, h⟩
  | cons len lens ih =>
    have hr := @readLoop_conserves len [] r h
    obtain ⟨ih1, ih2⟩ := ih (h.of_suffix (readLoop_incoming_suffix len [] r))
    refine ⟨?_, ih2⟩
    simp only [readAll, read, List.append_assoc, ih1]
    simpa using hr

/-- The tunnel is transparent to bytes. Whatever slices `ws` are written on one end, whatever
filler packets reach the other end among their `Data` packets, and whatever lengths the reads
there ask for, after every read the bytes read so far, the buffer and the data still in
flight make up exactly the bytes written. So the bytes read are a prefix of them, and all of
them once a read fails because `Recv` has nothing left. -/
theorem read_delivers_written (ws : List Bytes) (w : RpcStreamReadWriter) (s : RpcStream)
    (hw : w.stream.sendErr = none) (hs : WithFillers (sentByWrites ws w) s.incoming)
    (lens : List Nat) :
    let run := readAll lens (newRpcStreamReadWriter s)
    run.1 ++ run.2.buf ++ dataOf run.2.stream.incoming = ws.flatten ∧ run.1 <+: ws.flatten ∧
      ∀ len, (run.2.read len).2.1.isSome → run.1 = ws.flatten := by
  dsimp only
  have hsent := sentByWrites_eq hw ws
  have h0 : NoAckError s.incoming := hs.noAckError (hsent ▸ noAckError_dataPackets ws)
  have hp : (newRpcStreamReadWriter s).pending = ws.flatten := by
    simp [pending, newRpcStreamReadWriter, hs.dataOf_eq, hsent, dataOf_dataPackets]
  obtain ⟨hc, hn⟩ := @readAll_conserves lens (newRpcStreamReadWriter s) h0
  rw [hp] at hc
  refine ⟨by rw [← hc, pending, List.append_assoc], ⟨_, hc⟩, fun len he => ?_⟩
  obtain ⟨hout, hpend⟩ := readLoop_error hn he
  have hrest := @readLoop_conserves len [] _ hn
  rw [hout, hpend, List.nil_append, List.nil_append] at hrest
  rw [← hc, ← hrest, List.append_nil]

end RpcStreamReadWriter

/-- Two reads of two bytes over an `Init` and one three-byte `Data` packet. -/
theorem read_delivers_written_chunked :
    ((newRpcStreamReadWriter ⟨[], "EOF", [], none⟩).stream.sendErr = none ∧
      WithFillers (RpcStreamReadWriter.sentByWrites [[1, 2, 3]] (newRpcStreamReadWriter ⟨[], "EOF", [], none⟩))
        [⟨some (.init "echo")⟩, ⟨some (.data [1, 2, 3])⟩]) ∧
    let run := RpcStreamReadWriter.readAll [2, 2]
      (newRpcStreamReadWriter ⟨[⟨some (.init "echo")⟩, ⟨some (.data [1, 2, 3])⟩], "EOF", [], none⟩)
    run.1 ++ run.2.buf ++ dataOf run.2.stream.incoming = [[1, 2, 3]].flatten ∧
      run.1 <+: [[1, 2, 3]].flatten ∧
      ∀ len, (run.2.read len).2.1.isSome → run.1 = [[1, 2, 3]].flatten :=
  have hs : WithFillers (RpcStreamReadWriter.sentByWrites [[1, 2, 3]]
      (newRpcStreamReadWriter ⟨[], "EOF", [], none⟩)) [⟨some (.init "echo")⟩, ⟨some (.data [1, 2, 3])⟩] := by
    rw [RpcStreamReadWriter.sentByWrites_eq rfl]
    exact .filler ⟨rfl, rfl⟩ (.sent .nil)
  ⟨⟨rfl, hs⟩, RpcStreamReadWriter.read_delivers_written _ _ ⟨_, "EOF", [], none⟩ rfl hs [2, 2]⟩

end Starpc
