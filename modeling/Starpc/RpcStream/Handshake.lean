import Starpc.RpcStream.ReadSpec

/-!
# The tunnel handshake

`OpenRpcStream` and `HandleRpcStream`: the initiator sends `Init{componentId}`; the acceptor
looks the component up with its getter, answers `Ack{error}`, and serves the inner session if
the lookup succeeded; the initiator, waiting for the `Ack`, fails unless its error is empty.

* `GetterResult`, `RpcStream.handleRpcStream` and `RpcStream.openRpcStream`;
* `handshake`, the two run against each other over an in-order channel;
* `handshake_agreement`: the acceptor serves exactly when the `Init` and the `Ack` get through
  and the lookup succeeds, and the initiator opens the tunnel exactly then, or when the lookup
  fails with an error whose text is empty;
* `handshakeNoWait` and `handshakeNoWait_read`: without `waitAck` the initiator opens the
  tunnel in every case, and the acceptor's answer surfaces at its first `Read`, which fails
  with the lookup's error text, or skips an `Ack` with an empty one.

The `Ack` carries only the error's text, so an error with an empty text reaches the initiator
as a success. `rpcStream.Close()` on the initiator's error paths, and the release function the
getter returns, are left out: nothing here reads them.
-/

namespace Starpc

/-- What `getter(ctx, componentID)` returns, as `HandleRpcStream` reads it: whether the mux is
non-nil, and the text of the error, if there is one. -/
structure GetterResult where
  mux : Bool
  err : Option String

/-- How `HandleRpcStream` goes on: it returns an error, or it serves the inner session with a
`ServerRPC` until `serverRPC.Wait` returns. -/
inductive HandleResult
  | error (text : String)
  | serve
  deriving DecidableEq, Repr

/-- The `Init` packet of a component. -/
def RpcStreamPacket.ofInit (componentID : String) : RpcStreamPacket := ⟨some (.init componentID)⟩

/-- The `Ack` packet with an error text. -/
def RpcStreamPacket.ofAck (errStr : String) : RpcStreamPacket := ⟨some (.ack errStr)⟩

namespace RpcStream

/-- The error `HandleRpcStream` answers a lookup with: the getter's, or
`no server for that component` when it returned neither a mux nor an error. -/
def lookupErr (g : GetterResult) : Option String :=
  if g.err.isNone && !g.mux then some "no server for that component" else g.err

/-- `HandleRpcStream(stream, getter)`, up to serving. -/
def handleRpcStream (s : RpcStream) (getter : String → GetterResult) : HandleResult × RpcStream :=
  match s.recv with
  | (.error err, s) => (.error err, s)
  | (.ok initPkt, s) =>
    match initPkt.body with
    | some (.init componentID) =>
      if componentID = "" then (.error "invalid init packet: empty component id", s)
      else
        let err := lookupErr (getter componentID)
        match err, s.send (.ofAck (err.getD "")) with
        | some err, (_, s) => (.error err, s)
        | none, (some sendErr, s) => (.error sendErr, s)
        | none, (none, s) => (.serve, s)
    | _ => (.error "expected init packet", s)

/-- `OpenRpcStream(ctx, rpcCaller, componentID, waitAck)`, on the stream `rpcCaller` opened. -/
def openRpcStream (s : RpcStream) (componentID : String) (waitAck : Bool) :
    Except String RpcStreamReadWriter :=
  match s.send (.ofInit componentID) with
  | (some err, _) => .error err
  | (none, s) =>
    if waitAck then
      match s.recv with
      | (.error err, _) => .error err
      | (.ok pkt, s) =>
        match pkt.body with
        | some (.ack errStr) =>
          if errStr ≠ "" then .error ("remote: " ++ errStr) else .ok (newRpcStreamReadWriter s)
        | _ => .error "expected ack packet"
    else .ok (newRpcStreamReadWriter s)

end RpcStream

/-- `OpenRpcStream` with `waitAck` against `HandleRpcStream` over an in-order channel: the
acceptor's stream receives what the initiator's `Send` put on the wire, and the initiator's
`Recv` returns what the acceptor sent. -/
def handshake (a b : RpcStream) (componentID : String) (getter : String → GetterResult) :
    Except String RpcStreamReadWriter × HandleResult :=
  let b := { b with incoming := b.incoming ++ (a.send (.ofInit componentID)).2.sent.drop a.sent.length }
  let (handled, b') := b.handleRpcStream getter
  ({ a with incoming := a.incoming ++ b'.sent.drop b.sent.length }.openRpcStream componentID true,
    handled)

/-! ### The exchange -/

section Exchange

variable {a b : RpcStream} {componentID : String} (getter : String → GetterResult)
  (ha : a.incoming = []) (hb : b.incoming = [])
include ha hb

open RpcStream in
/-- When the `Init` and the `Ack` get through. -/
theorem handshake_of_delivered (hsa : a.sendErr = none) (hc : componentID ≠ "")
    (hsb : b.sendErr = none) :
    handshake a b componentID getter =
      (let errStr := (lookupErr (getter componentID)).getD ""
        if errStr ≠ "" then .error ("remote: " ++ errStr) else
          .ok (newRpcStreamReadWriter { a with incoming := [], sent := a.sent ++ [.ofInit componentID] }),
        (lookupErr (getter componentID)).elim .serve .error) := by
  cases h : lookupErr (getter componentID) <;>
    simp [handshake, handleRpcStream, send, recv, ha, hb, hsa, hsb, hc, h, RpcStreamPacket.ofInit,
      openRpcStream, RpcStreamPacket.ofAck]

open RpcStream in
/-- When the `Init` or the `Ack` does not get through, neither side goes on. -/
theorem handshake_of_undelivered (h : ¬(a.sendErr = none ∧ componentID ≠ "" ∧ b.sendErr = none)) :
    (∃ e, (handshake a b componentID getter).1 = .error e) ∧
      (handshake a b componentID getter).2 ≠ .serve := by
  rcases hsa : a.sendErr with _ | e
  · by_cases hc : componentID = ""
    · simp [handshake, handleRpcStream, send, recv, ha, hb, hsa, hc, RpcStreamPacket.ofInit,
        openRpcStream]
    · obtain ⟨se, hsb⟩ := Option.ne_none_iff_exists'.mp (by simpa [hsa, hc] using h)
      cases h' : lookupErr (getter componentID) <;>
        simp [handshake, handleRpcStream, send, recv, ha, hb, hsa, hsb, hc, h',
          RpcStreamPacket.ofInit, openRpcStream]
  · simp [handshake, handleRpcStream, send, recv, ha, hb, hsa, openRpcStream]

end Exchange

/-- The acceptor serves exactly when both packets get through and the lookup succeeds; the
initiator opens the tunnel exactly then, or when the lookup fails with an empty error text. -/
theorem handshake_agreement (a b : RpcStream) (componentID : String)
    (getter : String → GetterResult) (ha : a.incoming = []) (hb : b.incoming = []) :
    let r := handshake a b componentID getter
    let g := getter componentID
    (r.2 = .serve ↔
        a.sendErr = none ∧ componentID ≠ "" ∧ g.err = none ∧ g.mux = true ∧ b.sendErr = none) ∧
      (r.1.isOk ↔ r.2 = .serve ∨
        a.sendErr = none ∧ componentID ≠ "" ∧ g.err = some "" ∧ b.sendErr = none) ∧
      (a.sendErr = none → componentID ≠ "" → b.sendErr = none →
        ∀ e, g.err = some e → e ≠ "" → r.1 = .error ("remote: " ++ e)) := by
  intro r g
  by_cases hd : a.sendErr = none ∧ componentID ≠ "" ∧ b.sendErr = none
  · obtain ⟨hsa, hc, hsb⟩ := hd
    simp only [r, g, handshake_of_delivered getter ha hb hsa hc hsb]
    generalize getter componentID = g
    rcases g with ⟨_ | _, _ | e⟩ <;> (try by_cases he : e = "") <;>
      simp [RpcStream.lookupErr, hsa, hsb, hc, Except.isOk, Except.toBool, *]
  · obtain ⟨⟨e, he⟩, hs⟩ := handshake_of_undelivered getter ha hb hd
    simp only [r, he, hs, Except.isOk, Except.toBool, false_iff, false_or, Bool.false_eq_true]
    exact ⟨fun ⟨h1, h2, _, _, h5⟩ => hd ⟨h1, h2, h5⟩, fun ⟨h1, h2, _, h4⟩ => hd ⟨h1, h2, h4⟩,
      fun h1 h2 h3 => absurd ⟨h1, h2, h3⟩ hd⟩

/-- A component that serves, on fresh streams that do not fail. -/
theorem handshake_agreement_echo :
    let s : RpcStream := ⟨[], "EOF", [], none⟩
    let r := handshake s s "echo" fun _ => ⟨true, none⟩
    let g : GetterResult := ⟨true, none⟩
    (r.2 = .serve ↔ s.sendErr = none ∧ "echo" ≠ "" ∧ g.err = none ∧ g.mux = true ∧ s.sendErr = none) ∧
      (r.1.isOk ↔ r.2 = .serve ∨ s.sendErr = none ∧ "echo" ≠ "" ∧ g.err = some "" ∧ s.sendErr = none) ∧
      (s.sendErr = none → "echo" ≠ "" → s.sendErr = none →
        ∀ e, g.err = some e → e ≠ "" → r.1 = .error ("remote: " ++ e)) :=
  handshake_agreement _ _ "echo" (fun _ => ⟨true, none⟩) rfl rfl

/-- A lookup that fails with an empty error text: the initiator opens a tunnel nobody serves. -/
theorem handshake_empty_error :
    let s : RpcStream := ⟨[], "EOF", [], none⟩
    (handshake s s "echo" fun _ => ⟨true, some ""⟩).1.isOk = true ∧
      (handshake s s "echo" fun _ => ⟨true, some ""⟩).2 = .error "" :=
  ⟨rfl, rfl⟩

/-! ### Without waiting for the `Ack` -/

/-- `OpenRpcStream` without `waitAck` against `HandleRpcStream`: the initiator's read-writer once
the acceptor's answer has reached it, and how the acceptor goes on. -/
def handshakeNoWait (a b : RpcStream) (componentID : String) (getter : String → GetterResult) :
    Except String RpcStreamReadWriter × HandleResult :=
  let b := { b with incoming := b.incoming ++ (a.send (.ofInit componentID)).2.sent.drop a.sent.length }
  let (handled, b') := b.handleRpcStream getter
  ((a.openRpcStream componentID false).map fun rw =>
      { rw with stream := { rw.stream with incoming := rw.stream.incoming ++ b'.sent.drop b.sent.length } },
    handled)

/-- A `Read` that meets an `Ack` first: an error text fails it, and an empty one is skipped. -/
theorem read_ack_head (s : RpcStream) (e : String) (later : List RpcStreamPacket) {len : Nat}
    (h0 : 0 < len) :
    (newRpcStreamReadWriter { s with incoming := .ofAck e :: later }).read len =
      if e ≠ "" then ([], some e, newRpcStreamReadWriter { s with incoming := later })
      else (newRpcStreamReadWriter { s with incoming := later }).read len := by
  rw [RpcStreamReadWriter.read_eq_readSpec h0, RpcStreamReadWriter.read_eq_readSpec h0]
  by_cases he : e = ""
  · simp [he, RpcStreamReadWriter.readSpec, RpcStreamReadWriter.recvSpec, newRpcStreamReadWriter,
      RpcStreamPacket.ofAck, RpcStreamPacket.IsFiller, RpcStreamPacket.getAckError,
      RpcStreamPacket.getData]
  · simp [he, RpcStreamReadWriter.readSpec, RpcStreamReadWriter.recvSpec, newRpcStreamReadWriter,
      RpcStreamPacket.ofAck, RpcStreamPacket.IsFiller, RpcStreamPacket.getAckError]

section NoWait

variable {a b : RpcStream} {componentID : String} (getter : String → GetterResult)
  (ha : a.incoming = []) (hb : b.incoming = [])
include ha hb

open RpcStream in
/-- When the `Init` and the `Ack` get through, the `Ack` waits in the initiator's stream. -/
theorem handshakeNoWait_of_delivered (hsa : a.sendErr = none) (hc : componentID ≠ "")
    (hsb : b.sendErr = none) :
    handshakeNoWait a b componentID getter =
      (.ok (newRpcStreamReadWriter
          { a with sent := a.sent ++ [.ofInit componentID],
                   incoming := [.ofAck ((lookupErr (getter componentID)).getD "")] }),
        (lookupErr (getter componentID)).elim .serve .error) := by
  cases h : lookupErr (getter componentID) <;>
    simp [handshakeNoWait, handleRpcStream, send, recv, ha, hb, hsa, hsb, hc, h,
      RpcStreamPacket.ofInit, openRpcStream, RpcStreamPacket.ofAck, newRpcStreamReadWriter, Except.map]

open RpcStream in
/-- Without `waitAck` the initiator always opens the tunnel, and the acceptor's answer surfaces at
its first `Read`: it fails with the lookup's error text, or reads on as if there were no `Ack`. -/
theorem handshakeNoWait_read (hsa : a.sendErr = none) (hc : componentID ≠ "")
    (hsb : b.sendErr = none) (later : List RpcStreamPacket) {len : Nat} (hlen : 0 < len) :
    let errStr := (lookupErr (getter componentID)).getD ""
    let s : RpcStream := { a with sent := a.sent ++ [.ofInit componentID], incoming := later }
    (handshakeNoWait a b componentID getter).2 = (lookupErr (getter componentID)).elim .serve .error ∧
      ∃ rw, (handshakeNoWait a b componentID getter).1 = .ok rw ∧
        { rw with stream := { rw.stream with incoming := rw.stream.incoming ++ later } }.read len =
          if errStr ≠ "" then ([], some errStr, newRpcStreamReadWriter s)
          else (newRpcStreamReadWriter s).read len := by
  intro errStr s
  rw [handshakeNoWait_of_delivered getter ha hb hsa hc hsb]
  exact ⟨rfl, _, rfl, read_ack_head { a with sent := a.sent ++ [.ofInit componentID] } errStr later hlen⟩

end NoWait

/-- A component with no server: the initiator's first `Read` fails with the acceptor's error. -/
theorem handshakeNoWait_read_no_server :
    let s : RpcStream := ⟨[], "EOF", [], none⟩
    let getter : String → GetterResult := fun _ => ⟨false, none⟩
    let later : List RpcStreamPacket := [⟨some (.data [1])⟩]
    s.incoming = [] ∧ s.incoming = [] ∧ s.sendErr = none ∧ "echo" ≠ "" ∧ s.sendErr = none ∧ 0 < 2 ∧
      (let errStr := (RpcStream.lookupErr (getter "echo")).getD ""
       let s' : RpcStream := { s with sent := s.sent ++ [.ofInit "echo"], incoming := later }
       (handshakeNoWait s s "echo" getter).2 = (RpcStream.lookupErr (getter "echo")).elim .serve .error ∧
         ∃ rw, (handshakeNoWait s s "echo" getter).1 = .ok rw ∧
           { rw with stream := { rw.stream with incoming := rw.stream.incoming ++ later } }.read 2 =
             if errStr ≠ "" then ([], some errStr, newRpcStreamReadWriter s')
             else (newRpcStreamReadWriter s').read 2) :=
  ⟨rfl, rfl, rfl, by decide, rfl, by decide,
    handshakeNoWait_read (fun _ => ⟨false, none⟩) rfl rfl rfl (by decide) rfl _ (by decide)⟩

end Starpc
