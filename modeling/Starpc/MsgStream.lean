import Starpc.Packet

/-!
# `MsgStream`

`srpc/msg-stream.go`: the stream handed to user code. It writes call data packets through a
`MsgStreamRw` and runs a close callback; the generated `SendAndClose` of a method whose server
does not stream (`generateServerMethod`) is a `MsgSend` followed by a `CloseSend`.

The stream keeps no state beyond its context and its callback: it does not remember a
`CloseSend` or a `Close`. So every `CloseSend` and every `Close` writes a terminal packet,
`MsgSend` still writes after one, and every `Close` runs the callback.

* `CallDataWrite`, one call of `WriteCallData`, and `MsgStream` with its operations;
* `Call` and `run`, any sequence of calls by user code and cancellations of the context;
  `invokeRPC`, the same on the server followed by the packet `invokeRPC` writes when the
  handler returns;
* `run_terminals_closeCbCalls`: how many terminal packets a run writes and how many times it
  runs the callback.

The read-writers behind `MsgStreamRw` are not part of the source: what `WriteCallData` returns
is a parameter of the stream. On the server the handler's stream comes from `NewRPCStream`,
which is not in the repository either; `invokeRPC` takes it to be a `MsgStream` on the RPC's
writer, so it assumes that the handler's `CloseSend` and `Close` write a terminal packet as
`MsgStream`'s do. `invokeRPC` then writes its own packet on the same writer.
-/

namespace Starpc

/-- One call `rw.WriteCallData(data, complete, err)`: the call data packet it writes. -/
structure CallDataWrite where
  data : Bytes
  complete : Bool
  err : Option GoError
  deriving DecidableEq, Repr

/-- A terminal packet: `complete = true`, or an error. -/
@[simp] def CallDataWrite.terminal (w : CallDataWrite) : Bool := w.complete || w.err.isSome

/-- The state of a `MsgStream` as its operations see it. -/
structure MsgStream where
  /-- `ctx.Done()` is closed. -/
  ctxDone : Bool
  /-- `closeCb != nil`. -/
  hasCloseCb : Bool
  /-- What `rw.WriteCallData` returns. -/
  writeErr : Option GoError
  /-- The packets written through `rw`, in order. -/
  written : List CallDataWrite
  /-- How many times `closeCb` has run. -/
  closeCbCalls : Nat

namespace MsgStream

/-- `r.rw.WriteCallData(data, complete, err)`. -/
def writeCallData (r : MsgStream) (data : Bytes) (complete : Bool) (err : Option GoError) :
    Option GoError × MsgStream :=
  (r.writeErr, { r with written := r.written ++ [⟨data, complete, err⟩] })

/-- `MsgSend(msg)`, given what `msg.MarshalVT()` returns. -/
def msgSend (r : MsgStream) (msg : Except GoError Bytes) : Option GoError × MsgStream :=
  if r.ctxDone then (some .canceled, r)
  else match msg with
    | .error err => (some err, r)
    | .ok msgData => r.writeCallData msgData false none

/-- `CloseSend()`. -/
def closeSend (r : MsgStream) : Option GoError × MsgStream := r.writeCallData [] true none

/-- `Close()`. -/
def close (r : MsgStream) : Option GoError × MsgStream :=
  let r := r.closeSend.2
  (none, if r.hasCloseCb then { r with closeCbCalls := r.closeCbCalls + 1 } else r)

/-- The generated `SendAndClose(m)`. -/
def sendAndClose (r : MsgStream) (msg : Except GoError Bytes) : Option GoError × MsgStream :=
  match r.msgSend msg with
  | (some err, r) => (some err, r)
  | (none, r) => r.closeSend

/-- What user code does with a stream, and the cancellation of its context. -/
inductive Call
  | msgSend (msg : Except GoError Bytes)
  | closeSend
  | close
  | sendAndClose (msg : Except GoError Bytes)
  | cancel

/-- `Close()`. -/
@[simp] def Call.isClose : Call → Bool
  | .close => true
  | _ => false

/-- `CloseSend()` or `Close()`: the calls that always write a terminal. -/
@[simp] def Call.closesSend : Call → Bool
  | .closeSend | .close => true
  | _ => false

/-- The calls that may write a terminal. -/
@[simp] def Call.mayCloseSend : Call → Bool
  | .closeSend | .close | .sendAndClose _ => true
  | _ => false

/-- One call, its result dropped. -/
def call (r : MsgStream) : Call → MsgStream
  | .msgSend msg => (r.msgSend msg).2
  | .closeSend => r.closeSend.2
  | .close => r.close.2
  | .sendAndClose msg => (r.sendAndClose msg).2
  | .cancel => { r with ctxDone := true }

/-- The calls `cs` in turn. -/
def run (r : MsgStream) : List Call → MsgStream
  | [] => r
  | c :: cs => (r.call c).run cs

/-- The server side, the handler's stream taken to be a `MsgStream`: its calls `cs`, then
`invokeRPC`'s `NewCallDataPacket(nil, true, err)` once the handler returns `(ok, err)`, with
`ErrUnimplemented` for a method no handler recognised. -/
def invokeRPC (r : MsgStream) (cs : List Call) (ok : Bool) (err : Option GoError) : MsgStream :=
  let err := if err.isNone && !ok then some GoError.unimplemented else err
  (((r.run cs).writeCallData [] true err).2)

/-- The number of terminal packets written. -/
def terminals (r : MsgStream) : Nat := r.written.countP CallDataWrite.terminal

/-! ### One call -/

theorem msgSend_eq (r : MsgStream) (msg : Except GoError Bytes) :
    (r.msgSend msg).2 = r ∨ ∃ d, (r.msgSend msg).2 = (r.writeCallData d false none).2 := by
  unfold msgSend
  split_ifs
  · exact .inl rfl
  · cases msg with
    | error => exact .inl rfl
    | ok d => exact .inr ⟨d, rfl⟩

theorem close_eq (r : MsgStream) : r.close.2 = if r.hasCloseCb then
    { r.closeSend.2 with closeCbCalls := r.closeCbCalls + 1 } else r.closeSend.2 := rfl

theorem sendAndClose_eq (r : MsgStream) (msg : Except GoError Bytes) :
    (r.sendAndClose msg).2 = (r.msgSend msg).2 ∨
      (r.sendAndClose msg).2 = (r.msgSend msg).2.closeSend.2 := by
  unfold sendAndClose
  rcases r.msgSend msg with ⟨_ | _, r'⟩
  · exact .inr rfl
  · exact .inl rfl

/-- What one call does: the callback runs on a `Close` only, and a call writes one terminal if
it is a `CloseSend` or a `Close`, at most one if it is a `SendAndClose`, and none otherwise. -/
theorem call_spec (r : MsgStream) (c : Call) :
    (r.call c).hasCloseCb = r.hasCloseCb ∧
      (r.call c).closeCbCalls = r.closeCbCalls + (if r.hasCloseCb && c.isClose then 1 else 0) ∧
      r.terminals + (if c.closesSend then 1 else 0) ≤ (r.call c).terminals ∧
      (r.call c).terminals ≤ r.terminals + (if c.mayCloseSend then 1 else 0) := by
  cases c with
  | msgSend msg =>
    rcases msgSend_eq r msg with h | ⟨d, h⟩ <;> simp [call, h, writeCallData, terminals]
  | sendAndClose msg =>
    rcases sendAndClose_eq r msg with h | h <;> rcases msgSend_eq r msg with h' | ⟨d, h'⟩ <;>
      simp [call, h, h', closeSend, writeCallData, terminals]
  | close =>
    cases hcb : r.hasCloseCb <;> simp [call, close_eq, hcb, closeSend, writeCallData, terminals]
  | closeSend | cancel => simp [call, closeSend, writeCallData, terminals]

/-! ### Runs -/

theorem run_closeCbCalls (r : MsgStream) (cs : List Call) :
    (r.run cs).closeCbCalls =
      r.closeCbCalls + (if r.hasCloseCb then cs.countP Call.isClose else 0) := by
  induction cs generalizing r with
  | nil => simp [run]
  | cons c cs ih =>
    obtain ⟨hcb, hcalls, -⟩ := call_spec r c
    rw [run, ih, hcb, hcalls, List.countP_cons]
    cases r.hasCloseCb with
    | false => simp
    | true => simp only [Bool.true_and, if_true]; omega

theorem run_terminals (r : MsgStream) (cs : List Call) :
    r.terminals + cs.countP Call.closesSend ≤ (r.run cs).terminals ∧
      (r.run cs).terminals ≤ r.terminals + cs.countP Call.mayCloseSend := by
  induction cs generalizing r with
  | nil => simp [run]
  | cons c cs ih =>
    have hc := (call_spec r c).2.2
    have ih := ih (r.call c)
    simp only [run, List.countP_cons]
    omega

theorem terminals_invokeRPC (r : MsgStream) (cs : List Call) (ok : Bool) (err : Option GoError) :
    (r.invokeRPC cs ok err).terminals = (r.run cs).terminals + 1 := by
  simp [invokeRPC, writeCallData, terminals]

/-- Over a run: the callback runs once per `Close`, and the terminal packets are at least one
per `CloseSend` and `Close` and at most one more per `SendAndClose`. On the server,
`invokeRPC` adds one more. -/
theorem run_terminals_closeCbCalls (r : MsgStream) (cs : List Call) :
    (r.run cs).closeCbCalls =
        r.closeCbCalls + (if r.hasCloseCb then cs.countP Call.isClose else 0) ∧
      r.terminals + cs.countP Call.closesSend ≤ (r.run cs).terminals ∧
      (r.run cs).terminals ≤ r.terminals + cs.countP Call.mayCloseSend ∧
      ∀ ok err, (r.invokeRPC cs ok err).terminals = (r.run cs).terminals + 1 :=
  ⟨run_closeCbCalls r cs, (run_terminals r cs).1, (run_terminals r cs).2,
    terminals_invokeRPC r cs⟩

/-- `Close` twice writes two terminal packets and runs the callback twice; on the server, a
handler that ends with `SendAndClose` is followed by `invokeRPC`'s own terminal. -/
theorem close_twice :
    let r : MsgStream := ⟨false, true, none, [], 0⟩
    (r.run [.close, .close]).terminals = 2 ∧ (r.run [.close, .close]).closeCbCalls = 2 ∧
      (r.invokeRPC [.sendAndClose (.ok [1])] true none).written =
        [⟨[1], false, none⟩, ⟨[], true, none⟩, ⟨[], true, none⟩] :=
  ⟨rfl, rfl, rfl⟩

end MsgStream

end Starpc
