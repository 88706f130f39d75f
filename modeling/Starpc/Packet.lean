import Mathlib.Data.List.Basic

/-!
# starpc: the packets of a call

The messages of `rpcproto.proto` as the Go server and the TypeScript `CommonRPC` read them,
and the errors the `srpc` package returns.

* `Bytes`, a Go `[]byte` or a TypeScript `Uint8Array`; the code only ever asks
  `len(data) != 0`, so a `nil` slice and an empty one are the same value here;
* `GoError`, a non-nil `error`, by the way the code builds it;
* `CallStart`, `CallData` and `Packet` with its `body` oneof (`none` when unset);
* `Packet.validate`, whose Go source is not in the repository: it is modelled from the spec.
-/

namespace Starpc

/-- A Go `[]byte` or a TypeScript `Uint8Array`. -/
abbrev Bytes := List UInt8

/-- A non-nil Go `error`, by the expression that builds it. -/
inductive GoError
  /-- `errors.New(text)` and `errors.Errorf`. -/
  | new (text : String)
  /-- `context.Canceled`. -/
  | canceled
  /-- `srpc.ErrCompleted`. -/
  | completed
  /-- `srpc.ErrUnimplemented`. -/
  | unimplemented
  /-- `errors.Wrap(srpc.ErrUnrecognizedPacket, msg)`. -/
  | unrecognizedPacket (msg : String)
  /-- An error of `Packet.Validate`. -/
  | invalid (why : String)
  deriving DecidableEq, Repr

/-- `CallStart`: the first packet of a call, with an optional first message. -/
structure CallStart where
  rpcService : String
  rpcMethod : String
  data : Bytes
  dataIsZero : Bool
  deriving DecidableEq, Repr

/-- `CallData`: one message, or the end of the sender's messages (`complete`, `error`). -/
structure CallData where
  data : Bytes
  dataIsZero : Bool
  complete : Bool
  error : String
  deriving DecidableEq, Repr

/-- The `body` oneof of `Packet`. The fields of `CallStartResp` are reserved and read by
nothing, so the variant carries none. -/
inductive Packet.Body
  | callStart (b : CallStart)
  | callData (b : CallData)
  | callCancel (b : Bool)
  | callStartResp
  deriving DecidableEq, Repr

/-- `Packet`, with `body = none` when the oneof is unset. -/
structure Packet where
  body : Option Packet.Body
  deriving DecidableEq, Repr

/-- Modelled from the spec: the Go source of `Packet.Validate` is not in the repository.
§4.1 of the spec: a packet must carry a body; unknown variants are tolerated; a `CallStart`
with empty `rpcService` and empty `rpcMethod` is invalid. -/
def Packet.validate (msg : Packet) : Option GoError :=
  match msg.body with
  | none => some (.invalid "empty packet")
  | some (.callStart b) =>
    if b.rpcService = "" ∧ b.rpcMethod = "" then some (.invalid "empty call start") else none
  | some _ => none

/-- A `CallStart` packet. -/
def Packet.ofCallStart (b : CallStart) : Packet := ⟨some (.callStart b)⟩

/-- A `CallData` packet. -/
def Packet.ofCallData (b : CallData) : Packet := ⟨some (.callData b)⟩

@[simp] theorem validate_ofCallStart (b : CallStart) :
    (Packet.ofCallStart b).validate =
      if b.rpcService = "" ∧ b.rpcMethod = "" then some (.invalid "empty call start") else none :=
  rfl

@[simp] theorem validate_ofCallData (b : CallData) : (Packet.ofCallData b).validate = none := rfl

/-- A `CallStart` that passes `Packet.validate` names a service or a method. -/
theorem service_or_method_of_validate {b : CallStart}
    (h : (Packet.ofCallStart b).validate = none) : b.rpcService ≠ "" ∨ b.rpcMethod ≠ "" := by
  by_contra hc
  simp only [not_or, not_not] at hc
  simp [hc] at h

end Starpc
