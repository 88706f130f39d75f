import Starpc.Chan

/-!
# `ServerRPC`: the server side of one call

`srpc/server-rpc.go`. The read pump passes every packet of the byte stream to `HandlePacket`.
`HandleCallStart` records the service and method, queues the inline first message on `dataCh`
and starts `invokeRPC`, which runs the handler over a stream reading `dataCh`;
`HandleCallData` queues further messages and closes `dataCh` when the client is done.

The state keeps the fields of the Go struct that these functions use. The context is
`ctxDone`, whether it is canceled; the writer is `writerCloses`, the number of `Close` calls
it has received; and `invoked` counts the `go r.invokeRPC()` statements run, of which
`invokeReturned` have returned. The mux and the handler are not modelled: they matter here
only through what `invokeRPC` does once the handler returns.

When both cases of a `select` are ready Go picks one at random, and when neither is the call
blocks. So each handler returns the `List` of the ways the call can end, `[]` while it is
blocked. `HandleCallData` blocks only at its `select`, after which nothing it read before can
have changed, so a blocked call ends as the same call made once the goroutines it waits for
(a receive from `dataCh`, a cancel) have run: `Event` lists those as steps of their own.
-/

namespace Starpc

/-- The state of a `ServerRPC`. -/
structure ServerRPC where
  service : String
  method : String
  dataCh : Chan Bytes
  dataChClosed : Bool
  clientErr : Option GoError
  /-- `r.ctx.Done()` is closed. -/
  ctxDone : Bool
  /-- The number of `go r.invokeRPC()` statements run. -/
  invoked : Nat
  /-- The number of `invokeRPC` goroutines that have returned. -/
  invokeReturned : Nat
  /-- The number of `r.writer.Close()` calls. -/
  writerCloses : Nat

/-- How a call into a `ServerRPC` ends: it returns `err` (`none` is `nil`) and leaves the
state `r`, or Go panics. -/
inductive Outcome
  | ret (err : Option GoError) (r : ServerRPC)
  | panic

namespace ServerRPC

/-- `NewServerRPC`: `dataCh` is `make(chan []byte, 5)`. -/
def newServerRPC : ServerRPC where
  service := ""
  method := ""
  dataCh := .make 5
  dataChClosed := false
  clientErr := none
  ctxDone := false
  invoked := 0
  invokeReturned := 0
  writerCloses := 0

/-- `go r.invokeRPC()` followed by `return nil`. -/
def goInvokeRPC (r : ServerRPC) : Outcome := .ret none { r with invoked := r.invoked + 1 }

/-- `HandleCallStart`. -/
def handleCallStart (r : ServerRPC) (pkt : CallStart) : Outcome :=
  if r.method ≠ "" ∨ r.service ≠ "" then .ret (some (.new "call start must be sent only once")) r
  else if r.dataChClosed then .ret (some .completed) r
  else
    let r := { r with method := pkt.rpcMethod, service := pkt.rpcService }
    if pkt.data.length ≠ 0 then
      -- `select { case r.dataCh <- data: default: ... }`
      match r.dataCh.send pkt.data with
      | .sent ch => goInvokeRPC { r with dataCh := ch }
      | .blocked => .ret (some (.new "data channel was full, expected empty")) r
      | .panic => .panic
    else goInvokeRPC r

/-- The rest of `HandleCallData` once the data, if any, is queued: a non-empty error is recorded
and completes the call, and completion closes `dataCh`. -/
def completeCallData (r : ServerRPC) (pkt : CallData) : Outcome :=
  -- `len(err) != 0` for the string `err` is `err ≠ ""`
  let complete := pkt.complete || decide (pkt.error ≠ "")
  let r := if pkt.error ≠ "" then { r with clientErr := some (.new pkt.error) } else r
  if complete then
    match r.dataCh.close with
    | some ch => .ret none { r with dataChClosed := true, dataCh := ch }
    | none => .panic
  else .ret none r

/-- `HandleCallData`. -/
def handleCallData (r : ServerRPC) (pkt : CallData) : List Outcome :=
  if r.dataChClosed then [.ret (some .completed) r]
  else if pkt.data.length ≠ 0 then
    -- `select { case <-r.ctx.Done(): return context.Canceled; case r.dataCh <- data: }`
    (if r.ctxDone then [.ret (some .canceled) r] else []) ++
      match r.dataCh.send pkt.data with
      | .sent ch => [completeCallData { r with dataCh := ch } pkt]
      | .blocked => []
      | .panic => [.panic]
  else [completeCallData r pkt]

/-- `HandleCallStartResp`: client-side packets are not supported. -/
def handleCallStartResp (r : ServerRPC) : Outcome :=
  .ret (some (.unrecognizedPacket "call start resp packet unexpected")) r

/-- `HandlePacket`. -/
def handlePacket (r : ServerRPC) (msg : Packet) : List Outcome :=
  match msg.validate with
  | some err => [.ret (some err) r]
  | none =>
    match msg.body with
    | some (.callStart b) => [handleCallStart r b]
    | some (.callData b) => handleCallData r b
    | some .callStartResp => [handleCallStartResp r]
    | _ => [.ret none r]

/-- The end of `invokeRPC` once the handler has returned: the terminal packet goes out on the
writer (see `MsgStream`), then `r.ctxCancel()` and `r.writer.Close()`. -/
def invokeRPCReturn (r : ServerRPC) : ServerRPC :=
  { r with ctxDone := true, invokeReturned := r.invokeReturned + 1,
           writerCloses := r.writerCloses + 1 }

/-- `Close`: the writer is closed here only if `invokeRPC` was not started, which the code
reads off `r.service == ""`. -/
def close (r : ServerRPC) : ServerRPC :=
  let r := { r with ctxDone := true }
  if r.service = "" then { r with writerCloses := r.writerCloses + 1 } else r

/-- What can happen next to a `ServerRPC`. -/
inductive Event
  /-- The read pump calls `HandlePacket`. -/
  | packet (pkt : Packet)
  /-- The stream of a started `invokeRPC` receives a value from `dataCh`. -/
  | recv
  /-- `r.ctx` is canceled, by its parent or by the handler. -/
  | cancel
  /-- A started `invokeRPC` returns. -/
  | invokeReturn
  /-- `Close` is called. -/
  | close

/-- The ways an event can end. -/
def step (r : ServerRPC) : Event → List Outcome
  | .packet pkt => handlePacket r pkt
  | .recv =>
    if 0 < r.invoked then (r.dataCh.recv.map fun ch => .ret none { r with dataCh := ch }).toList
    else []
  | .cancel => [.ret none { r with ctxDone := true }]
  | .invokeReturn =>
    if r.invokeReturned < r.invoked then [.ret none (invokeRPCReturn r)] else []
  | .close => [.ret none (close r)]

/-- The states a `ServerRPC` reaches from `newServerRPC`. -/
inductive Reachable : ServerRPC → Prop
  | init : Reachable newServerRPC
  | step {r r' : ServerRPC} {e : Event} {err : Option GoError} :
      Reachable r → .ret err r' ∈ step r e → Reachable r'

/-! ### What each handler can do -/

variable {r : ServerRPC}

/-- Everything `HandleCallStart` can do: reject the packet and change nothing, or, on a call
not yet started and not completed, panic on a closed `dataCh`, fail on a full one after
recording the service and method, or record them, queue the inline data and start
`invokeRPC`. -/
theorem handleCallStart_cases (r : ServerRPC) (pkt : CallStart) :
    ((r.method ≠ "" ∨ r.service ≠ "" ∨ r.dataChClosed = true) ∧
        ∃ err, handleCallStart r pkt = .ret (some err) r) ∨
    (r.method = "" ∧ r.service = "" ∧ r.dataChClosed = false ∧
      ((r.dataCh.closed = true ∧ handleCallStart r pkt = .panic) ∨
       (handleCallStart r pkt = .ret (some (.new "data channel was full, expected empty"))
          { r with method := pkt.rpcMethod, service := pkt.rpcService }) ∨
       ∃ ch : Chan Bytes, ch.sent = r.dataCh.sent ++ (if pkt.data = [] then [] else [pkt.data]) ∧
         ch.closed = r.dataCh.closed ∧
         handleCallStart r pkt = .ret none
           { r with method := pkt.rpcMethod, service := pkt.rpcService, dataCh := ch,
                    invoked := r.invoked + 1 })) := by
  unfold handleCallStart
  by_cases h1 : r.method ≠ "" ∨ r.service ≠ ""
  · exact .inl ⟨by tauto, _, if_pos h1⟩
  rw [if_neg h1]
  push_neg at h1
  by_cases h2 : r.dataChClosed = true
  · exact .inl ⟨by tauto, _, if_pos h2⟩
  rw [if_neg h2]
  refine .inr ⟨h1.1, h1.2, by simpa using h2, ?_⟩
  by_cases hd : pkt.data = []
  · exact .inr (.inr ⟨r.dataCh, by simp [hd], rfl, by simp [hd, goInvokeRPC]⟩)
  simp only [ne_eq, List.length_eq_zero, hd, not_false_eq_true, if_true]
  split
  · rename_i ch hs
    obtain ⟨hc0, -, hsent, hc⟩ := Chan.send_eq_sent hs
    exact .inr (.inr ⟨ch, by simp [hsent, hd], by simp [hc, hc0], rfl⟩)
  · exact .inr (.inl rfl)
  · rename_i hs
    exact .inl ⟨Chan.send_eq_panic hs, rfl⟩

/-- The end of `HandleCallData` touches only `clientErr`, `dataChClosed` and whether `dataCh`
is closed, and returns `nil` whenever it returns. -/
theorem completeCallData_frame {pkt : CallData} {err : Option GoError} {r' : ServerRPC}
    (h : completeCallData r pkt = .ret err r') :
    err = none ∧ ∃ ce dc cl,
      r' = { r with clientErr := ce, dataChClosed := dc, dataCh := { r.dataCh with closed := cl } } := by
  rcases hcl : r.dataCh.closed <;> cases hc : pkt.complete <;> by_cases he : pkt.error = "" <;>
    simp [completeCallData, Chan.close, hcl, hc, he] at h <;>
    obtain ⟨rfl, rfl⟩ := h <;> exact ⟨rfl, _, _, _, rfl⟩

theorem completeCallData_of_open (pkt : CallData) (hc : pkt.complete = false) (he : pkt.error = "") :
    completeCallData r pkt = .ret none r := by
  simp [completeCallData, hc, he]

theorem completeCallData_of_complete (pkt : CallData) (hc : pkt.complete = true ∨ pkt.error ≠ "")
    (hch : r.dataCh.closed = false) :
    completeCallData r pkt = .ret none
      { r with clientErr := if pkt.error = "" then r.clientErr else some (.new pkt.error),
               dataChClosed := true, dataCh := { r.dataCh with closed := true } } := by
  by_cases he : pkt.error = ""
  · simp only [he, ne_eq, not_true_eq_false, or_false] at hc
    simp [completeCallData, hc, he, Chan.close_of_open hch]
  · simp [completeCallData, he, Chan.close_of_open hch]

theorem completeCallData_ne_panic (pkt : CallData) (hch : r.dataCh.closed = false) :
    completeCallData r pkt ≠ .panic := by
  cases hc : pkt.complete <;> by_cases he : pkt.error = "" <;>
    simp [completeCallData, hc, he, Chan.close_of_open hch]

/-- Everything `HandleCallData` can do: reject the packet after completion, or on a canceled
context, and change nothing; panic on a closed `dataCh`; or queue the data, if any, and go on
with `completeCallData`. -/
theorem mem_handleCallData {pkt : CallData} {o : Outcome} (h : o ∈ handleCallData r pkt) :
    (r.dataChClosed = true ∧ o = .ret (some .completed) r) ∨
    (r.dataChClosed = false ∧ o = .ret (some .canceled) r) ∨
    (r.dataChClosed = false ∧ r.dataCh.closed = true ∧ o = .panic) ∨
    (r.dataChClosed = false ∧ ∃ ch : Chan Bytes,
      ch.sent = r.dataCh.sent ++ (if pkt.data = [] then [] else [pkt.data]) ∧
      ch.closed = r.dataCh.closed ∧ o = completeCallData { r with dataCh := ch } pkt) := by
  unfold handleCallData at h
  by_cases h1 : r.dataChClosed = true
  · rw [if_pos h1, List.mem_singleton] at h
    exact .inl ⟨h1, h⟩
  rw [if_neg h1] at h
  replace h1 : r.dataChClosed = false := by simpa using h1
  by_cases hd : pkt.data = []
  · rw [if_neg (by simp [hd]), List.mem_singleton] at h
    exact .inr (.inr (.inr ⟨h1, r.dataCh, by simp [hd], rfl, h⟩))
  rw [if_pos (by simpa using hd), List.mem_append] at h
  rcases h with h | h
  · split at h
    · exact .inr (.inl ⟨h1, List.mem_singleton.1 h⟩)
    · cases h
  · split at h
    · rename_i ch hs
      obtain ⟨hc0, -, hsent, hc⟩ := Chan.send_eq_sent hs
      exact .inr (.inr (.inr ⟨h1, ch, by simp [hsent, hd], by simp [hc, hc0],
        List.mem_singleton.1 h⟩))
    · cases h
    · rename_i hs
      exact .inr (.inr (.inl ⟨h1, Chan.send_eq_panic hs, List.mem_singleton.1 h⟩))

theorem close_eq (r : ServerRPC) :
    close r = { r with ctxDone := true,
                       writerCloses := r.writerCloses + if r.service = "" then 1 else 0 } := by
  unfold close; dsimp only; split_ifs <;> rfl

@[simp] theorem handlePacket_ofCallData (b : CallData) :
    handlePacket r (.ofCallData b) = handleCallData r b := rfl

theorem handlePacket_ofCallStart (b : CallStart) :
    handlePacket r (.ofCallStart b) =
      if b.rpcService = "" ∧ b.rpcMethod = "" then [.ret (some (.invalid "empty call start")) r]
      else [handleCallStart r b] := by
  unfold handlePacket
  rw [validate_ofCallStart]
  split_ifs <;> rfl

/-- Everything `HandlePacket` can do: return leaving the state as it is (a packet that fails
validation, a `CallStartResp`, a `CallCancel`), or hand a valid `CallStart` or a `CallData` to
its handler. -/
theorem mem_handlePacket {msg : Packet} {o : Outcome} (h : o ∈ handlePacket r msg) :
    (∃ err, o = .ret err r) ∨
    (∃ b, msg = .ofCallStart b ∧ (b.rpcService ≠ "" ∨ b.rpcMethod ≠ "") ∧ o = handleCallStart r b) ∨
    (∃ b, msg = .ofCallData b ∧ o ∈ handleCallData r b) := by
  rcases msg with ⟨_ | ⟨b⟩ | ⟨b⟩ | ⟨b⟩ | _⟩ <;>
    simp only [handlePacket, Packet.validate, List.mem_singleton] at h
  · exact .inl ⟨_, h⟩
  · split_ifs at h with hb
    · exact .inl ⟨_, List.mem_singleton.1 h⟩
    · exact .inr (.inl ⟨b, rfl, by tauto, List.mem_singleton.1 h⟩)
  · exact .inr (.inr ⟨b, rfl, h⟩)
  · exact .inl ⟨_, h⟩
  · exact .inl ⟨_, h⟩

/-- The events other than a packet never panic, and touch neither the call's name, nor
`dataChClosed`, `clientErr` and `invoked`, nor what has been sent on `dataCh` and whether it is
closed. -/
theorem step_frame {e : Event} {o : Outcome} (he : ∀ pkt, e ≠ .packet pkt) (ho : o ∈ step r e) :
    ∃ err r', o = .ret err r' ∧ r'.service = r.service ∧ r'.method = r.method ∧
      r'.dataChClosed = r.dataChClosed ∧ r'.clientErr = r.clientErr ∧ r'.invoked = r.invoked ∧
      r'.dataCh.sent = r.dataCh.sent ∧ r'.dataCh.closed = r.dataCh.closed := by
  cases e with
  | packet pkt => exact absurd rfl (he pkt)
  | recv =>
    simp only [step] at ho
    split_ifs at ho
    · cases hrc : r.dataCh.recv with
      | none => simp [hrc] at ho
      | some ch =>
        simp only [hrc, Option.map_some', Option.toList_some, List.mem_singleton] at ho
        exact ⟨_, _, ho, rfl, rfl, rfl, rfl, rfl, Chan.recv_eq_some hrc⟩
    · cases ho
  | cancel =>
    simp only [step, List.mem_singleton] at ho
    exact ⟨_, _, ho, rfl, rfl, rfl, rfl, rfl, rfl, rfl⟩
  | invokeReturn =>
    simp only [step] at ho
    split_ifs at ho
    · exact ⟨_, _, List.mem_singleton.1 ho, rfl, rfl, rfl, rfl, rfl, rfl, rfl⟩
    · cases ho
  | close =>
    simp only [step, List.mem_singleton] at ho
    exact ⟨_, _, ho, by simp [close_eq]⟩

end ServerRPC

end Starpc
