import Starpc.Packet
import Starpc.Pushable

/-!
# The TypeScript `CommonRPC`

`srpc/common-rpc.ts`: the logic the TypeScript client and server share. Outgoing packets are
pushed on `source`; incoming packets go through `handlePacket`, and the messages they carry are
pushed on `rpcDataSource` for the caller, both `Pushable` queues.

* `writeCallData`, which sets `dataIsZero` for a present but empty message, and the reader side
  `pushRpcData`, `handleCallData`, `handlePacket`, with `close` on a thrown error;
* `rpcDataSource_round_trip`: whatever mix of absent, empty and non-empty payloads one side
  writes, the other side's `rpcDataSource` yields exactly the present ones, in order, and ends
  without error;
* `handlePacket_eq`, what `handlePacket` does to any packet, said once (`throws`, `thrownBy`,
  `packetWrites`); `received`, the messages of a packet sequence and how it ends the call; and
  `sinkWrites`, the sink's writes on `rpcDataSource`, which push `received`'s messages and end
  the queue as it says (`sinkWrites_eq`);
* `sink_spec`: over any incoming packets, whatever the pace of the caller reading
  `rpcDataSource`, it gets exactly what `Readable` allows: all the messages after a clean end,
  only those it had pulled before an error end; the call is cancelled, once, exactly when
  some packet throws;
* `writeCallDataFromSource_sink`: a writer whose data source throws is seen by the reader
  exactly as one whose source ended: the payloads, then a clean end.

A packet decoded from the wire carries every `CallData` field, with its protobuf default when
absent, and `pushRpcData` reads an `undefined` payload exactly as an empty one, so the model's
packets carry plain `Bytes`. `close` is `async` and not awaited by `handlePacket`; the model
runs it to completion at once, before the sink goes on.
-/

namespace Starpc

/-- The state of a `CommonRPC`. -/
structure CommonRPC where
  service : Option String
  method : Option String
  /-- The outgoing packets. -/
  source : Pushable Packet
  /-- The incoming messages, for the caller. -/
  rpcDataSource : Pushable Bytes

namespace CommonRPC

/-- `writePacket(packet)`. -/
def writePacket (c : CommonRPC) (pkt : Packet) : CommonRPC :=
  { c with source := c.source.push pkt }

/-- The `CallData` that `writeCallData(data, complete, error)` builds, `none` for an argument
left `undefined`. A `Uint8Array` is truthy even when empty, so `data || new Uint8Array(0)` keeps
any present array. -/
def callDataOf (data : Option Bytes) (complete : Option Bool) (error : Option String) : CallData where
  data := data.getD []
  dataIsZero := match data with
    | some d => d.length = 0
    | none => false
  complete := complete.getD false
  error := error.getD ""

@[simp] theorem callDataOf_complete (d : Option Bytes) (cm : Option Bool) (e : Option String) :
    (callDataOf d cm e).complete = cm.getD false := rfl

@[simp] theorem callDataOf_error (d : Option Bytes) (cm : Option Bool) (e : Option String) :
    (callDataOf d cm e).error = e.getD "" := rfl

/-- `writeCallData(data, complete, error)`. -/
def writeCallData (c : CommonRPC) (data : Option Bytes) (complete : Option Bool)
    (error : Option String) : CommonRPC :=
  c.writePacket (.ofCallData (callDataOf data complete error))

/-- `writeCallCancel()`. -/
def writeCallCancel (c : CommonRPC) : CommonRPC :=
  c.writePacket ⟨some (.callCancel true)⟩

/-- `close(err)`: a best-effort `CallCancel`, then both queues end. -/
def close (c : CommonRPC) (err : Option String) : CommonRPC :=
  let c := c.writeCallCancel
  { c with rpcDataSource := c.rpcDataSource.end err, source := c.source.end none }

/-- `pushRpcData(data, dataIsZero)`. -/
def pushRpcData (c : CommonRPC) (data : Bytes) (dataIsZero : Bool) : CommonRPC :=
  if dataIsZero then { c with rpcDataSource := c.rpcDataSource.push [] }
  else if data.length = 0 then c
  else { c with rpcDataSource := c.rpcDataSource.push data }

/-- `handleCallStart(packet)` of `CommonRPC` itself: a call start is unexpected. -/
def handleCallStart (_c : CommonRPC) (pkt : CallStart) : Except String CommonRPC :=
  .error ("unexpected call start: " ++ pkt.rpcService ++ "/" ++ pkt.rpcMethod)

/-- `handleCallData(packet)`; `!this.service` holds of `undefined` and of `""`. -/
def handleCallData (c : CommonRPC) (pkt : CallData) : Except String CommonRPC :=
  if c.service.getD "" = "" ∨ c.method.getD "" = "" then
    .error "call start must be sent before call data"
  else
    let c := c.pushRpcData pkt.data pkt.dataIsZero
    if pkt.error ≠ "" then .ok { c with rpcDataSource := c.rpcDataSource.end (some pkt.error) }
    else if pkt.complete then .ok { c with rpcDataSource := c.rpcDataSource.end none }
    else .ok c

/-- The `switch` of `handlePacket`: the handler of the packet's case, if it has one. -/
def handleBody (c : CommonRPC) (pkt : Packet) : Except String CommonRPC :=
  match pkt.body with
  | some (.callStart b) => c.handleCallStart b
  | some (.callData b) => c.handleCallData b
  | _ => .ok c

/-- `handlePacket(packet)`: the state after, and the error it throws, if any, after closing the
call. -/
def handlePacket (c : CommonRPC) (pkt : Packet) : CommonRPC × Option String :=
  match c.handleBody pkt with
  | .ok c => (c, none)
  | .error msg =>
    let msg := if msg = "" then "error handling packet" else msg
    (c.close (some msg), some msg)

/-- `handlePacket` on each of `pkts` in turn, as the sink's `for await` loop calls it, up to
the first packet that throws. -/
def handlePackets (c : CommonRPC) : List Packet → CommonRPC × Option String
  | [] => (c, none)
  | pkt :: pkts =>
    match c.handlePacket pkt with
    | (c, none) => handlePackets c pkts
    | (c, some msg) => (c, some msg)

/-- `writeCallData(d)` for each of `ds`, then `writeCallData(undefined, true)`, as
`writeCallDataFromSource` does for a source of messages. -/
def writeCallDataAll (c : CommonRPC) (ds : List (Option Bytes)) : CommonRPC :=
  (ds.foldl (fun c d => c.writeCallData d none none) c).writeCallData none (some true) none

/-- `writeCallDataFromSource(dataSource)` for a data source that yields `ds` and then ends
(`thrown = none`) or throws an error with the message `thrown`: the thrown error closes the
call. -/
def writeCallDataFromSource (c : CommonRPC) (ds : List (Option Bytes)) (thrown : Option String) :
    CommonRPC :=
  let c := ds.foldl (fun c d => c.writeCallData d none none) c
  match thrown with
  | none => c.writeCallData none (some true) none
  | some err => c.close (some err)

/-- The `sink`: `handlePacket` on each incoming packet; after a throw, `close(err)` once more,
since the thrown error carries no stream-reset code; then `_rpcDataSource.end()`. -/
def sink (c : CommonRPC) (pkts : List Packet) : CommonRPC :=
  let (c, err) := c.handlePackets pkts
  let c := match err with
    | none => c
    | some msg => c.close (some msg)
  { c with rpcDataSource := c.rpcDataSource.end none }

/-! ### The writer -/

@[simp] theorem writeCallData_rpcDataSource (c : CommonRPC) (d : Option Bytes) (cm : Option Bool)
    (e : Option String) : (c.writeCallData d cm e).rpcDataSource = c.rpcDataSource := rfl

theorem writeCallData_source (c : CommonRPC) (h : c.source.ended = none) (d : Option Bytes)
    (cm : Option Bool) (e : Option String) :
    (c.writeCallData d cm e).source =
      ⟨c.source.values ++ [.ofCallData (callDataOf d cm e)], none⟩ := by
  simp [writeCallData, writePacket, h]

theorem foldl_writeCallData_source (ds : List (Option Bytes)) (w : CommonRPC)
    (hw : w.source.ended = none) :
    (ds.foldl (fun c d => c.writeCallData d none none) w).source =
      ⟨w.source.values ++ ds.map (fun d => .ofCallData (callDataOf d none none)), none⟩ := by
  induction ds generalizing w with
  | nil => cases h : w.source; simp_all
  | cons d ds ih =>
    rw [List.foldl_cons, ih _ (by rw [writeCallData_source _ hw]), writeCallData_source _ hw]
    simp

theorem writeCallDataAll_values (w : CommonRPC) (ds : List (Option Bytes))
    (hw : w.source.ended = none) :
    (w.writeCallDataAll ds).source.values = w.source.values ++
      ds.map (fun d => .ofCallData (callDataOf d none none)) ++
        [.ofCallData (callDataOf none (some true) none)] := by
  have h := foldl_writeCallData_source ds w hw
  simp [writeCallDataAll, writeCallData_source _ (congrArg Pushable.ended h), h]

/-! ### The reader -/

theorem pushRpcData_callDataOf (c : CommonRPC) (d : Option Bytes) (cm : Option Bool)
    (e : Option String) :
    c.pushRpcData (callDataOf d cm e).data (callDataOf d cm e).dataIsZero =
      { c with rpcDataSource := d.elim c.rpcDataSource c.rpcDataSource.push } := by
  rcases d with _ | d
  · simp [pushRpcData, callDataOf]
  · by_cases h : d = [] <;> simp [pushRpcData, callDataOf, h]

section Started

variable {c : CommonRPC} (hs : c.service.getD "" ≠ "") (hm : c.method.getD "" ≠ "")
include hs hm

theorem handlePacket_callData (d : Option Bytes) :
    c.handlePacket (.ofCallData (callDataOf d none none)) =
      ({ c with rpcDataSource := d.elim c.rpcDataSource c.rpcDataSource.push }, none) := by
  simp [handlePacket, handleBody, handleCallData, Packet.ofCallData, hs, hm, pushRpcData_callDataOf]

theorem handlePacket_callData_complete :
    c.handlePacket (.ofCallData (callDataOf none (some true) none)) =
      ({ c with rpcDataSource := c.rpcDataSource.end none }, none) := by
  simp [handlePacket, handleBody, handleCallData, Packet.ofCallData, hs, hm, pushRpcData_callDataOf]

end Started

theorem handlePackets_writeCallDataAll (ds : List (Option Bytes)) (c : CommonRPC)
    (hs : c.service.getD "" ≠ "") (hm : c.method.getD "" ≠ "") (hc : c.rpcDataSource.ended = none) :
    c.handlePackets (ds.map (fun d => .ofCallData (callDataOf d none none)) ++
        [.ofCallData (callDataOf none (some true) none)]) =
      ({ c with rpcDataSource := ⟨c.rpcDataSource.values ++ ds.filterMap id, some none⟩ }, none) := by
  induction ds generalizing c with
  | nil => simp [handlePackets, handlePacket_callData_complete hs hm, hc]
  | cons d ds ih =>
    rcases d with _ | d
    · simpa [handlePackets, handlePacket_callData hs hm] using ih c hs hm hc
    · simpa [handlePackets, handlePacket_callData hs hm, hc] using
        ih { c with rpcDataSource := c.rpcDataSource.push d } hs hm (by simp [hc])

/-- Whatever mix of absent, empty and non-empty payloads one side writes, a started peer queues
exactly the present ones, in order, and ends its queue cleanly. -/
theorem rpcDataSource_round_trip (w c : CommonRPC) (ds : List (Option Bytes))
    (hw : w.source.ended = none) (hs : c.service.getD "" ≠ "") (hm : c.method.getD "" ≠ "")
    (hc : c.rpcDataSource.ended = none) :
    c.handlePackets ((w.writeCallDataAll ds).source.values.drop w.source.values.length) =
      ({ c with rpcDataSource := ⟨c.rpcDataSource.values ++ ds.filterMap id, some none⟩ }, none) := by
  rw [writeCallDataAll_values w ds hw, List.append_assoc, List.drop_left]
  exact handlePackets_writeCallDataAll ds c hs hm hc

/-- An absent, a non-empty and an empty payload: the empty one arrives, the absent one does not. -/
theorem rpcDataSource_round_trip_mixed :
    let c : CommonRPC := ⟨some "echo.Echoer", some "Echo", .empty, .empty⟩
    c.handlePackets (((⟨none, none, .empty, .empty⟩ : CommonRPC).writeCallDataAll
        [none, some [1, 2], some []]).source.values.drop 0) =
      ({ c with rpcDataSource := ⟨[[1, 2], []], some none⟩ }, none) :=
  rpcDataSource_round_trip ⟨none, none, .empty, .empty⟩ _ [none, some [1, 2], some []] rfl
    (by decide) (by decide) rfl

/-! ### The sink over any packets -/

@[simp] theorem close_rpcDataSource (c : CommonRPC) (err : Option String) :
    (c.close err).rpcDataSource = c.rpcDataSource.end err := rfl

theorem close_spec (c : CommonRPC) (err : Option String) (hs : c.source.ended = none) :
    (c.close err).source = ⟨c.source.values ++ [⟨some (.callCancel true)⟩], some none⟩ ∧
      (c.close err).rpcDataSource = c.rpcDataSource.end err := by
  simp [close, writeCallCancel, writePacket, hs]

/-- `this.service` and `this.method` are set and non-empty, so `handleCallData` accepts data. -/
def started (c : CommonRPC) : Bool := c.service.getD "" != "" && c.method.getD "" != ""

@[simp] theorem started_rpcDataSource (c : CommonRPC) (q : Pushable Bytes) :
    ({ c with rpcDataSource := q } : CommonRPC).started = c.started := rfl

/-- Whether `handlePacket` throws on `pkt`, on a call that has `started` or not: on a
`CallStart`, and on a `CallData` before the call has started. -/
def throws (started : Bool) (pkt : Packet) : Bool :=
  match pkt.body with
  | some (.callStart _) => true
  | some (.callData _) => !started
  | _ => false

/-- The error a throwing packet is rejected with. -/
def thrownBy (pkt : Packet) : String :=
  match pkt.body with
  | some (.callStart b) => "unexpected call start: " ++ b.rpcService ++ "/" ++ b.rpcMethod
  | _ => "call start must be sent before call data"

/-- The message `pushRpcData` passes on for a `CallData`: an empty one when `dataIsZero` is set,
whatever `data` holds, and none for other empty data. -/
def messageOf (b : CallData) : Option Bytes :=
  if b.dataIsZero then some [] else if b.data = [] then none else some b.data

/-- The writes an accepted `CallData` makes on the caller's queue: its message, then the end it
carries, an error or completion. -/
def feedWrites (b : CallData) : List (Pushable.Write Bytes) :=
  (messageOf b).toList.map .push ++
    if b.error ≠ "" then [.end (some b.error)] else if b.complete then [.end none] else []

/-- The writes a packet that does not throw makes on the caller's queue. -/
def packetWrites (pkt : Packet) : List (Pushable.Write Bytes) :=
  match pkt.body with
  | some (.callData b) => feedWrites b
  | _ => []

/-- The sink's writes on `rpcDataSource` over `pkts`, on a call that has `started` or not: each
packet's, up to the first that throws; then that packet's `close`, the sink's own `close` and
its `end()`. -/
def sinkWrites (started : Bool) : List Packet → List (Pushable.Write Bytes)
  | [] => [.end none]
  | pkt :: pkts =>
    if throws started pkt then [.end (some (thrownBy pkt)), .end (some (thrownBy pkt)), .end none]
    else packetWrites pkt ++ sinkWrites started pkts

/-- What the incoming `pkts` say to the caller on a call that has `started` or not: the
messages, in order, then how the call ends (`none` cleanly). The first packet that throws, or
the first `CallData` that completes the call or carries an error, ends it. -/
def received (started : Bool) : List Packet → List Bytes × Option String
  | [] => ([], none)
  | pkt :: pkts =>
    if throws started pkt then ([], some (thrownBy pkt))
    else match pkt.body with
      | some (.callData b) =>
        if b.error ≠ "" then ((messageOf b).toList, some b.error)
        else if b.complete then ((messageOf b).toList, none)
        else ((messageOf b).toList ++ (received started pkts).1, (received started pkts).2)
      | _ => received started pkts

theorem thrownBy_ne_empty (pkt : Packet) : thrownBy pkt ≠ "" := by
  unfold thrownBy
  split
  · intro h
    have h23 : "unexpected call start: ".length = 23 := rfl
    have := congrArg String.length h
    simp [h23] at this
  · decide

theorem pushRpcData_eq (c : CommonRPC) (b : CallData) :
    c.pushRpcData b.data b.dataIsZero =
      { c with rpcDataSource := (messageOf b).elim c.rpcDataSource c.rpcDataSource.push } := by
  unfold pushRpcData messageOf
  split_ifs <;> simp_all

theorem handleCallData_eq (c : CommonRPC) (b : CallData) :
    c.handleCallData b = if c.started then
        .ok { c with rpcDataSource := (feedWrites b).foldl Pushable.apply c.rpcDataSource }
      else .error "call start must be sent before call data" := by
  unfold handleCallData
  by_cases h : c.service.getD "" = "" ∨ c.method.getD "" = ""
  · have hs : c.started = false := by
      simpa only [started, Bool.and_eq_false_iff, bne_eq_false_iff_eq] using h
    rw [if_pos h, hs, if_neg Bool.false_ne_true]
  · have hs : c.started = true := by simpa [started, not_or] using h
    rw [if_neg h, hs, if_pos rfl, pushRpcData_eq, feedWrites, List.foldl_append]
    cases messageOf b <;> split_ifs <;> rfl

/-- The `switch` of `handlePacket`, said once. -/
theorem handleBody_eq (c : CommonRPC) (pkt : Packet) :
    c.handleBody pkt = if throws c.started pkt then .error (thrownBy pkt)
      else .ok { c with rpcDataSource := (packetWrites pkt).foldl Pushable.apply c.rpcDataSource } := by
  rcases pkt with ⟨_ | ⟨b⟩ | ⟨b⟩ | ⟨b⟩ | _⟩
  · rfl
  · rfl
  · show c.handleCallData b = _
    rw [handleCallData_eq]
    cases c.started <;> rfl
  · rfl
  · rfl

theorem handlePacket_eq (c : CommonRPC) (pkt : Packet) :
    c.handlePacket pkt =
      if throws c.started pkt then (c.close (some (thrownBy pkt)), some (thrownBy pkt))
      else ({ c with rpcDataSource := (packetWrites pkt).foldl Pushable.apply c.rpcDataSource },
        none) := by
  rw [handlePacket, handleBody_eq]
  split_ifs
  · simp [thrownBy_ne_empty]
  · rfl

theorem sink_cons (c : CommonRPC) (pkt : Packet) (pkts : List Packet) :
    c.sink (pkt :: pkts) =
      if throws c.started pkt then
        let c := (c.close (some (thrownBy pkt))).close (some (thrownBy pkt))
        { c with rpcDataSource := c.rpcDataSource.end none }
      else { c with rpcDataSource := (packetWrites pkt).foldl Pushable.apply c.rpcDataSource }.sink
        pkts := by
  rw [sink, handlePackets, handlePacket_eq]
  split_ifs <;> rfl

/-- All the sink does to `rpcDataSource` is the writes `sinkWrites`. -/
theorem sink_rpcDataSource_eq (c : CommonRPC) (pkts : List Packet) :
    (c.sink pkts).rpcDataSource = (sinkWrites c.started pkts).foldl Pushable.apply c.rpcDataSource := by
  induction pkts generalizing c with
  | nil => rfl
  | cons pkt pkts ih =>
    rw [sink_cons, sinkWrites]
    split_ifs
    · rfl
    · rw [ih, started_rpcDataSource, List.foldl_append]

/-- The sink pushes the messages `received` gives, then ends the queue as it says. -/
theorem sinkWrites_eq (started : Bool) (pkts : List Packet) :
    ∃ post, sinkWrites started pkts =
      (received started pkts).1.map .push ++ .end (received started pkts).2 :: post := by
  induction pkts with
  | nil => exact ⟨[], rfl⟩
  | cons pkt pkts ih =>
    obtain ⟨post, hpost⟩ := ih
    by_cases ht : throws started pkt
    · exact ⟨[.end (some (thrownBy pkt)), .end none], by simp [sinkWrites, received, ht]⟩
    rcases pkt with ⟨_ | ⟨b⟩ | ⟨b⟩ | ⟨b⟩ | _⟩
    · exact ⟨post, by simp [sinkWrites, received, ht, packetWrites, hpost]⟩
    · simp [throws] at ht
    · -- an accepted `CallData`
      by_cases he : b.error ≠ ""
      · exact ⟨sinkWrites started pkts,
          by simp [sinkWrites, received, ht, he, packetWrites, feedWrites]⟩
      by_cases hc : b.complete = true
      · exact ⟨sinkWrites started pkts,
          by simp [sinkWrites, received, ht, he, hc, packetWrites, feedWrites]⟩
      · exact ⟨post, by simp [sinkWrites, received, ht, he, hc, packetWrites, feedWrites, hpost]⟩
    all_goals exact ⟨post, by simp [sinkWrites, received, ht, packetWrites, hpost]⟩

theorem sink_rpcDataSource {c : CommonRPC} (hc : c.rpcDataSource.ended = none) (pkts : List Packet) :
    (c.sink pkts).rpcDataSource =
      (⟨c.rpcDataSource.values ++ (received c.started pkts).1, none⟩ : Pushable Bytes).end
        (received c.started pkts).2 := by
  obtain ⟨post, hpost⟩ := sinkWrites_eq c.started pkts
  rw [sink_rpcDataSource_eq, hpost, Pushable.foldl_pushes_end hc]

theorem sink_source {c : CommonRPC} (hs : c.source.ended = none) (pkts : List Packet) :
    (c.sink pkts).source = if pkts.any (throws c.started) then
      ⟨c.source.values ++ [⟨some (.callCancel true)⟩], some none⟩ else c.source := by
  induction pkts generalizing c with
  | nil => rfl
  | cons pkt pkts ih =>
    rw [sink_cons, List.any_cons]
    by_cases ht : throws c.started pkt
    · simp [ht, close, writeCallCancel, writePacket, hs]
    · rw [if_neg ht]
      simpa [ht] using
        ih (c := { c with rpcDataSource := (packetWrites pkt).foldl Pushable.apply c.rpcDataSource }) hs

theorem sink_name (c : CommonRPC) (pkts : List Packet) :
    (c.sink pkts).service = c.service ∧ (c.sink pkts).method = c.method := by
  induction pkts generalizing c with
  | nil => exact ⟨rfl, rfl⟩
  | cons pkt pkts ih =>
    rw [sink_cons]
    split_ifs
    · simp only [close, writeCallCancel, writePacket, and_self]
    · exact ih _

theorem messageOf_callDataOf (d : Option Bytes) (cm : Option Bool) (e : Option String) :
    messageOf (callDataOf d cm e) = d := by
  rcases d with _ | d
  · simp [messageOf, callDataOf]
  · by_cases h : d = [] <;> simp [messageOf, callDataOf, h]

theorem received_ofCallData_started (b : CallData) (pkts : List Packet) :
    received true (.ofCallData b :: pkts) =
      if b.error ≠ "" then ((messageOf b).toList, some b.error)
      else if b.complete then ((messageOf b).toList, none)
      else ((messageOf b).toList ++ (received true pkts).1, (received true pkts).2) := rfl

theorem received_callDataOf (ds : List (Option Bytes)) (tail : List Packet) :
    received true (ds.map (fun d => .ofCallData (callDataOf d none none)) ++ tail) =
      (ds.filterMap id ++ (received true tail).1, (received true tail).2) := by
  induction ds with
  | nil => rfl
  | cons d ds ih =>
    rw [List.map_cons, List.cons_append, received_ofCallData_started, ih]
    cases d <;> simp [messageOf_callDataOf]

theorem writeCallDataFromSource_values (w : CommonRPC) (ds : List (Option Bytes))
    (thrown : Option String) (hw : w.source.ended = none) :
    (w.writeCallDataFromSource ds thrown).source.values = w.source.values ++
      ds.map (fun d => .ofCallData (callDataOf d none none)) ++
        [thrown.elim (.ofCallData (callDataOf none (some true) none)) fun _ => ⟨some (.callCancel true)⟩] := by
  have h := foldl_writeCallData_source ds w hw
  cases thrown
  · simp [writeCallDataFromSource, writeCallData_source _ (congrArg Pushable.ended h), h]
  · simp [writeCallDataFromSource, (close_spec _ _ (congrArg Pushable.ended h)).1, h]

/-- A failing data source is lost on the way: the reader gets the payloads and a clean end,
whether the writer's source ended or threw. -/
theorem writeCallDataFromSource_sink (w c : CommonRPC) (ds : List (Option Bytes))
    (thrown : Option String) (hw : w.source.ended = none) (hs : c.started = true)
    (hc : c.rpcDataSource.ended = none) :
    (c.sink ((w.writeCallDataFromSource ds thrown).source.values.drop w.source.values.length)).rpcDataSource =
      ⟨c.rpcDataSource.values ++ ds.filterMap id, some none⟩ := by
  rw [writeCallDataFromSource_values w ds thrown hw, List.append_assoc, List.drop_left,
    sink_rpcDataSource hc, hs, received_callDataOf]
  cases thrown <;> simp [received, throws, Packet.ofCallData, messageOf_callDataOf]

/-- A source that yields a message and then throws: the reader sees the message, then a clean end. -/
theorem writeCallDataFromSource_sink_thrown :
    let w : CommonRPC := ⟨none, none, .empty, .empty⟩
    let c : CommonRPC := ⟨some "echo.Echoer", some "Echo", .empty, .empty⟩
    w.source.ended = none ∧ c.started = true ∧ c.rpcDataSource.ended = none ∧
      (c.sink ((w.writeCallDataFromSource [some [1]] (some "source failed")).source.values.drop
          w.source.values.length)).rpcDataSource =
        ⟨c.rpcDataSource.values ++ [some [1]].filterMap id, some none⟩ :=
  ⟨rfl, rfl, rfl, writeCallDataFromSource_sink _ _ _ _ rfl rfl rfl⟩

end CommonRPC

end Starpc
