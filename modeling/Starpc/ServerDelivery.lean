import Starpc.ServerRun

/-!
# What reaches the handler

`dataCh` stands between the read pump, which calls `HandlePacket`, and the handler that
`invokeRPC` starts, whose stream receives from it. Here both ends are followed over whole runs:
any interleaving of packets, receives, cancellations, the handler's return and `Close`, each
call with the error it returned.

* `Packet.payload`, the message a packet carries to `dataCh`;
* `ServerRPC.Run`, a run, with `queued` (the payloads of the packets accepted with `nil`),
  `receives` (the handler's receives) and `closing` (the first accepted `CallData` that ends
  the client's messages);
* `run_dataCh`: along any run `dataCh` gains exactly the queued payloads, in order, and gives
  out exactly one value per receive;
* `run_delivers_accepted`: from a new `ServerRPC`, the handler has received the first
  `receives` of the accepted payloads, in the order they were accepted, each once;
* `run_closes`: `dataCh` is closed exactly when an accepted `CallData` was complete or carried
  an error, and the client error the handler reads is the error of the first such packet;
* `Reachable.dataCh_len`: `dataCh` never holds more than its 5 slots;
* `handlePacket_blocked`: the read pump waits only on a full `dataCh`, and the wait ends at the
  handler's next receive once `invokeRPC` has started, or when the context is canceled.
-/

namespace Starpc

/-- The message a packet carries to `dataCh`: `GetData()` of its `CallStart` or `CallData`. -/
def Packet.payload (pkt : Packet) : Bytes :=
  match pkt.body with
  | some (.callStart b) => b.data
  | some (.callData b) => b.data
  | _ => []

namespace ServerRPC

/-- A run from `r` to `r'`: the events in turn, each with the error its call returned. -/
inductive Run : ServerRPC → List (Event × Option GoError) → ServerRPC → Prop
  | nil (r : ServerRPC) : Run r [] r
  | cons {r r₁ r₂ : ServerRPC} {e : Event} {err : Option GoError}
      {tr : List (Event × Option GoError)} :
      .ret err r₁ ∈ step r e → Run r₁ tr r₂ → Run r ((e, err) :: tr) r₂

/-- What a call puts on `dataCh`: a packet accepted with `nil` queues its payload, if any. -/
def queuedBy : Event × Option GoError → List Bytes
  | (.packet pkt, none) => if pkt.payload = [] then [] else [pkt.payload]
  | _ => []

/-- The payloads a run queues, in order. -/
def queued (tr : List (Event × Option GoError)) : List Bytes := tr.flatMap queuedBy

/-- A receive by the handler's stream. -/
def Event.isRecv : Event → Bool
  | .recv => true
  | _ => false

/-- The handler's receives in a run. -/
def receives (tr : List (Event × Option GoError)) : Nat := tr.countP fun p => p.1.isRecv

/-- The client error a `CallData` sets: `errors.New(err)` for a non-empty `err`. -/
def clientErrOf (b : CallData) : Option GoError := if b.error = "" then none else some (.new b.error)

/-- The `CallData` a call accepts with `nil`, if it is complete or carries an error. -/
def closedBy : Event × Option GoError → Option CallData
  | (.packet ⟨some (.callData b)⟩, none) => if b.complete = true ∨ b.error ≠ "" then some b else none
  | _ => none

/-- The first `CallData` of a run accepted with `nil` that is complete or carries an error. -/
def closing (tr : List (Event × Option GoError)) : Option CallData := tr.findSome? closedBy

variable {r r' : ServerRPC} {e : Event} {err : Option GoError} {tr : List (Event × Option GoError)}

theorem Reachable.run (hr : Reachable r) (h : Run r tr r') : Reachable r' := by
  induction h with
  | nil => exact hr
  | cons hs _ ih => exact ih (.step hr hs)

theorem Run.steps (h : Run r tr r') : Relation.ReflTransGen Step r r' := by
  induction h with
  | nil => exact .refl
  | cons hs _ ih => exact .head ⟨_, _, hs⟩ ih

/-! ### `dataCh` along a run -/

theorem handleCallStart_dataCh {b : CallStart} (h : handleCallStart r b = .ret err r') :
    r.dataCh.Moves r'.dataCh (if err = none ∧ b.data ≠ [] then [b.data] else []) 0 := by
  unfold handleCallStart goInvokeRPC at h
  split_ifs at h with h1 h2 hd
  · cases h; simpa using Chan.Moves.refl r.dataCh
  · cases h; simpa using Chan.Moves.refl r.dataCh
  · dsimp only at h
    split at h
    · rename_i ch hs
      cases h
      rw [if_pos ⟨rfl, by simpa using hd⟩]
      exact Chan.send_moves hs
    · cases h; simpa using Chan.Moves.refl r.dataCh
    · cases h
  · cases h; simpa [List.length_eq_zero.1 (not_not.1 hd)] using Chan.Moves.refl r.dataCh

theorem handleCallData_dataCh {b : CallData} (h : .ret err r' ∈ handleCallData r b) :
    r.dataCh.Moves r'.dataCh (if err = none ∧ b.data ≠ [] then [b.data] else []) 0 := by
  unfold handleCallData at h
  by_cases h1 : r.dataChClosed = true
  · rw [if_pos h1, List.mem_singleton] at h
    cases h; simpa using Chan.Moves.refl r.dataCh
  rw [if_neg h1] at h
  by_cases hd : b.data = []
  · rw [if_neg (by simp [hd]), List.mem_singleton] at h
    obtain ⟨rfl, ce, dc, cl, rfl⟩ := completeCallData_frame h.symm
    simpa [hd] using (Chan.Moves.refl r.dataCh).setClosed cl
  rw [if_pos (by simpa using hd), List.mem_append] at h
  rcases h with h | h
  · by_cases hx : r.ctxDone = true
    · rw [if_pos hx, List.mem_singleton] at h
      cases h; simpa using Chan.Moves.refl r.dataCh
    · rw [if_neg hx] at h
      cases h
  · split at h
    · rename_i ch hs
      obtain ⟨rfl, ce, dc, cl, rfl⟩ := completeCallData_frame (List.mem_singleton.1 h).symm
      simpa [hd] using (Chan.send_moves hs).setClosed cl
    · cases h
    · simp at h

theorem handlePacket_dataCh {pkt : Packet} (h : .ret err r' ∈ handlePacket r pkt) :
    r.dataCh.Moves r'.dataCh (queuedBy (.packet pkt, err)) 0 := by
  rcases pkt with ⟨_ | ⟨b⟩ | ⟨b⟩ | ⟨b⟩ | _⟩ <;>
    simp only [handlePacket, Packet.validate, List.mem_singleton, Outcome.ret.injEq] at h
  · obtain ⟨rfl, rfl⟩ := h; simpa [queuedBy] using Chan.Moves.refl _
  · split_ifs at h <;> simp only [List.mem_singleton, Outcome.ret.injEq] at h
    · obtain ⟨rfl, rfl⟩ := h; simpa [queuedBy] using Chan.Moves.refl _
    · have := handleCallStart_dataCh h.symm
      cases err <;> simpa [queuedBy, Packet.payload] using this
  · have := handleCallData_dataCh h
    cases err <;> simpa [queuedBy, Packet.payload] using this
  all_goals obtain ⟨rfl, rfl⟩ := h; simpa [queuedBy, Packet.payload] using Chan.Moves.refl _

/-- The step lemma: a packet queues what it accepts, and a receive takes one value. -/
theorem step_dataCh (h : .ret err r' ∈ step r e) :
    r.dataCh.Moves r'.dataCh (queuedBy (e, err)) (if e.isRecv then 1 else 0) := by
  cases e with
  | packet pkt => simpa using handlePacket_dataCh h
  | recv =>
    simp only [step] at h
    split_ifs at h
    · cases hrc : r.dataCh.recv with
      | none => simp [hrc] at h
      | some ch =>
        simp only [hrc, Option.map_some', Option.toList_some, List.mem_singleton] at h
        cases h
        simpa [queuedBy, Event.isRecv] using Chan.recv_moves hrc
    · cases h
  | cancel =>
    obtain ⟨rfl, rfl⟩ := List.mem_singleton.1 h
    simpa [queuedBy, Event.isRecv] using Chan.Moves.refl r.dataCh
  | invokeReturn =>
    simp only [step] at h
    split_ifs at h
    · obtain ⟨rfl, rfl⟩ := List.mem_singleton.1 h
      simpa [queuedBy, Event.isRecv, invokeRPCReturn] using Chan.Moves.refl r.dataCh
    · cases h
  | close =>
    obtain ⟨rfl, rfl⟩ := List.mem_singleton.1 h
    simpa [queuedBy, Event.isRecv, close_eq] using Chan.Moves.refl r.dataCh

/-- The run lemma: `dataCh` gains the queued payloads in order and gives one value per receive. -/
theorem run_dataCh (h : Run r tr r') :
    r'.dataCh.sent = r.dataCh.sent ++ queued tr ∧
      r'.dataCh.taken = r.dataCh.taken + receives tr := by
  induction h with
  | nil => simp [queued, receives]
  | cons hs _ ih =>
    have hm := step_dataCh hs
    simp only [queued, receives, List.flatMap_cons, List.countP_cons] at ih ⊢
    rw [ih.1, hm.sent, ih.2, hm.taken, List.append_assoc]
    constructor
    · rfl
    · split <;> omega

/-- Nothing is lost, duplicated or reordered between the read pump and the handler: it has
received the first `receives tr` of the accepted payloads, in order. -/
theorem run_delivers_accepted (h : Run newServerRPC tr r) :
    r.dataCh.sent = queued tr ∧ r.dataCh.taken = receives tr ∧ receives tr ≤ (queued tr).length := by
  obtain ⟨h1, h2⟩ := run_dataCh h
  simp only [newServerRPC, Chan.make, List.nil_append, Nat.zero_add] at h1 h2
  exact ⟨h1, h2, h1 ▸ h2 ▸ r.dataCh.taken_le⟩

/-- A `CallStart` with a message, a completing `CallData` with another, and one receive. -/
theorem run_delivers_accepted_echo :
    let tr : List (Event × Option GoError) :=
      [(.packet (.ofCallStart ⟨"echo.Echoer", "Echo", [1], false⟩), none),
        (.packet (.ofCallData ⟨[2], false, true, ""⟩), none), (.recv, none)]
    ∃ r, Run newServerRPC tr r ∧
      r.dataCh.sent = queued tr ∧ r.dataCh.taken = receives tr ∧ receives tr ≤ (queued tr).length :=
  have h := Run.cons (.head _) (.cons (.head _) (.cons (.head _) (.nil _)))
  ⟨_, h, run_delivers_accepted h⟩

/-! ### When the read pump waits -/

theorem Reachable.dataCh_len (hr : Reachable r) : r.dataCh.cap = 5 ∧ r.dataCh.len ≤ 5 := by
  induction hr with
  | init => exact ⟨rfl, by decide⟩
  | step _ hs ih =>
    obtain ⟨hc, hl⟩ := ih
    have hm := step_dataCh hs
    have := hm.len_le (by omega)
    have := hm.cap
    exact ⟨by omega, by omega⟩

theorem handleCallData_eq_nil_iff {b : CallData} :
    handleCallData r b = [] ↔ r.dataChClosed = false ∧ b.data ≠ [] ∧ r.ctxDone = false ∧
      r.dataCh.send b.data = .blocked := by
  unfold handleCallData
  by_cases h1 : r.dataChClosed = true
  · simp [h1]
  by_cases hd : b.data = []
  · simp [h1, hd]
  cases hx : r.ctxDone <;> cases hs : r.dataCh.send b.data <;> simp [h1, hd, hx, hs]

theorem handlePacket_eq_nil_iff {pkt : Packet} :
    handlePacket r pkt = [] ↔ ∃ b, pkt = .ofCallData b ∧ handleCallData r b = [] := by
  rcases pkt with ⟨_ | ⟨b⟩ | ⟨b⟩ | ⟨b⟩ | _⟩ <;> simp [handlePacket, Packet.validate, Packet.ofCallData]
  split_ifs <;> simp

theorem completeCallData_ret (b : CallData) (hch : r.dataCh.closed = false) :
    ∃ r', completeCallData r b = .ret none r' := by
  cases h : completeCallData r b with
  | ret err r' => exact ⟨r', by rw [(completeCallData_frame h).1]⟩
  | panic => exact absurd h (completeCallData_ne_panic b hch)

theorem handleCallData_of_recv {b : CallData} {ch : Chan Bytes} (hrecv : r.dataCh.recv = some ch)
    (hc : r.dataChClosed = false) (hch : r.dataCh.closed = false) (hx : r.ctxDone = false)
    (hl : r.dataCh.len ≤ r.dataCh.cap) (hd : b.data ≠ []) :
    ∃ r₂, handleCallData { r with dataCh := ch } b = [.ret none r₂] := by
  have hfree := Chan.recv_len hrecv
  obtain ⟨ch', hs, -⟩ := @Chan.send_of_room _ ch b.data ((Chan.recv_eq_some hrecv).2.trans hch)
    (by omega)
  obtain ⟨r₂, h₂⟩ := @completeCallData_ret { r with dataCh := ch' } b (Chan.send_eq_sent hs).2.2.2
  rw [hc, hx] at h₂
  exact ⟨r₂, by simp [handleCallData, hc, hd, hx, hs, h₂]⟩

theorem handleCallData_of_cancel {b : CallData} (hc : r.dataChClosed = false) (hd : b.data ≠ [])
    (hs : r.dataCh.send b.data = .blocked) :
    handleCallData { r with ctxDone := true } b = [.ret (some .canceled) { r with ctxDone := true }] := by
  simp [handleCallData, hc, hd, hs]

/-- The read pump blocks only on a full `dataCh`, and the wait ends at the handler's next receive,
once `invokeRPC` has started, or when the context is canceled. -/
theorem handlePacket_blocked (hr : Reachable r) (pkt : Packet) :
    (handlePacket r pkt = [] ↔ ∃ b, pkt = .ofCallData b ∧ b.data ≠ [] ∧
        r.dataChClosed = false ∧ r.ctxDone = false ∧ r.dataCh.len = 5) ∧
    (handlePacket r pkt = [] →
      (step r .recv ≠ [] ↔ 0 < r.invoked) ∧
      (∀ err r₁, .ret err r₁ ∈ step r .recv → ∃ r₂, handlePacket r₁ pkt = [.ret none r₂]) ∧
      ∀ err r₁, .ret err r₁ ∈ step r .cancel → handlePacket r₁ pkt = [.ret (some .canceled) r₁]) := by
  have hi := hr.inv
  obtain ⟨hcap, hlen⟩ := hr.dataCh_len
  have h5 : 5 ≤ r.dataCh.len ↔ r.dataCh.len = 5 := by omega
  have hiff : handlePacket r pkt = [] ↔ ∃ b, pkt = .ofCallData b ∧ b.data ≠ [] ∧
      r.dataChClosed = false ∧ r.ctxDone = false ∧ r.dataCh.len = 5 := by
    simp only [handlePacket_eq_nil_iff, handleCallData_eq_nil_iff, Chan.send_eq_blocked_iff,
      ← hi.closed_eq, hcap, h5]
    exact exists_congr fun b => and_congr_right fun _ =>
      ⟨fun ⟨hc, hd, hx, _, hl⟩ => ⟨hd, hc, hx, hl⟩, fun ⟨hd, hc, hx, hl⟩ => ⟨hc, hd, hx, hc, hl⟩⟩
  refine ⟨hiff, fun hb => ?_⟩
  obtain ⟨b, rfl, hd, hc, hx, hl⟩ := hiff.1 hb
  have hch : r.dataCh.closed = false := hi.closed_eq ▸ hc
  obtain ⟨ch, hrecv⟩ : ∃ ch, r.dataCh.recv = some ch :=
    ⟨_, dif_pos (by unfold Chan.len at hl; omega)⟩
  refine ⟨by simp [step, hrecv, Nat.pos_iff_ne_zero], fun err r₁ h => ?_, fun err r₁ h => ?_⟩
  · simp only [step, hrecv, Option.map_some', Option.toList_some] at h
    split_ifs at h
    · obtain ⟨-, rfl⟩ := Outcome.ret.inj (List.mem_singleton.1 h)
      exact handleCallData_of_recv hrecv hc hch hx (by omega) hd
    · cases h
  · obtain ⟨-, rfl⟩ := Outcome.ret.inj (List.mem_singleton.1 h)
    exact handleCallData_of_cancel hc hd (Chan.send_eq_blocked_iff.2 ⟨hch, by omega⟩)

/-- A `CallStart` with a message and four `CallData` fill `dataCh`: a sixth message waits for the
handler's receive. -/
theorem handlePacket_blocked_started :
    let pkt : Packet := .ofCallData ⟨[1], false, false, ""⟩
    ∃ r, Reachable r ∧ handlePacket r pkt = [] ∧ r.invoked = 1 ∧
      (handlePacket r pkt = [] ↔ ∃ b, pkt = .ofCallData b ∧ b.data ≠ [] ∧
          r.dataChClosed = false ∧ r.ctxDone = false ∧ r.dataCh.len = 5) ∧
      (handlePacket r pkt = [] →
        (step r .recv ≠ [] ↔ 0 < r.invoked) ∧
        (∀ err r₁, .ret err r₁ ∈ step r .recv → ∃ r₂, handlePacket r₁ pkt = [.ret none r₂]) ∧
        ∀ err r₁, .ret err r₁ ∈ step r .cancel → handlePacket r₁ pkt = [.ret (some .canceled) r₁]) :=
  have h : Run newServerRPC ((.packet (.ofCallStart ⟨"echo.Echoer", "Echo", [1], false⟩), none) ::
      List.replicate 4 (.packet (.ofCallData ⟨[1], false, false, ""⟩), none)) _ :=
    .cons (.head _) (.cons (.head _) (.cons (.head _) (.cons (.head _) (.cons (.head _) (.nil _)))))
  ⟨_, Reachable.init.run h, rfl, rfl, handlePacket_blocked (Reachable.init.run h) _⟩

/-! ### When `dataCh` closes -/

theorem handleCallData_closes (hi : Inv r) (hc : r.dataChClosed = false) {b : CallData}
    (h : .ret none r' ∈ handleCallData r b) :
    r'.dataChClosed = (closedBy (.packet (.ofCallData b), none)).isSome ∧
      r'.clientErr = (closedBy (.packet (.ofCallData b), none)).bind clientErrOf := by
  have hce := hi.clientErr_of_open hc
  rcases mem_handleCallData h with ⟨h1, -⟩ | ⟨-, h⟩ | ⟨-, -, h⟩ | ⟨-, ch, -, hcl, h⟩
  · simp [hc] at h1
  · cases h
  · cases h
  have hch : ({ r with dataCh := ch } : ServerRPC).dataCh.closed = false := by
    simpa [hcl, ← hi.closed_eq] using hc
  by_cases ht : b.complete = true ∨ b.error ≠ ""
  · rw [completeCallData_of_complete b ht hch] at h
    cases h
    simp [closedBy, Packet.ofCallData, ht, clientErrOf, hce]
  · simp only [not_or, not_not, Bool.not_eq_true] at ht
    rw [completeCallData_of_open b ht.1 ht.2] at h
    cases h
    simp [closedBy, Packet.ofCallData, ht, hc, hce]

/-- The step lemma: an open call closes at an accepted `CallData` that is complete or has an error. -/
theorem step_closes (hi : Inv r) (hc : r.dataChClosed = false) (h : .ret err r' ∈ step r e) :
    r'.dataChClosed = (closedBy (e, err)).isSome ∧ r'.clientErr = (closedBy (e, err)).bind clientErrOf := by
  have hce := hi.clientErr_of_open hc
  rcases e with pkt | _ | _ | _ | _
  · by_cases hp : ∃ b, pkt = .ofCallData b ∧ err = none
    · obtain ⟨b, rfl, rfl⟩ := hp
      exact handleCallData_closes hi hc h
    have hnone : closedBy (.packet pkt, err) = none := by
      rcases pkt with ⟨_ | _ | ⟨b⟩ | _ | _⟩ <;> cases err <;> simp_all [closedBy, Packet.ofCallData]
    rw [hnone]
    rcases ret_mem_handlePacket h with rfl | ⟨b, -, -, -, -, ⟨-, rfl⟩ | ⟨-, ch, -, rfl⟩⟩ |
        ⟨b, rfl, -, rfl, -⟩
    · exact ⟨hc, hce⟩
    · exact ⟨hc, hce⟩
    · exact ⟨hc, hce⟩
    · exact absurd ⟨b, rfl, rfl⟩ hp
  all_goals
    obtain ⟨_, _, h, -, -, h1, h2, -⟩ := step_frame (fun _ => by simp) h
    cases h
    exact ⟨h1 ▸ hc, h2 ▸ hce⟩

/-- The run lemma of `step_closes`. -/
theorem run_closes_of_open (hr : Reachable r) (hc : r.dataChClosed = false) (h : Run r tr r') :
    r'.dataChClosed = (closing tr).isSome ∧ r'.clientErr = (closing tr).bind clientErrOf := by
  induction h with
  | nil => simpa [closing] using ⟨hc, hr.inv.clientErr_of_open hc⟩
  | cons hs hrun ih =>
    obtain ⟨h1, h2⟩ := step_closes hr.inv hc hs
    simp only [closing, List.findSome?_cons] at ih ⊢
    cases hb : closedBy _ with
    | none => simp only [hb, Option.isSome_none, Option.none_bind] at h1 h2; exact ih (hr.step hs) h1
    | some b =>
      simp only [hb, Option.isSome_some, Option.some_bind] at h1 h2 ⊢
      obtain ⟨h3, h4, -⟩ := steps_of_dataChClosed h1 hrun.steps
      exact ⟨h3, h4.trans h2⟩

/-- `dataCh` is closed exactly once an accepted `CallData` was complete or carried an error, and
the client error is that of the first such packet. -/
theorem run_closes (h : Run newServerRPC tr r) :
    r.dataCh.closed = (closing tr).isSome ∧ r.clientErr = (closing tr).bind clientErrOf := by
  obtain ⟨h1, h2⟩ := run_closes_of_open .init rfl h
  exact ⟨(Reachable.init.run h).inv.closed_eq ▸ h1, h2⟩

/-- A `CallStart`, then a `CallData` carrying the client's error. -/
theorem run_closes_client_error :
    let tr : List (Event × Option GoError) :=
      [(.packet (.ofCallStart ⟨"echo.Echoer", "Echo", [1], false⟩), none),
        (.packet (.ofCallData ⟨[], false, false, "aborted"⟩), none)]
    ∃ r, Run newServerRPC tr r ∧
      r.dataCh.closed = (closing tr).isSome ∧ r.clientErr = (closing tr).bind clientErrOf :=
  have h := Run.cons (.head _) (.cons (.head _) (.nil _))
  ⟨_, h, run_closes h⟩

end ServerRPC

end Starpc
