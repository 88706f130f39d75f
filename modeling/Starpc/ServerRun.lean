import Mathlib.Logic.Relation
import Starpc.ServerRPC

/-!
# `ServerRPC` over whole runs

A run interleaves the read pump's `HandlePacket` calls, in any order of any packets, with the
other goroutines' events: the handler's stream receiving from `dataCh`, cancellation, the end
of `invokeRPC`, and `Close`.

* `Inv`, the invariant of every reachable state, with the step lemma `step_inv`: no event ever
  makes Go panic;
* `serverRPC_closes_dataCh_once`: `dataChClosed` tracks whether `dataCh` is closed, and once a
  `CallData` has completed the call every later `CallStart` and `CallData` is rejected and
  changes nothing;
* `serverRPC_starts_once`: `invokeRPC` is started at most once, by the `CallStart` that names
  the call, and the service and method it reads never change after that;
* `handlePackets`, the read pump on its own, used to run the code on concrete packets where it
  departs from what the spec asks, with `handlePackets_sent_of_empty`: packets with empty data
  never reach `dataCh`, whatever `dataIsZero` says.
-/

namespace Starpc

namespace ServerRPC

variable {r r' : ServerRPC} {e : Event} {err : Option GoError} {o : Outcome}

/-- The invariant of the reachable states. -/
structure Inv (r : ServerRPC) : Prop where
  closed_eq : r.dataChClosed = r.dataCh.closed
  invoked_le_one : r.invoked ≤ 1
  named_of_invoked : 0 < r.invoked → r.service ≠ "" ∨ r.method ≠ ""
  clientErr_of_open : r.dataChClosed = false → r.clientErr = none

theorem inv_newServerRPC : Inv newServerRPC := ⟨rfl, by decide, by simp [newServerRPC], fun _ => rfl⟩

theorem Inv.of_eq (hi : Inv r) (h1 : r'.dataChClosed = r.dataChClosed)
    (h2 : r'.dataCh.closed = r.dataCh.closed) (h3 : r'.invoked = r.invoked)
    (h4 : r'.service = r.service) (h5 : r'.method = r.method) (h6 : r'.clientErr = r.clientErr) :
    Inv r' :=
  ⟨by rw [h1, h2, hi.closed_eq], h3 ▸ hi.invoked_le_one, by rw [h3, h4, h5]; exact hi.named_of_invoked,
    by rw [h1, h6]; exact hi.clientErr_of_open⟩

theorem Inv.invoked_eq_zero (hi : Inv r) (hm : r.method = "") (hs : r.service = "") :
    r.invoked = 0 := by
  by_contra h0
  simpa [hm, hs] using hi.named_of_invoked (Nat.pos_of_ne_zero h0)

theorem handleCallStart_inv (hi : Inv r) {b : CallStart} (hb : b.rpcService ≠ "" ∨ b.rpcMethod ≠ "") :
    ∃ err r', handleCallStart r b = .ret err r' ∧ Inv r' := by
  rcases handleCallStart_cases r b with ⟨-, err, h⟩ | ⟨hm, hs, hc, hr⟩
  · exact ⟨_, _, h, hi⟩
  have h0 := hi.invoked_eq_zero hm hs
  rcases hr with ⟨hch, -⟩ | h | ⟨ch, -, hch, h⟩
  · exact absurd (hi.closed_eq.symm.trans hc) (by simp [hch])
  · exact ⟨_, _, h, ⟨hi.closed_eq, by simp [h0], by simp [h0], hi.clientErr_of_open⟩⟩
  · exact ⟨_, _, h, ⟨hi.closed_eq.trans hch.symm, by simp [h0], fun _ => hb, hi.clientErr_of_open⟩⟩

theorem completeCallData_inv (hi : Inv r) (hc : r.dataChClosed = false) (b : CallData) :
    ∃ err r', completeCallData r b = .ret err r' ∧ Inv r' := by
  by_cases hb : b.complete = true ∨ b.error ≠ ""
  · have hch : r.dataCh.closed = false := hi.closed_eq ▸ hc
    exact ⟨_, _, completeCallData_of_complete b hb hch,
      ⟨rfl, hi.invoked_le_one, hi.named_of_invoked, nofun⟩⟩
  · push_neg at hb
    exact ⟨_, _, completeCallData_of_open b (by simpa using hb.1) hb.2, hi⟩

theorem handleCallData_inv (hi : Inv r) {b : CallData} (ho : o ∈ handleCallData r b) :
    ∃ err r', o = .ret err r' ∧ Inv r' := by
  rcases mem_handleCallData ho with ⟨-, rfl⟩ | ⟨-, rfl⟩ | ⟨hc, hch, -⟩ | ⟨hc, ch, -, hch, rfl⟩
  · exact ⟨_, _, rfl, hi⟩
  · exact ⟨_, _, rfl, hi⟩
  · exact absurd (hi.closed_eq.symm.trans hc) (by simp [hch])
  · have hi' : Inv { r with dataCh := ch } := hi.of_eq rfl hch rfl rfl rfl rfl
    exact completeCallData_inv hi' hc b

/-- The step lemma: from a state satisfying `Inv`, no event makes Go panic, and `Inv` holds after. -/
theorem step_inv (hi : Inv r) (ho : o ∈ step r e) : ∃ err r', o = .ret err r' ∧ Inv r' := by
  rcases e with pkt | _ | _ | _ | _
  · rcases mem_handlePacket ho with ⟨err, rfl⟩ | ⟨b, -, hb, rfl⟩ | ⟨b, -, ho⟩
    · exact ⟨_, _, rfl, hi⟩
    · exact handleCallStart_inv hi hb
    · exact handleCallData_inv hi ho
  all_goals
    obtain ⟨err, r', rfl, hs, hm, hc, hce, hn, -, hch⟩ := step_frame (fun _ => by simp) ho
    exact ⟨_, _, rfl, hi.of_eq hc hch hn hs hm hce⟩

theorem Reachable.inv (h : Reachable r) : Inv r := by
  induction h with
  | init => exact inv_newServerRPC
  | step _ ho ih =>
    obtain ⟨_, _, h, hi⟩ := step_inv ih ho
    cases h
    exact hi

/-! ### The read pump on its own -/

/-- The read pump alone: `HandlePacket` on each of `pkts` in turn while no other goroutine
acts, as long as each call has exactly one way to end and returns. The errors returned and the
state after; `none` if a call blocks, panics or could end in more than one way. -/
def handlePackets : ServerRPC → List Packet → Option (List (Option GoError) × ServerRPC)
  | r, [] => some ([], r)
  | r, pkt :: pkts =>
    match handlePacket r pkt with
    | [.ret err r'] => (handlePackets r' pkts).map fun p => (err :: p.1, p.2)
    | _ => none

theorem handlePackets_cons_eq_some {pkt : Packet} {pkts : List Packet} {errs : List (Option GoError)}
    (h : handlePackets r (pkt :: pkts) = some (errs, r')) :
    ∃ err r₁, .ret err r₁ ∈ handlePacket r pkt ∧ ∃ errs', handlePackets r₁ pkts = some (errs', r') := by
  simp only [handlePackets] at h
  split at h
  · rename_i err r₁ h₁
    obtain ⟨⟨errs', r''⟩, hp, hpe⟩ := Option.map_eq_some'.1 h
    obtain ⟨-, rfl⟩ := Prod.mk.inj hpe
    exact ⟨err, r₁, by rw [h₁]; exact List.mem_singleton_self _, errs', hp⟩
  · cases h

theorem Reachable.handlePackets (hr : Reachable r) (pkts : List Packet)
    {errs : List (Option GoError)} (h : handlePackets r pkts = some (errs, r')) : Reachable r' := by
  induction pkts generalizing r errs with
  | nil => cases h; exact hr
  | cons pkt pkts ih =>
    obtain ⟨err, r₁, h₁, _, hp⟩ := handlePackets_cons_eq_some h
    exact ih (@Reachable.step r r₁ (.packet pkt) err hr h₁) hp

/-! ### After completion -/

theorem handlePacket_completes (hi : Inv r) {b : CallData} (hb : b.complete = true ∨ b.error ≠ "")
    (ho : .ret none r' ∈ handlePacket r (.ofCallData b)) : r'.dataChClosed = true := by
  rw [handlePacket_ofCallData] at ho
  rcases mem_handleCallData ho with ⟨-, h⟩ | ⟨-, h⟩ | ⟨-, -, h⟩ | ⟨hc, ch, -, hch, h⟩
  · cases h
  · cases h
  · cases h
  · rw [completeCallData_of_complete b hb (by simp [hch, ← hi.closed_eq, hc])] at h
    cases h
    rfl

/-- Everything a packet whose handling returns can do to the state. -/
theorem ret_mem_handlePacket {pkt : Packet} (ho : .ret err r' ∈ handlePacket r pkt) :
    r' = r ∨
    (∃ b, pkt = .ofCallStart b ∧ r.method = "" ∧ r.service = "" ∧ r.dataChClosed = false ∧
      ((err = some (.new "data channel was full, expected empty") ∧
          r' = { r with method := b.rpcMethod, service := b.rpcService }) ∨
        err = none ∧ ∃ ch : Chan Bytes,
          ch.sent = r.dataCh.sent ++ (if b.data = [] then [] else [b.data]) ∧
          r' = { r with method := b.rpcMethod, service := b.rpcService, dataCh := ch,
                        invoked := r.invoked + 1 })) ∨
    (∃ b, pkt = .ofCallData b ∧ r.dataChClosed = false ∧ err = none ∧
      ∃ (ch : Chan Bytes) (ce : Option GoError) (dc cl : Bool),
      ch.sent = r.dataCh.sent ++ (if b.data = [] then [] else [b.data]) ∧
      r' = { r with clientErr := ce, dataChClosed := dc, dataCh := { ch with closed := cl } }) := by
  rcases mem_handlePacket ho with ⟨_, h⟩ | ⟨b, rfl, -, h⟩ | ⟨b, rfl, h⟩
  · cases h; exact .inl rfl
  · rcases handleCallStart_cases r b with ⟨-, _, h'⟩ | ⟨hm, hs, hc, ⟨-, h'⟩ | h' | ⟨ch, hch, -, h'⟩⟩ <;>
      rw [h'] at h <;> cases h
    · exact .inl rfl
    · exact .inr (.inl ⟨b, rfl, hm, hs, hc, .inl ⟨rfl, rfl⟩⟩)
    · exact .inr (.inl ⟨b, rfl, hm, hs, hc, .inr ⟨rfl, ch, hch, rfl⟩⟩)
  · rcases mem_handleCallData h with ⟨-, h⟩ | ⟨-, h⟩ | ⟨-, -, h⟩ | ⟨hc, ch, hch, -, h⟩
    · cases h; exact .inl rfl
    · cases h; exact .inl rfl
    · cases h
    · obtain ⟨rfl, ce, dc, cl, rfl⟩ := completeCallData_frame h.symm
      exact .inr (.inr ⟨b, rfl, hc, rfl, ch, ce, dc, cl, hch, rfl⟩)

theorem step_of_dataChClosed (hc : r.dataChClosed = true) (ho : .ret err r' ∈ step r e) :
    r'.dataChClosed = true ∧ r'.clientErr = r.clientErr ∧ r'.dataCh.sent = r.dataCh.sent := by
  rcases e with pkt | _ | _ | _ | _
  · rcases ret_mem_handlePacket ho with rfl | ⟨-, -, -, -, hc', -⟩ | ⟨-, -, hc', -⟩
    · exact ⟨hc, rfl, rfl⟩
    all_goals simp [hc] at hc'
  all_goals
    obtain ⟨_, _, h, -, -, h1, h2, -, h3, -⟩ := step_frame (fun _ => by simp) ho
    cases h
    exact ⟨h1 ▸ hc, h2, h3⟩

theorem handlePacket_of_dataChClosed (hc : r.dataChClosed = true) {pkt : Packet}
    (hp : (∃ b, pkt = .ofCallStart b) ∨ ∃ b, pkt = .ofCallData b) :
    ∀ o ∈ handlePacket r pkt, ∃ err, o = .ret (some err) r := by
  rcases hp with ⟨b, rfl⟩ | ⟨b, rfl⟩
  · rw [handlePacket_ofCallStart]
    split_ifs
    · simp
    · rcases handleCallStart_cases r b with ⟨-, err, h⟩ | ⟨-, -, hc', -⟩
      · simp [h]
      · simp [hc] at hc'
  · simp [handleCallData, hc]

/-- `ServerRPC` never sends on or re-closes a closed `dataCh`, and once a `CallData` has completed
the call every later `CallStart` and `CallData` is rejected and changes nothing. -/
theorem serverRPC_closes_dataCh_once (hr : Reachable r) :
    r.dataChClosed = r.dataCh.closed ∧ (∀ e, Outcome.panic ∉ step r e) ∧
    (∀ b : CallData, (b.complete = true ∨ b.error ≠ "") →
      ∀ r', .ret none r' ∈ handlePacket r (.ofCallData b) → r'.dataChClosed = true) ∧
    (r.dataChClosed = true →
      (∀ e err r', .ret err r' ∈ step r e → r'.dataChClosed = true ∧ r'.dataCh.sent = r.dataCh.sent) ∧
      ∀ pkt, ((∃ b, pkt = .ofCallStart b) ∨ ∃ b, pkt = .ofCallData b) →
        ∀ o ∈ handlePacket r pkt, ∃ err, o = .ret (some err) r) := by
  have hi := hr.inv
  refine ⟨hi.closed_eq, fun e ho => ?_, fun b hb r' ho => handlePacket_completes hi hb ho,
    fun hc => ⟨fun e err r' ho => (step_of_dataChClosed hc ho).imp_right And.right,
      fun pkt hp => handlePacket_of_dataChClosed hc hp⟩⟩
  obtain ⟨_, _, h, -⟩ := step_inv hi ho
  cases h

/-- `serverRPC_closes_dataCh_once` after a `CallStart`, and after a `CallData` that completes the
call. -/
theorem serverRPC_closes_dataCh_once_echo :
    ∃ r₁ r₂, handlePackets newServerRPC [.ofCallStart ⟨"echo.Echoer", "Echo", [], false⟩] =
        some ([none], r₁) ∧ handlePackets r₁ [.ofCallData ⟨[1], false, true, ""⟩] = some ([none], r₂) ∧
      r₁.dataChClosed = false ∧ r₂.dataChClosed = true ∧
      (r₁.dataChClosed = r₁.dataCh.closed ∧ (∀ e, Outcome.panic ∉ step r₁ e) ∧
        (∀ b : CallData, (b.complete = true ∨ b.error ≠ "") →
          ∀ r', .ret none r' ∈ handlePacket r₁ (.ofCallData b) → r'.dataChClosed = true) ∧
        (r₁.dataChClosed = true →
          (∀ e err r', .ret err r' ∈ step r₁ e →
            r'.dataChClosed = true ∧ r'.dataCh.sent = r₁.dataCh.sent) ∧
          ∀ pkt, ((∃ b, pkt = .ofCallStart b) ∨ ∃ b, pkt = .ofCallData b) →
            ∀ o ∈ handlePacket r₁ pkt, ∃ err, o = .ret (some err) r₁)) ∧
      (r₂.dataChClosed = r₂.dataCh.closed ∧ (∀ e, Outcome.panic ∉ step r₂ e) ∧
        (∀ b : CallData, (b.complete = true ∨ b.error ≠ "") →
          ∀ r', .ret none r' ∈ handlePacket r₂ (.ofCallData b) → r'.dataChClosed = true) ∧
        (r₂.dataChClosed = true →
          (∀ e err r', .ret err r' ∈ step r₂ e →
            r'.dataChClosed = true ∧ r'.dataCh.sent = r₂.dataCh.sent) ∧
          ∀ pkt, ((∃ b, pkt = .ofCallStart b) ∨ ∃ b, pkt = .ofCallData b) →
            ∀ o ∈ handlePacket r₂ pkt, ∃ err, o = .ret (some err) r₂)) :=
  have h₁ := Reachable.init.handlePackets [.ofCallStart ⟨"echo.Echoer", "Echo", [], false⟩] rfl
  ⟨_, _, rfl, rfl, rfl, rfl, serverRPC_closes_dataCh_once h₁,
    serverRPC_closes_dataCh_once (h₁.handlePackets [.ofCallData ⟨[1], false, true, ""⟩] rfl)⟩

/-! ### One start -/

theorem step_of_named (hn : r.service ≠ "" ∨ r.method ≠ "") (ho : .ret err r' ∈ step r e) :
    r'.service = r.service ∧ r'.method = r.method ∧ r'.invoked = r.invoked := by
  rcases e with pkt | _ | _ | _ | _
  · rcases ret_mem_handlePacket ho with rfl | ⟨-, -, hm, hs, -⟩ | ⟨-, -, -, -, -, -, -, -, -, rfl⟩
    · exact ⟨rfl, rfl, rfl⟩
    · simp [hm, hs] at hn
    · exact ⟨rfl, rfl, rfl⟩
  all_goals
    obtain ⟨_, _, h, h1, h2, -, -, h3, -⟩ := step_frame (fun _ => by simp) ho
    cases h
    exact ⟨h1, h2, h3⟩

theorem handlePacket_callStart_of_named (hn : r.service ≠ "" ∨ r.method ≠ "") (b : CallStart) :
    ∀ o ∈ handlePacket r (.ofCallStart b), ∃ err, o = .ret (some err) r := by
  rw [handlePacket_ofCallStart]
  split_ifs
  · simp
  · rcases handleCallStart_cases r b with ⟨-, err, h⟩ | ⟨hm, hs, -⟩
    · simp [h]
    · simp [hm, hs] at hn

theorem handlePacket_callStart_accepted (hi : Inv r) {b : CallStart}
    (ho : .ret none r' ∈ handlePacket r (.ofCallStart b)) :
    r'.service = b.rpcService ∧ r'.method = b.rpcMethod ∧ r'.invoked = 1 := by
  rw [handlePacket_ofCallStart] at ho
  split_ifs at ho
  · simp at ho
  rcases handleCallStart_cases r b with ⟨-, err, h⟩ | ⟨hm, hs, -, ⟨-, h⟩ | h | ⟨ch, -, -, h⟩⟩ <;>
    rw [h, List.mem_singleton] at ho <;> cases ho
  exact ⟨rfl, rfl, by simp [hi.invoked_eq_zero hm hs]⟩

/-- Exactly one start: `invokeRPC` starts only at the `CallStart` that names the call, and the
name it reads never changes after. -/
theorem serverRPC_starts_once (hr : Reachable r) :
    r.invoked ≤ 1 ∧ (0 < r.invoked → r.service ≠ "" ∨ r.method ≠ "") ∧
    (∀ b r', .ret none r' ∈ handlePacket r (.ofCallStart b) →
      r'.service = b.rpcService ∧ r'.method = b.rpcMethod ∧ r'.invoked = 1) ∧
    (r.service ≠ "" ∨ r.method ≠ "" →
      (∀ e err r', .ret err r' ∈ step r e →
        r'.service = r.service ∧ r'.method = r.method ∧ r'.invoked = r.invoked) ∧
      ∀ b, ∀ o ∈ handlePacket r (.ofCallStart b), ∃ err, o = .ret (some err) r) :=
  ⟨hr.inv.invoked_le_one, hr.inv.named_of_invoked, fun _ _ ho => handlePacket_callStart_accepted hr.inv ho,
    fun hn => ⟨fun _ _ _ ho => step_of_named hn ho, handlePacket_callStart_of_named hn⟩⟩

/-- `serverRPC_starts_once` before and after the `CallStart` that names the call. -/
theorem serverRPC_starts_once_echo :
    ∃ r, handlePackets newServerRPC [.ofCallStart ⟨"echo.Echoer", "Echo", [], false⟩] =
        some ([none], r) ∧ r.service = "echo.Echoer" ∧ r.method = "Echo" ∧ r.invoked = 1 ∧
      (newServerRPC.invoked ≤ 1 ∧ (0 < newServerRPC.invoked → newServerRPC.service ≠ "" ∨ newServerRPC.method ≠ "") ∧
      (∀ b r', .ret none r' ∈ handlePacket newServerRPC (.ofCallStart b) →
        r'.service = b.rpcService ∧ r'.method = b.rpcMethod ∧ r'.invoked = 1) ∧
      (newServerRPC.service ≠ "" ∨ newServerRPC.method ≠ "" →
        (∀ e err r', .ret err r' ∈ step newServerRPC e →
          r'.service = newServerRPC.service ∧ r'.method = newServerRPC.method ∧ r'.invoked = newServerRPC.invoked) ∧
        ∀ b, ∀ o ∈ handlePacket newServerRPC (.ofCallStart b), ∃ err, o = .ret (some err) newServerRPC)) ∧
      (r.invoked ≤ 1 ∧ (0 < r.invoked → r.service ≠ "" ∨ r.method ≠ "") ∧
      (∀ b r', .ret none r' ∈ handlePacket r (.ofCallStart b) →
        r'.service = b.rpcService ∧ r'.method = b.rpcMethod ∧ r'.invoked = 1) ∧
      (r.service ≠ "" ∨ r.method ≠ "" →
        (∀ e err r', .ret err r' ∈ step r e →
          r'.service = r.service ∧ r'.method = r.method ∧ r'.invoked = r.invoked) ∧
        ∀ b, ∀ o ∈ handlePacket r (.ofCallStart b), ∃ err, o = .ret (some err) r)) :=
  have h := Reachable.init.handlePackets [.ofCallStart ⟨"echo.Echoer", "Echo", [], false⟩] rfl
  ⟨_, rfl, rfl, rfl, rfl, serverRPC_starts_once .init, serverRPC_starts_once h⟩

/-! ### Runs from a reachable state -/

/-- One event that returns, leading from `r` to `r'`. -/
def Step (r r' : ServerRPC) : Prop := ∃ e err, .ret err r' ∈ step r e

/-- The run lemma of `step_of_dataChClosed`. -/
theorem steps_of_dataChClosed (hc : r.dataChClosed = true) (h : Relation.ReflTransGen Step r r') :
    r'.dataChClosed = true ∧ r'.clientErr = r.clientErr ∧ r'.dataCh.sent = r.dataCh.sent := by
  induction h with
  | refl => exact ⟨hc, rfl, rfl⟩
  | tail _ hs ih =>
    obtain ⟨e, err, ho⟩ := hs
    obtain ⟨h1, h2, h3⟩ := step_of_dataChClosed ih.1 ho
    exact ⟨h1, h2.trans ih.2.1, h3.trans ih.2.2⟩

/-! ### Where the code departs from the spec -/

/-- `HandleCallStart` and `HandleCallData` never read `dataIsZero`: a packet with empty `data`
sends nothing on `dataCh`. -/
theorem handlePacket_empty_data_sends_nothing {pkt : Packet}
    (hd : (∃ b : CallStart, pkt = .ofCallStart b ∧ b.data = []) ∨
      ∃ b : CallData, pkt = .ofCallData b ∧ b.data = [])
    (ho : .ret err r' ∈ handlePacket r pkt) : r'.dataCh.sent = r.dataCh.sent := by
  rcases ret_mem_handlePacket ho with rfl | ⟨b, rfl, -, -, -, ⟨-, rfl⟩ | ⟨-, ch, hs, rfl⟩⟩ |
      ⟨b, rfl, -, -, ch, ce, dc, cl, hs, rfl⟩
  · rfl
  · rfl
  all_goals
    simp [Packet.ofCallStart, Packet.ofCallData] at hd
    simp [hs, hd]

theorem handlePackets_sent_of_empty (pkts : List Packet) {errs : List (Option GoError)}
    (hd : ∀ pkt ∈ pkts, (∃ b : CallStart, pkt = .ofCallStart b ∧ b.data = []) ∨
      ∃ b : CallData, pkt = .ofCallData b ∧ b.data = [])
    (h : handlePackets r pkts = some (errs, r')) : r'.dataCh.sent = r.dataCh.sent := by
  induction pkts generalizing r errs with
  | nil => cases h; rfl
  | cons pkt pkts ih =>
    obtain ⟨err, r₁, h₁, _, hp⟩ := handlePackets_cons_eq_some h
    exact (ih (fun p hp' => hd p (.tail _ hp')) hp).trans
      (handlePacket_empty_data_sends_nothing (hd pkt (.head _)) h₁)

/-- The failing input of the spec's empty-message rule: a zero-length first message on the
`CallStart` and another on a completing `CallData`; both are accepted, yet nothing is sent. -/
theorem handlePackets_drop_zero_length_messages :
    ∃ r, handlePackets newServerRPC
        [.ofCallStart ⟨"echo.Echoer", "Echo", [], true⟩, .ofCallData ⟨[], true, true, ""⟩] =
        some ([none, none], r) ∧
      r.invoked = 1 ∧ r.dataChClosed = true ∧ r.dataCh.sent = [] :=
  ⟨_, rfl, rfl, rfl, handlePackets_sent_of_empty (r := newServerRPC)
    [.ofCallStart ⟨"echo.Echoer", "Echo", [], true⟩, .ofCallData ⟨[], true, true, ""⟩]
    (by simp [Packet.ofCallStart, Packet.ofCallData]) rfl⟩

/-- `HandleCallData` never asks whether a `CallStart` has been accepted: with room on an open
`dataCh`, a `CallData` with data is queued whatever the call's name. -/
theorem handleCallData_queues (hc : r.dataChClosed = false) (hch : r.dataCh.closed = false)
    (hctx : r.ctxDone = false) (hroom : r.dataCh.len < r.dataCh.cap) {b : CallData}
    (hd : b.data ≠ []) (hb : b.complete = false) (he : b.error = "") :
    ∃ ch : Chan Bytes, ch.sent = r.dataCh.sent ++ [b.data] ∧
      handleCallData r b = [.ret none { r with dataCh := ch }] := by
  obtain ⟨ch, hs, hsent⟩ := Chan.send_of_room b.data hch hroom
  exact ⟨ch, hsent, by simp [handleCallData, hc, hd, hctx, hs, completeCallData_of_open _ hb he]⟩

/-- The failing input of the rule that `CallStart` comes first: a `CallData` before any
`CallStart` is accepted, and its data queued for a handler that does not exist yet. -/
theorem handlePacket_accepts_data_before_start :
    ∃ r, handlePacket newServerRPC (.ofCallData ⟨[1], false, false, ""⟩) = [.ret none r] ∧
      r.service = "" ∧ r.method = "" ∧ r.invoked = 0 ∧ r.dataCh.sent = [[1]] := by
  obtain ⟨ch, hs, h⟩ := handleCallData_queues (r := newServerRPC) (b := ⟨[1], false, false, ""⟩)
    rfl rfl rfl (by decide) (by decide) rfl rfl
  exact ⟨_, h, rfl, rfl, rfl, hs⟩

/-- The failing input of error atomicity: five `CallData` before any `CallStart` fill `dataCh`,
so the `CallStart` that follows fails, yet leaves its service and method recorded. -/
theorem handlePacket_full_channel_records_call :
    ∃ r, handlePackets newServerRPC (List.replicate 5 (.ofCallData ⟨[1], false, false, ""⟩)) =
        some (List.replicate 5 none, r) ∧ Reachable r ∧ r.service = "" ∧ r.method = "" ∧
      handlePacket r (.ofCallStart ⟨"echo.Echoer", "Echo", [2], false⟩) =
        [.ret (some (.new "data channel was full, expected empty"))
          { r with service := "echo.Echoer", method := "Echo" }] ∧ r.invoked = 0 :=
  ⟨_, rfl, Reachable.init.handlePackets (List.replicate 5 (.ofCallData ⟨[1], false, false, ""⟩)) rfl,
    rfl, rfl, rfl, rfl⟩

/-- The failing inputs of the writer's single close, from `Close` reading `r.service == ""` as
"`invokeRPC` was not started": the writer is closed twice, or never. -/
theorem close_closes_writer_twice_or_never :
    (∃ r, handlePacket newServerRPC (.ofCallStart ⟨"", "Echo", [], false⟩) = [.ret none r] ∧
      r.invoked = 1 ∧ r.invokeReturned = 0 ∧ (invokeRPCReturn (close r)).writerCloses = 2) ∧
    ∃ r, handlePackets newServerRPC (List.replicate 5 (.ofCallData ⟨[1], false, false, ""⟩) ++
        [.ofCallStart ⟨"echo.Echoer", "Echo", [2], false⟩]) =
        some (List.replicate 5 none ++ [some (.new "data channel was full, expected empty")], r) ∧
      r.invoked = 0 ∧ (close r).writerCloses = 0 :=
  ⟨⟨_, rfl, rfl, rfl, rfl⟩, ⟨_, rfl, rfl, rfl⟩⟩

end ServerRPC

end Starpc
