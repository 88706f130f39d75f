import Starpc.RpcStream.ReadWriter

/-!
# What one `Read` does

`readLoop` follows `Read`'s `for` loop step by step. Here it is related to a description of a
whole call: a `Read` with room for at least one byte copies from the buffer if the buffer
holds any and touches nothing else; otherwise it skips the packets that carry nothing for it
(`RpcStreamPacket.IsFiller`), and acts on the first one that does: an `Ack` error is
returned, a `Data` packet is copied as far as it fits and the rest is buffered. When the
packets run out, `Recv`'s error is returned.

* `RpcStreamReadWriter.recvSpec` and `RpcStreamReadWriter.readSpec`, that description;
* `read_eq_readSpec`: `read` computes `readSpec` whenever `p` is not empty;
* `read_progress`: such a `Read` returns at most `len(p)` bytes, and some byte or an error;
  it receives only while it has copied nothing, so it consumes fillers and then at most one
  packet, from which all the bytes it returns come.
-/

namespace Starpc

instance (pkt : RpcStreamPacket) : Decidable pkt.IsFiller := inferInstanceAs (Decidable (_ ∧ _))

/-- An `Ack` with an error carries no data. -/
theorem RpcStreamPacket.getData_of_getAckError {pkt : RpcStreamPacket} (h : pkt.getAckError ≠ "") :
    pkt.getData = [] := by
  rcases pkt with ⟨_ | _ | _ | _⟩ <;> simp_all [RpcStreamPacket.getAckError, RpcStreamPacket.getData]

namespace RpcStreamReadWriter

/-- A `Read` that finds the buffer empty: the first packet that is not a filler decides the
result. -/
def recvSpec (r : RpcStreamReadWriter) (len : Nat) : Bytes × Option String × RpcStreamReadWriter :=
  match r.stream.incoming.dropWhile (fun p => decide p.IsFiller) with
  | [] => ([], some r.stream.recvErr, { r with stream := { r.stream with incoming := [] } })
  | pkt :: rest =>
    if pkt.getAckError ≠ "" then
      ([], some pkt.getAckError, { r with stream := { r.stream with incoming := rest } })
    else
      (pkt.getData.take len, none,
        { stream := { r.stream with incoming := rest }, buf := pkt.getData.drop len })

/-- A `Read` of `len` bytes: from the buffer if it holds any, else as `recvSpec`. -/
def readSpec (r : RpcStreamReadWriter) (len : Nat) : Bytes × Option String × RpcStreamReadWriter :=
  if r.buf ≠ [] then (r.buf.take len, none, { r with buf := r.buf.drop len }) else r.recvSpec len

/-! ### The loop against the description -/

variable {room : Nat} {out : Bytes} {r : RpcStreamReadWriter}

/-- Once some byte is copied and the buffer is empty, the loop ends. -/
theorem readLoop_of_out_ne_nil (hb : r.buf = []) (hn : out ≠ []) :
    readLoop room out r = (out, none, r) := by
  by_cases h0 : room = 0
  · rw [h0, readLoop_zero]
  · exact readLoop_copied h0 (by simp [hb]) (by simpa using hn)

/-- With an empty buffer, the loop receives until a packet is not a filler. -/
theorem readLoop_of_buf_nil (hb : r.buf = []) (h0 : 0 < room) :
    readLoop room [] r = r.recvSpec room := by
  have hroom : ¬room = 0 := by omega
  generalize hl : r.stream.incoming = l
  induction l generalizing r with
  | nil =>
    rw [readLoop_of_recv_error hroom (by simp [hb]) (by simp) (RpcStream.recv_of_nil hl)]
    simp [recvSpec, hl]
  | cons pkt rest ih =>
    have hr := RpcStream.recv_of_cons hl
    by_cases ha : pkt.getAckError ≠ ""
    · rw [readLoop_of_recv_ack hroom (by simp [hb]) (by simp) hr ha]
      simp [recvSpec, hl, ha, RpcStreamPacket.IsFiller]
    by_cases hd : pkt.getData.length = 0
    · rw [readLoop_of_recv_empty hroom (by simp [hb]) (by simp) hr ha hd,
        @ih { r with stream := { r.stream with incoming := rest } } hb rfl]
      simp_all [recvSpec, RpcStreamPacket.IsFiller]
    by_cases hlt : pkt.getData.length > room
    · rw [readLoop_of_recv_long hroom (by simp [hb]) (by simp) hr ha hd hlt, readLoop_zero]
      simp_all [recvSpec, RpcStreamPacket.IsFiller]
    · rw [readLoop_of_recv_fits hroom (by simp [hb]) (by simp) hr ha hd hlt, List.nil_append,
        @readLoop_of_out_ne_nil _ _ { r with stream := { r.stream with incoming := rest } } hb
          (by simpa using hd)]
      simp_all [recvSpec, RpcStreamPacket.IsFiller]

/-- A `Read` into a non-empty `p` does what `readSpec` describes. -/
theorem read_eq_readSpec (h0 : 0 < room) : r.read room = r.readSpec room := by
  unfold read readSpec
  by_cases hb : r.buf = []
  · rw [if_neg (not_not.mpr hb), readLoop_of_buf_nil hb h0]
  have hlen := List.length_pos.mpr hb
  rw [if_pos hb, readLoop_buffered (by omega) (by omega), List.nil_append]
  by_cases hz : room - min room r.buf.length = 0
  · rw [hz, readLoop_zero]
  · have hlt : r.buf.length < room := by
      by_contra h
      exact hz (by rw [Nat.min_eq_left (by omega)]; omega)
    exact readLoop_of_out_ne_nil (List.drop_eq_nil_of_le hlt.le) (by simp [hb]; omega)

/-! ### Progress -/

/-- A `Read` with room for a byte returns at most `len` bytes, and some byte or an error. With
bytes buffered it does not touch the stream; with none, it consumes a run of fillers and then
at most one packet, and the bytes it returns are the first of that packet's data. -/
theorem read_progress (r : RpcStreamReadWriter) (len : Nat) (hlen : 0 < len) :
    let res := r.read len
    res.1.length ≤ len ∧ (res.1 ≠ [] ∨ res.2.1.isSome) ∧ (r.buf ≠ [] → res.2.2.stream = r.stream) ∧
      ∃ skipped last, r.stream.incoming = skipped ++ last ++ res.2.2.stream.incoming ∧
        (∀ p ∈ skipped, p.IsFiller) ∧ last.length ≤ 1 ∧
        (r.buf = [] → res.1 = (dataOf last).take len) := by
  intro res
  rw [show res = r.readSpec len from read_eq_readSpec hlen]
  unfold readSpec
  by_cases hb : r.buf = []
  case neg =>
    rw [if_pos hb]
    refine ⟨List.length_take_le _ _, .inl ?_, fun _ => rfl, [], [], by simp, by simp, by simp,
      by simp [hb]⟩
    simpa [List.take_eq_nil_iff, hb] using hlen.ne'
  rw [if_neg (not_not.mpr hb)]
  unfold recvSpec
  have hsplit := List.takeWhile_append_dropWhile (fun p => decide p.IsFiller) r.stream.incoming
  have hskip : ∀ p ∈ r.stream.incoming.takeWhile (fun p => decide p.IsFiller), p.IsFiller :=
    fun p hp => by simpa using List.mem_takeWhile_imp hp
  split
  · next hd =>
    exact ⟨by simp, by simp, by simp [hb], _, [], by simpa [hd] using hsplit.symm, hskip,
      by simp, by simp⟩
  · next pkt rest hd =>
    have hpkt : ¬pkt.IsFiller := by
      simpa [hd] using
        List.head_dropWhile_not (fun p => decide p.IsFiller) r.stream.incoming (by simp [hd])
    have hin : r.stream.incoming =
        r.stream.incoming.takeWhile (fun p => decide p.IsFiller) ++ [pkt] ++ rest := by
      simpa [hd] using hsplit.symm
    split_ifs with ha
    · exact ⟨by simp, by simp [ha], by simp [hb], _, [pkt], hin, hskip, by simp,
        by simp [RpcStreamPacket.getData_of_getAckError ha]⟩
    · have hdata : pkt.getData ≠ [] := fun h => hpkt ⟨not_not.mp ha, h⟩
      refine ⟨List.length_take_le _ _, .inl ?_, by simp [hb], _, [pkt], hin, hskip, by simp,
        by simp⟩
      simpa [List.take_eq_nil_iff, hdata] using hlen.ne'

end RpcStreamReadWriter

/-- An `Init` before a `Data` packet of three bytes, read two at a time. -/
theorem read_progress_after_init :
    let r : RpcStreamReadWriter := ⟨⟨[⟨some (.init "echo")⟩, ⟨some (.data [1, 2, 3])⟩], "EOF", [], none⟩, []⟩
    0 < 2 ∧ (let res := r.read 2
      res.1.length ≤ 2 ∧ (res.1 ≠ [] ∨ res.2.1.isSome) ∧ (r.buf ≠ [] → res.2.2.stream = r.stream) ∧
        ∃ skipped last, r.stream.incoming = skipped ++ last ++ res.2.2.stream.incoming ∧
          (∀ p ∈ skipped, p.IsFiller) ∧ last.length ≤ 1 ∧
          (r.buf = [] → res.1 = (dataOf last).take 2)) :=
  ⟨by decide, RpcStreamReadWriter.read_progress _ 2 (by decide)⟩

end Starpc
