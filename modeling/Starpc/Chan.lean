import Starpc.Packet

/-!
# Go buffered channels

A `chan T` made by `make(chan T, cap)`, with the three operations `ServerRPC` performs on one:
a send from the packet handler, a receive by the RPC's stream, and `close`.

The channel keeps every value ever sent (`sent`) and how many of them the receiver has taken
(`taken`), so the buffer is `sent.drop taken` and `len(c)` is their difference. A send on, or
a close of, a closed channel is a run-time panic in Go; here the operations return the panic as
a result, so that "never panics" is a theorem about their callers rather than an assumption.
`Moves` says what an operation does to the buffer: it appends what it queues, only into free
room, and advances `taken` by what it receives, so `len c ≤ cap` is kept.
-/

namespace Starpc

/-- A Go channel of capacity `cap`. -/
structure Chan (α : Type) where
  cap : Nat
  sent : List α
  taken : Nat
  closed : Bool
  taken_le : taken ≤ sent.length

namespace Chan

variable {α : Type}

/-- `make(chan α, cap)`. -/
def make (cap : Nat) : Chan α := ⟨cap, [], 0, false, le_refl 0⟩

/-- `len(c)`: the number of values in the buffer. -/
def len (c : Chan α) : Nat := c.sent.length - c.taken

/-- What a send `c <- v` does when it is attempted. -/
inductive SendResult (α : Type)
  /-- There is room: `v` is queued. -/
  | sent (c : Chan α)
  /-- The buffer is full: the send waits. -/
  | blocked
  /-- `panic: send on closed channel`. -/
  | panic

/-- The send `c <- v`. -/
def send (c : Chan α) (v : α) : SendResult α :=
  if c.closed then .panic
  else if c.len < c.cap then
    .sent { c with sent := c.sent ++ [v], taken_le := c.taken_le.trans (by simp) }
  else .blocked

/-- `close(c)`; `none` is the panic `close of closed channel`. -/
def close (c : Chan α) : Option (Chan α) :=
  if c.closed then none else some { c with closed := true }

/-- The receiver takes the oldest buffered value, if there is one. -/
def recv (c : Chan α) : Option (Chan α) :=
  if h : c.taken < c.sent.length then some { c with taken := c.taken + 1, taken_le := h } else none

@[simp] theorem make_sent (cap : Nat) : (make cap : Chan α).sent = [] := rfl
@[simp] theorem make_closed (cap : Nat) : (make cap : Chan α).closed = false := rfl

theorem send_eq_sent {c c' : Chan α} {v : α} (h : c.send v = .sent c') :
    c.closed = false ∧ c.len < c.cap ∧ c'.sent = c.sent ++ [v] ∧ c'.closed = false := by
  unfold send at h
  split_ifs at h with h1 h2
  cases h
  simp_all

theorem send_of_room {c : Chan α} (v : α) (h : c.closed = false) (hr : c.len < c.cap) :
    ∃ c', c.send v = .sent c' ∧ c'.sent = c.sent ++ [v] := by
  simp [send, h, hr]

theorem send_eq_panic {c : Chan α} {v : α} (h : c.send v = .panic) : c.closed = true := by
  unfold send at h
  split_ifs at h with h1
  exact h1

theorem close_eq_some {c c' : Chan α} (h : c.close = some c') :
    c.closed = false ∧ c'.sent = c.sent ∧ c'.closed = true := by
  unfold close at h
  split_ifs at h with h1
  cases h
  simp_all

theorem close_of_open {c : Chan α} (h : c.closed = false) : c.close = some { c with closed := true } := by
  simp [close, h]

theorem recv_eq_some {c c' : Chan α} (h : c.recv = some c') :
    c'.sent = c.sent ∧ c'.closed = c.closed := by
  unfold recv at h
  split_ifs at h
  cases h
  exact ⟨rfl, rfl⟩

theorem send_eq_blocked_iff {c : Chan α} {v : α} :
    c.send v = .blocked ↔ c.closed = false ∧ c.cap ≤ c.len := by
  unfold send
  split_ifs with h1 h2 <;> simp_all

/-! ### What an operation does to the buffer -/

/-- `c'` is `c` after the values `q` were queued into free room and the receiver took `k`
values, the capacity unchanged. -/
structure Moves (c c' : Chan α) (q : List α) (k : Nat) : Prop where
  sent : c'.sent = c.sent ++ q
  taken : c'.taken = c.taken + k
  cap : c'.cap = c.cap
  room : q ≠ [] → c.len + q.length ≤ c.cap

theorem Moves.refl (c : Chan α) : Moves c c [] 0 := ⟨by simp, rfl, rfl, fun h => absurd rfl h⟩

/-- Closing or not changes nothing of the buffer. -/
theorem Moves.setClosed {c c' : Chan α} {q : List α} {k : Nat} (h : Moves c c' q k) (b : Bool) :
    Moves c { c' with closed := b } q k :=
  ⟨h.sent, h.taken, h.cap, h.room⟩

theorem send_moves {c c' : Chan α} {v : α} (h : c.send v = .sent c') : Moves c c' [v] 0 := by
  unfold send at h
  split_ifs at h with h1 h2
  cases h
  exact ⟨rfl, rfl, rfl, fun _ => h2⟩

theorem recv_moves {c c' : Chan α} (h : c.recv = some c') : Moves c c' [] 1 := by
  unfold recv at h
  split_ifs at h
  cases h
  exact ⟨by simp, rfl, rfl, fun h => absurd rfl h⟩

/-- A receive frees one slot. -/
theorem recv_len {c c' : Chan α} (h : c.recv = some c') : c'.len + 1 = c.len ∧ c'.cap = c.cap := by
  unfold recv at h
  split_ifs at h with h1
  cases h
  exact ⟨by dsimp only [len]; omega, rfl⟩

/-- An operation that moves the buffer keeps it within the capacity. -/
theorem Moves.len_le {c c' : Chan α} {q : List α} {k : Nat} (h : Moves c c' q k)
    (hc : c.len ≤ c.cap) : c'.len ≤ c'.cap := by
  have := c.taken_le
  by_cases hq : q = []
  · simp only [len, h.sent, h.taken, h.cap, hq, List.append_nil] at hc ⊢
    omega
  · have := h.room hq
    simp only [len, h.sent, h.taken, h.cap, List.length_append] at this ⊢
    omega

end Chan

end Starpc
