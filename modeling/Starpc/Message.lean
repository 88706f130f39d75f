import Starpc.Packet

/-!
# `RawMessage`: a message that is its own bytes

`srpc/message.go`. A `RawMessage` holds a byte slice and a `copy` flag. Without `copy` it hands
out and keeps the very slices it is given. With `copy`, `MarshalVT` returns a fresh copy, and
`SetData` (so `UnmarshalVT`) copies the bytes it is given into its own slice, reusing that
slice's array when it has the capacity.

What these functions do is a matter of which arrays slices share, so the model has a heap. A Go
`[]byte` is a view of an array: the array, an offset into it, a length and a capacity. The heap
maps addresses to arrays, and a slice holds `(array.drop off).take len`. A nil slice is a slice
of capacity `0`, here of an empty array of its own.

* `Slice`, `Heap`, `Heap.read`, `Heap.make` (`make([]byte, n)`), `Heap.write` and `Heap.copy`
  (the built-in `copy`, which reads its source before it writes, as `memmove` does);
* `RawMessage` with `setData`, `marshalVT` and `unmarshalVT`;
* `unmarshalVT_marshalVT`: `MarshalVT` after `UnmarshalVT(data)` returns the bytes `data` held,
  in either mode, even when `data` lies in the message's own array;
* `setData_copy_isolated`: in `copy` mode `SetData` writes into the message's own array in
  place when it has the capacity and into a new array otherwise, and afterwards no write
  through the caller's slice, or through the slice `MarshalVT` returns, changes the message's
  bytes.
-/

namespace Starpc

/-- A Go slice `[]byte`: its array's address, its offset in that array, its length and its
capacity. -/
structure Slice where
  arr : Nat
  off : Nat
  len : Nat
  cap : Nat
  deriving DecidableEq, Repr

/-- The arrays of the heap, by address; `next` is the first address not yet allocated. -/
structure Heap where
  arrays : Nat → Bytes
  next : Nat

/-- A slice the program can hold in `h`: its array is allocated, and its capacity lies inside
it. -/
structure Slice.Valid (h : Heap) (s : Slice) : Prop where
  arr_lt : s.arr < h.next
  len_le : s.len ≤ s.cap
  cap_le : s.off + s.cap ≤ (h.arrays s.arr).length

namespace Heap

/-- The bytes `s` holds. -/
def read (h : Heap) (s : Slice) : Bytes := ((h.arrays s.arr).drop s.off).take s.len

/-- `make([]byte, n)`: a new zeroed array, and the slice of all of it. -/
def make (h : Heap) (n : Nat) : Heap × Slice :=
  ({ arrays := Function.update h.arrays h.next (List.replicate n 0), next := h.next + 1 },
    ⟨h.next, 0, n, n⟩)

/-- The bytes `bs` stored at the start of `s`. -/
def write (h : Heap) (s : Slice) (bs : Bytes) : Heap :=
  let a := h.arrays s.arr
  { h with arrays := Function.update h.arrays s.arr (a.take s.off ++ bs ++ a.drop (s.off + bs.length)) }

/-- `copy(dst, src)`: the first `min(len(dst), len(src))` bytes of `src`, all read before any
is written. -/
def copy (h : Heap) (dst src : Slice) : Heap := h.write dst ((h.read src).take (min dst.len src.len))

variable {h : Heap} {s d : Slice}

theorem read_length (hv : s.Valid h) : (h.read s).length = s.len := by
  have := hv.len_le
  have := hv.cap_le
  simp only [read, List.length_take, List.length_drop]
  omega

/-! ### `make` -/

theorem make_arrays_of_lt {a : Nat} (ha : a < h.next) (n : Nat) : (h.make n).1.arrays a = h.arrays a :=
  Function.update_noteq (by omega) _ _

theorem read_make (hv : s.Valid h) (n : Nat) : (h.make n).1.read s = h.read s := by
  simp only [read, make_arrays_of_lt hv.arr_lt]

theorem valid_make (h : Heap) (n : Nat) : (h.make n).2.Valid (h.make n).1 :=
  ⟨Nat.lt_succ_self _, le_refl n, by simp [make]⟩

/-! ### `write` and `copy` -/

theorem write_arrays_ne {a : Nat} (hne : a ≠ d.arr) (bs : Bytes) : (h.write d bs).arrays a = h.arrays a :=
  Function.update_noteq hne _ _

/-- A write through one array leaves every slice of another as it was. -/
theorem read_write_ne (hne : s.arr ≠ d.arr) (bs : Bytes) : (h.write d bs).read s = h.read s := by
  simp only [read, write_arrays_ne hne]

/-- A write that fills `d` leaves `d` holding what was written. -/
theorem read_write_self (hd : d.Valid h) {bs : Bytes} (hl : bs.length = d.len) :
    (h.write d bs).read d = bs := by
  have := hd.len_le
  have := hd.cap_le
  simp only [read, write, Function.update_same]
  rw [List.append_assoc, List.drop_left' (by simp; omega), List.take_left' hl]

theorem write_length (hd : d.Valid h) {bs : Bytes} (hl : bs.length ≤ d.cap) (a : Nat) :
    ((h.write d bs).arrays a).length = (h.arrays a).length := by
  have := hd.cap_le
  by_cases ha : a = d.arr
  · subst ha
    simp only [write, Function.update_same, List.length_append, List.length_take, List.length_drop]
    omega
  · rw [write_arrays_ne ha]

theorem copy_length_le (dst src : Slice) (hd : dst.Valid h) :
    ((h.read src).take (min dst.len src.len)).length ≤ dst.cap := by
  have := hd.len_le
  simp only [List.length_take]
  omega

/-- `copy` between slices of one length leaves `dst` holding what `src` held, also when the two
overlap. -/
theorem read_copy_self {dst src : Slice} (hd : dst.Valid h) (hs : src.Valid h) (hl : dst.len = src.len) :
    (h.copy dst src).read dst = h.read src := by
  have hr := read_length hs
  rw [copy, hl, Nat.min_self, ← hr, List.take_length]
  exact read_write_self hd (hr.trans hl.symm)

end Heap

/-! ### The heap operations keep slices valid -/

namespace Slice.Valid

variable {h : Heap} {s d : Slice}

theorem make (hv : s.Valid h) (n : Nat) : s.Valid (h.make n).1 :=
  ⟨Nat.lt_succ_of_lt hv.arr_lt, hv.len_le, Heap.make_arrays_of_lt hv.arr_lt n ▸ hv.cap_le⟩

theorem write (hv : s.Valid h) (hd : d.Valid h) {bs : Bytes} (hl : bs.length ≤ d.cap) :
    s.Valid (h.write d bs) :=
  ⟨hv.arr_lt, hv.len_le, (Heap.write_length hd hl s.arr).symm ▸ hv.cap_le⟩

theorem copy (hv : s.Valid h) {dst src : Slice} (hd : dst.Valid h) : s.Valid (h.copy dst src) :=
  hv.write hd (Heap.copy_length_le dst src hd)

end Slice.Valid

/-- `RawMessage`. -/
structure RawMessage where
  data : Slice
  copy : Bool
  deriving DecidableEq, Repr

namespace RawMessage

/-- `NewRawMessage(data, copy)`: the buffer is retained as it is. -/
def newRawMessage (data : Slice) (copy : Bool) : RawMessage := ⟨data, copy⟩

/-- `GetData()`, without copying. -/
def getData (m : RawMessage) : Slice := m.data

/-- `SetData(data)`. -/
def setData (m : RawMessage) (h : Heap) (data : Slice) : Heap × RawMessage :=
  if m.copy then
    let (h, dst) := if m.data.cap ≥ data.len then (h, { m.data with len := data.len })
      else h.make data.len
    (h.copy dst data, { m with data := dst })
  else (h, { m with data := data })

/-- `MarshalVT()`; it never fails. -/
def marshalVT (m : RawMessage) (h : Heap) : Heap × Slice :=
  if !m.copy then (h, m.data)
  else
    let (h, data) := h.make m.data.len
    (h.copy data m.data, data)

/-- `UnmarshalVT(data)`: `SetData(data)`; it never fails. -/
def unmarshalVT (m : RawMessage) (h : Heap) (data : Slice) : Heap × RawMessage := m.setData h data

variable {m : RawMessage} {h : Heap} {d : Slice}

@[simp] theorem setData_copy (m : RawMessage) (h : Heap) (d : Slice) : (m.setData h d).2.copy = m.copy := by
  unfold setData
  split_ifs <;> rfl

theorem setData_of_not_copy (hc : m.copy = false) (h : Heap) (d : Slice) :
    m.setData h d = (h, { m with data := d }) := by
  simp [setData, hc]

/-- In `copy` mode `SetData` keeps its array when it has the capacity, and otherwise takes a new
one. -/
theorem setData_of_copy (hc : m.copy = true) (h : Heap) (d : Slice) :
    m.setData h d = if d.len ≤ m.data.cap then
        (h.copy { m.data with len := d.len } d, { m with data := { m.data with len := d.len } })
      else ((h.make d.len).1.copy (h.make d.len).2 d, { m with data := (h.make d.len).2 }) := by
  unfold setData
  split_ifs <;> rfl

theorem marshalVT_of_copy (hc : m.copy = true) (h : Heap) :
    m.marshalVT h = ((h.make m.data.len).1.copy (h.make m.data.len).2 m.data, (h.make m.data.len).2) := by
  simp [marshalVT, hc]

/-- After `SetData(data)` the message holds, in a slice it can use, the bytes `data` held. -/
theorem setData_read (hm : m.data.Valid h) (hd : d.Valid h) :
    (m.setData h d).2.data.Valid (m.setData h d).1 ∧
      (m.setData h d).1.read (m.setData h d).2.data = h.read d := by
  cases hc : m.copy
  · rw [setData_of_not_copy hc]
    exact ⟨hd, rfl⟩
  rw [setData_of_copy hc]
  split_ifs with hcap
  · have hv : Slice.Valid h { m.data with len := d.len } := ⟨hm.arr_lt, hcap, hm.cap_le⟩
    exact ⟨hv.copy hv, Heap.read_copy_self hv hd rfl⟩
  · have hv := Heap.valid_make h d.len
    exact ⟨hv.copy hv, (Heap.read_copy_self hv (hd.make _) rfl).trans (Heap.read_make hd _)⟩

/-- `MarshalVT` returns the bytes the message holds. -/
theorem marshalVT_read (hm : m.data.Valid h) : (m.marshalVT h).1.read (m.marshalVT h).2 = h.read m.data := by
  cases hc : m.copy
  · simp [marshalVT, hc]
  · rw [marshalVT_of_copy hc]
    exact (Heap.read_copy_self (Heap.valid_make h _) (hm.make _) rfl).trans (Heap.read_make hm _)

/-- In `copy` mode `MarshalVT` returns a slice of a new array: writes through it never reach the
message. -/
theorem marshalVT_fresh (hc : m.copy = true) (hm : m.data.Valid h) (bs : Bytes) :
    ((m.marshalVT h).1.write (m.marshalVT h).2 bs).read m.data = (m.marshalVT h).1.read m.data := by
  have := hm.arr_lt
  rw [marshalVT_of_copy hc]
  exact Heap.read_write_ne (by simp [Heap.make]; omega) bs

/-- The round trip: whatever the mode, and wherever the slice `data` lies, also inside the
message's own array, `MarshalVT` after `UnmarshalVT(data)` returns the bytes `data` held. -/
theorem unmarshalVT_marshalVT (hm : m.data.Valid h) (hd : d.Valid h) :
    let r := m.unmarshalVT h d
    let o := r.2.marshalVT r.1
    o.1.read o.2 = h.read d := by
  obtain ⟨hv, hr⟩ := setData_read hm hd
  exact (marshalVT_read hv).trans hr

/-- A copying message unmarshalled from the last three bytes of its own array. -/
theorem unmarshalVT_marshalVT_overlap :
    let h : Heap := ⟨fun _ => [1, 2, 3, 4], 1⟩
    let m : RawMessage := ⟨⟨0, 0, 4, 4⟩, true⟩
    let d : Slice := ⟨0, 1, 3, 3⟩
    m.data.Valid h ∧ d.Valid h ∧
      (let r := m.unmarshalVT h d
       let o := r.2.marshalVT r.1
       o.1.read o.2 = h.read d) :=
  have hm : Slice.Valid ⟨fun _ => [1, 2, 3, 4], 1⟩ ⟨0, 0, 4, 4⟩ := ⟨by decide, by decide, by decide⟩
  have hd : Slice.Valid ⟨fun _ => [1, 2, 3, 4], 1⟩ ⟨0, 1, 3, 3⟩ := ⟨by decide, by decide, by decide⟩
  ⟨hm, hd, unmarshalVT_marshalVT hm hd⟩

/-- In `copy` mode, with `data` outside the message's array, `SetData(data)` copies into the
message's own array when it has the capacity and into a new one otherwise; afterwards no write
through `data`, nor through the slice `MarshalVT` returns, changes the message's bytes. -/
theorem setData_copy_isolated (hc : m.copy = true) (hm : m.data.Valid h) (hd : d.Valid h)
    (hne : d.arr ≠ m.data.arr) :
    let r := m.setData h d
    let o := r.2.marshalVT r.1
    r.2.data = (if d.len ≤ m.data.cap then { m.data with len := d.len } else ⟨h.next, 0, d.len, d.len⟩) ∧
      r.1.read r.2.data = h.read d ∧
      (∀ bs, (r.1.write d bs).read r.2.data = r.1.read r.2.data) ∧
      ∀ bs, (o.1.write o.2 bs).read r.2.data = o.1.read r.2.data := by
  intro r o
  obtain ⟨hv, hr⟩ := setData_read hm hd
  have hdata : r.2.data =
      if d.len ≤ m.data.cap then { m.data with len := d.len } else ⟨h.next, 0, d.len, d.len⟩ := by
    simp only [r, setData_of_copy hc]
    split_ifs <;> rfl
  have hsep : r.2.data.arr ≠ d.arr := by
    rw [hdata]
    split_ifs
    · exact hne.symm
    · exact Nat.ne_of_gt hd.arr_lt
  exact ⟨hdata, hr, fun bs => Heap.read_write_ne hsep bs,
    marshalVT_fresh ((setData_copy m h d).trans hc) hv⟩

/-- A copying message with room for four bytes, given three from another array. -/
theorem setData_copy_isolated_in_place :
    let h : Heap := ⟨fun a => if a = 0 then [0, 0, 0, 0] else [7, 8, 9], 2⟩
    let m : RawMessage := ⟨⟨0, 0, 2, 4⟩, true⟩
    let d : Slice := ⟨1, 0, 3, 3⟩
    m.copy = true ∧ m.data.Valid h ∧ d.Valid h ∧ d.arr ≠ m.data.arr ∧
      (let r := m.setData h d
       let o := r.2.marshalVT r.1
       r.2.data = (if d.len ≤ m.data.cap then { m.data with len := d.len }
          else ⟨h.next, 0, d.len, d.len⟩) ∧
         r.1.read r.2.data = h.read d ∧
         (∀ bs, (r.1.write d bs).read r.2.data = r.1.read r.2.data) ∧
         ∀ bs, (o.1.write o.2 bs).read r.2.data = o.1.read r.2.data) :=
  have hm : Slice.Valid ⟨fun a => if a = 0 then [0, 0, 0, 0] else [7, 8, 9], 2⟩ ⟨0, 0, 2, 4⟩ :=
    ⟨by decide, by decide, by decide⟩
  have hd : Slice.Valid ⟨fun a => if a = 0 then [0, 0, 0, 0] else [7, 8, 9], 2⟩ ⟨1, 0, 3, 3⟩ :=
    ⟨by decide, by decide, by decide⟩
  ⟨rfl, hm, hd, by decide, setData_copy_isolated rfl hm hd (by decide)⟩

end RawMessage

end Starpc
