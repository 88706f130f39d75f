import Mathlib.Data.List.Basic

/-!
# `it-pushable`: a queue with one reader

The TypeScript `CommonRPC` hands packets and messages on through `pushable()` queues of the
`it-pushable` package, which is not in the repository; the model follows its documented
behaviour. The writer calls `push(v)` and `end(err)`, and the reader's `for await` calls
`next()`, at its own pace. The queue buffers what the reader has not pulled yet, and
`end(err)` with an error clears that buffer: a reader slower than the writer loses the values
still in it.

* `Pushable` with `push`, `end` and the reader's `next`;
* `run`, any interleaving of the writer's `Write`s with the reader's `next()` calls, and
  `seen`, what the reader then gets, reading on to the end;
* `Readable`, what a reader may get of a writer that pushed some values and then ended: all of
  them after a clean end, a prefix of them and the error after an error;
* `seen_iff_readable`: over the interleavings of the reader with given writes, the reader gets
  exactly the outcomes `Readable` allows.
-/

namespace Starpc

/-- An `it-pushable` queue with its reader: the values pushed and not yet pulled, in order, and
how the writer ended it (`none` while open, `some none` cleanly, `some (some msg)` with an error
the reader has not yet been handed). -/
structure Pushable (α : Type) where
  values : List α
  ended : Option (Option String)

namespace Pushable

variable {α : Type}

/-- A new, empty and open queue. -/
def empty : Pushable α := ⟨[], none⟩

/-- `push(v)`, ignored once ended. A reader waiting in `next()` is handed `v` at once, which is
`push` followed by `next`. -/
def push (p : Pushable α) (v : α) : Pushable α :=
  if p.ended.isSome then p else { p with values := p.values ++ [v] }

/-- `end(err)`, ignored once ended. An error clears the values not yet pulled (`bufferError`);
a clean end comes after them. -/
def «end» (p : Pushable α) (err : Option String) : Pushable α :=
  if p.ended.isSome then p
  else match err with
    | none => { p with ended := some none }
    | some msg => ⟨[], some (some msg)⟩

/-- What the reader's `next()` is handed: a value, the clean end, or the error, thrown. -/
inductive Pulled (α : Type)
  | value (v : α)
  | done
  | error (msg : String)
  deriving DecidableEq, Repr

/-- The reader's `next()`: what it is handed, `none` while it waits on an empty open queue. Once
handed the error it finds the queue ended cleanly. -/
def next (p : Pushable α) : Option (Pulled α) × Pushable α :=
  match p.values, p.ended with
  | v :: vs, e => (some (.value v), ⟨vs, e⟩)
  | [], none => (none, p)
  | [], some none => (some .done, p)
  | [], some (some msg) => (some (.error msg), ⟨[], some none⟩)

/-- A write: `push(v)` or `end(err)`. -/
inductive Write (α : Type)
  | push (v : α)
  | «end» (err : Option String)
  deriving DecidableEq, Repr

/-- A write done on the queue. -/
def apply (p : Pushable α) : Write α → Pushable α
  | .push v => p.push v
  | .end err => p.end err

/-- A write, or the reader's `next()`. -/
inductive Event (α : Type)
  | write (w : Write α)
  | next
  deriving DecidableEq, Repr

/-- The writes among `evs`, in order. -/
def writes (evs : List (Event α)) : List (Write α) :=
  evs.filterMap fun
    | .write w => some w
    | .next => none

/-- The queue after `evs`, and what the reader was handed, in order. -/
def run (p : Pushable α) : List (Event α) → Pushable α × List (Pulled α)
  | [] => (p, [])
  | .write w :: evs => (p.apply w).run evs
  | .next :: evs =>
    let r := (p.next).2.run evs
    (r.1, (p.next).1.toList ++ r.2)

/-- What `next()` hands the reader from `p` on while nothing more is written: the values, then
the end, if there is one. -/
def drain (p : Pushable α) : List (Pulled α) :=
  p.values.map Pulled.value ++
    match p.ended with
    | none => []
    | some none => [.done]
    | some (some msg) => [.error msg]

/-- What a reader that stops at the first end makes of what it is handed: the values before it,
and that end (`none` if none came). -/
def view : List (Pulled α) → List α × Option (Option String)
  | [] => ([], none)
  | .value v :: got => (v :: (view got).1, (view got).2)
  | .done :: _ => ([], some none)
  | .error msg :: _ => ([], some (some msg))

/-- What the reader of `p` gets when its `next()` calls fall among the writes as in `evs` and it
reads on to the end after them. -/
def seen (p : Pushable α) (evs : List (Event α)) : List α × Option (Option String) :=
  view ((p.run evs).2 ++ (p.run evs).1.drain)

/-- What a reader may get of a writer that pushed `vs` and then ended with `err`: all of `vs`
and a clean end, or, after an error, a prefix of `vs` and the error. -/
def Readable (vs : List α) : Option String → List α × Option (Option String) → Prop
  | none, r => r = (vs, some none)
  | some msg, r => ∃ k ≤ vs.length, r = (vs.take k, some (some msg))

instance [DecidableEq α] (vs : List α) (err : Option String) (r : List α × Option (Option String)) :
    Decidable (Readable vs err r) := by
  cases err <;> unfold Readable <;> infer_instance

/-! ### The writer -/

@[simp] theorem push_of_open {p : Pushable α} (h : p.ended = none) (v : α) :
    p.push v = { p with values := p.values ++ [v] } := by
  simp [push, h]

@[simp] theorem end_none_of_open {p : Pushable α} (h : p.ended = none) :
    p.end none = { p with ended := some none } := by
  simp [«end», h]

@[simp] theorem end_some_of_open {p : Pushable α} (h : p.ended = none) (msg : String) :
    p.end (some msg) = ⟨[], some (some msg)⟩ := by
  simp [«end», h]

@[simp] theorem push_of_ended {p : Pushable α} {e : Option String} (h : p.ended = some e) (v : α) :
    p.push v = p := by
  simp [push, h]

@[simp] theorem end_of_ended {p : Pushable α} {e : Option String} (h : p.ended = some e)
    (err : Option String) : p.end err = p := by
  simp [«end», h]

theorem ended_end {p : Pushable α} (h : p.ended = none) (err : Option String) :
    (p.end err).ended = some err := by
  cases err <;> simp [h]

theorem apply_of_ended {p : Pushable α} {e : Option String} (h : p.ended = some e) (w : Write α) :
    p.apply w = p := by
  cases w <;> simp [apply, h]

theorem foldl_apply_of_ended {p : Pushable α} {e : Option String} (h : p.ended = some e)
    (ws : List (Write α)) : ws.foldl apply p = p := by
  induction ws with
  | nil => rfl
  | cons w ws ih => rw [List.foldl_cons, apply_of_ended h, ih]

/-- Pushes `vs` then an end, on an open queue: what comes after the end is ignored. -/
theorem foldl_pushes_end {p : Pushable α} (hp : p.ended = none) (vs : List α) (err : Option String)
    (post : List (Write α)) :
    (vs.map Write.push ++ .end err :: post).foldl apply p =
      (⟨p.values ++ vs, none⟩ : Pushable α).end err := by
  induction vs generalizing p with
  | nil =>
    obtain ⟨B, e⟩ := p
    cases hp
    simpa using foldl_apply_of_ended (ended_end rfl err) post
  | cons v vs ih => simpa [apply, hp] using ih (p := { p with values := p.values ++ [v] }) hp

/-! ### The reader -/

@[simp] theorem writes_nil : writes ([] : List (Event α)) = [] := rfl

@[simp] theorem writes_cons_write (w : Write α) (evs : List (Event α)) :
    writes (.write w :: evs) = w :: writes evs := rfl

@[simp] theorem writes_cons_next (evs : List (Event α)) : writes (.next :: evs) = writes evs := rfl

@[simp] theorem writes_append (evs evs' : List (Event α)) :
    writes (evs ++ evs') = writes evs ++ writes evs' := List.filterMap_append _ _ _

@[simp] theorem writes_map_write (ws : List (Write α)) : writes (ws.map .write) = ws := by
  induction ws <;> simp_all

@[simp] theorem writes_replicate_next (k : Nat) : writes (List.replicate k (.next : Event α)) = [] := by
  induction k <;> simp_all [List.replicate_succ]

/-- `drain` is what the reader's `next()` calls hand it, one value each and then the end. -/
theorem run_replicate_next (p : Pushable α) :
    (p.run (List.replicate (p.values.length + 1) .next)).2 = p.drain := by
  obtain ⟨vs, e⟩ := p
  induction vs with
  | nil => rcases e with _ | _ | msg <;> rfl
  | cons v vs ih => exact congrArg (Pulled.value v :: ·) ih

@[simp] theorem seen_write (p : Pushable α) (w : Write α) (evs : List (Event α)) :
    p.seen (.write w :: evs) = (p.apply w).seen evs := rfl

theorem seen_next_value (v : α) (vs : List α) (e : Option (Option String)) (evs : List (Event α)) :
    (⟨v :: vs, e⟩ : Pushable α).seen (.next :: evs) =
      (v :: ((⟨vs, e⟩ : Pushable α).seen evs).1, ((⟨vs, e⟩ : Pushable α).seen evs).2) := rfl

theorem seen_next_waiting (evs : List (Event α)) :
    (⟨[], none⟩ : Pushable α).seen (.next :: evs) = (⟨[], none⟩ : Pushable α).seen evs := rfl

theorem view_map_value_append (vs : List α) (got : List (Pulled α)) :
    view (vs.map Pulled.value ++ got) = (vs ++ (view got).1, (view got).2) := by
  induction vs with
  | nil => rfl
  | cons v vs ih => simp [view, ih]

/-- Once the queue has ended, the reader's pace no longer matters. -/
theorem seen_of_ended {p : Pushable α} {e : Option String} (he : p.ended = some e)
    (evs : List (Event α)) : p.seen evs = view p.drain := by
  induction evs generalizing p with
  | nil => simp [seen, run]
  | cons ev evs ih =>
    obtain ⟨vs, e'⟩ := p
    cases he
    rcases ev with w | _
    · rw [seen_write, apply_of_ended rfl, ih rfl]
    · rcases vs with _ | ⟨v, vs⟩
      · cases e <;> rfl
      · rw [seen_next_value, ih rfl]
        rfl

theorem view_drain_end (B : List α) (err : Option String) :
    view ((⟨B, none⟩ : Pushable α).end err).drain = (err.elim B fun _ => [], some err) := by
  cases err <;> simp [drain, view_map_value_append, view]

theorem Readable.cons {vs : List α} {err : Option String} {r : List α × Option (Option String)}
    (h : Readable vs err r) (v : α) : Readable (v :: vs) err (v :: r.1, r.2) := by
  cases err with
  | none =>
    obtain rfl : r = (vs, some none) := h
    rfl
  | some msg =>
    obtain ⟨k, hk, rfl⟩ := h
    exact ⟨k + 1, Nat.succ_le_succ hk, rfl⟩

/-- Over any interleaving of `next()` with writes that push `vs` and then end with `err`, the
reader gets an outcome that `Readable` allows. -/
theorem readable_seen {B vs : List α} {err : Option String} {post : List (Write α)}
    {evs : List (Event α)} (h : writes evs = vs.map .push ++ .end err :: post) :
    Readable (B ++ vs) err ((⟨B, none⟩ : Pushable α).seen evs) := by
  induction evs generalizing B vs with
  | nil => simp [writes] at h
  | cons ev evs ih =>
    rcases ev with ⟨v | err'⟩ | _
    · -- a push: the next value of `vs`
      rcases vs with _ | ⟨v', vs⟩
      · simp at h
      · obtain ⟨rfl, h'⟩ : v = v' ∧ writes evs = vs.map .push ++ .end err :: post := by simpa using h
        simpa [apply] using ih (B := B ++ [v]) h'
    · -- the end: the rest is decided
      rcases vs with _ | ⟨v', vs⟩
      · obtain ⟨rfl, -⟩ : err' = err ∧ writes evs = post := by simpa using h
        rw [seen_write, apply, seen_of_ended (ended_end rfl err'), view_drain_end]
        cases err'
        · simp [Readable]
        · exact ⟨0, Nat.zero_le _, rfl⟩
      · simp at h
    · -- a read: it takes the oldest value, if any
      rcases B with _ | ⟨b, B⟩
      · rw [seen_next_waiting]
        exact ih (by simpa using h)
      · rw [seen_next_value]
        exact (ih (by simpa using h)).cons b

theorem seen_pushes (B vs : List α) (evs : List (Event α)) :
    (⟨B, none⟩ : Pushable α).seen ((vs.map Write.push).map .write ++ evs) =
      (⟨B ++ vs, none⟩ : Pushable α).seen evs := by
  induction vs generalizing B with
  | nil => simp
  | cons v vs ih => simpa [apply] using ih (B ++ [v])

theorem seen_nexts (B : List α) (e : Option (Option String)) (evs : List (Event α)) {k : Nat}
    (hk : k ≤ B.length) :
    (⟨B, e⟩ : Pushable α).seen (List.replicate k .next ++ evs) =
      (B.take k ++ ((⟨B.drop k, e⟩ : Pushable α).seen evs).1,
        ((⟨B.drop k, e⟩ : Pushable α).seen evs).2) := by
  induction k generalizing B with
  | zero => rfl
  | succ k ih =>
    rcases B with _ | ⟨b, B⟩
    · simp at hk
    · rw [List.replicate_succ, List.cons_append, seen_next_value, ih B (by simpa using hk)]
      rfl

/-- Every outcome `Readable` allows occurs: the reader pulls `k` values just before the end. -/
theorem exists_seen_of_readable (B vs : List α) (err : Option String) (post : List (Write α))
    {r : List α × Option (Option String)} (hr : Readable (B ++ vs) err r) :
    ∃ evs, writes evs = vs.map .push ++ .end err :: post ∧ (⟨B, none⟩ : Pushable α).seen evs = r := by
  have hk : ∀ k ≤ (B ++ vs).length, ∃ evs, writes evs = vs.map .push ++ .end err :: post ∧
      (⟨B, none⟩ : Pushable α).seen evs =
        ((B ++ vs).take k ++ err.elim ((B ++ vs).drop k) (fun _ => []), some err) := by
    intro k hk
    refine ⟨(vs.map Write.push).map .write ++ (List.replicate k .next ++ (.end err :: post).map .write),
      by simp only [writes_append, writes_map_write, writes_replicate_next, List.nil_append], ?_⟩
    rw [seen_pushes, seen_nexts _ _ _ hk, List.map_cons, seen_write, apply,
      seen_of_ended (ended_end rfl err), view_drain_end]
  cases err with
  | none =>
    obtain rfl : r = (B ++ vs, some none) := hr
    simpa using hk 0 (Nat.zero_le _)
  | some msg =>
    obtain ⟨k, hk', rfl⟩ := hr
    simpa using hk k hk'

/-- The reader's pace decides which outcome it gets: over the interleavings of its `next()` with
writes that push `vs` and then end with `err`, the outcomes are exactly those `Readable` allows. -/
theorem seen_iff_readable {p : Pushable α} (hp : p.ended = none) (vs : List α) (err : Option String)
    (post : List (Write α)) (r : List α × Option (Option String)) :
    (∃ evs, writes evs = vs.map .push ++ .end err :: post ∧ p.seen evs = r) ↔
      Readable (p.values ++ vs) err r := by
  obtain ⟨B, e⟩ := p
  cases hp
  exact ⟨fun ⟨_, hw, hs⟩ => hs ▸ readable_seen hw, exists_seen_of_readable B vs err post⟩

/-- A reader that pulled one value before an error end loses the one still buffered. -/
example : (⟨[], none⟩ : Pushable Nat).seen
    [.write (.push 1), .next, .write (.push 2), .write (.end (some "reset"))] =
      ([1], some (some "reset")) := rfl

end Pushable

end Starpc
