import Mathlib

/-!
# The `arbitrary` byte stream

Every fuzz input of the harness is drawn from an `arbitrary::Unstructured`: the
byte buffer the fuzz engine mutated, which the generators consume from the
front.  A draw either returns a value and leaves the rest of the buffer, or
returns an `arbitrary::Error`, or panics; a `?` in the Rust code propagates the
error, and a panic unwinds the whole trial.  `Gen` is that computation, written
as explicit state passing over the buffer.

Only two primitives of the crate are reached by the code of this repository:
`int_in_range`, through `arbitrary_loop`, and the `bool` draw.  Both are given
here as the crate computes them, so that `arbitrary_loop`'s count, and hence
`arbitrary_vec`'s length, rests on `intInRange_mem` alone.

## Main definitions

* `Unstructured`, `Gen` — the byte buffer, and a draw from it.
* `Unstructured.byte`, `Unstructured.arbitraryBool` — `u8` and `bool` draws.
* `Unstructured.intInRange` — `int_in_range` for an unsigned type of `width` bytes.
* `Unstructured.arbitraryLoop` — `arbitrary_loop`, with its closure's state threaded.

## Main results

* `Gen.bind_eq_ok` — the inversion lemma of a successful `bind`.
* `intInRange_mem` — a drawn integer lies in its inclusive range.
* `arbitraryLoop_eq_ok` — a successful loop ran its body a number of times between
  its bounds.
-/

namespace CedarDrt

/-! ### Failures -/

/-- `arbitrary::Error`: the errors a draw returns. -/
inductive Error where
  /-- A choice among no alternatives. -/
  | emptyChoose
  /-- The buffer ran out where more structure was needed. -/
  | notEnoughData
  /-- The bytes do not decode to a value of the type. -/
  | incorrectFormat
  deriving DecidableEq, Repr

/-- Why a trial panicked. -/
inductive Panic where
  /-- `Result::unwrap` on an `Err`. -/
  | unwrap
  /-- `Result::expect` on an `Err`, with its message. -/
  | expect (msg : String)
  /-- A failed `assert_eq!` of the harness. -/
  | assertEq
  /-- A failed `assert!` of a fuzz target. -/
  | assert
  /-- `int_in_range` asked for an empty range. -/
  | emptyRange
  /-- A panic inside an oracle (`run_auth_test`, `run_eval_test`): the two engines
  disagreed. -/
  | oracle
  /-- A panic inside a library function the code calls and does not catch: a schema or
  entity conversion, the validator, the parser. -/
  | library
  deriving DecidableEq, Repr

/-- How a draw ends without a value: an `Err` returned, or a panic. -/
inductive Failure where
  | error (e : Error)
  | panic (p : Panic)
  deriving DecidableEq, Repr

/-! ### The draw monad -/

/-- `arbitrary::Unstructured`: the bytes not yet consumed. -/
structure Unstructured where
  data : List UInt8
  deriving DecidableEq, Repr

/-- A draw from the byte stream: a value and the rest of the stream, or a failure. -/
def Gen (α : Type) : Type := Unstructured → Except Failure (α × Unstructured)

namespace Gen

variable {α β : Type}

/-- Return `a`, consuming nothing. -/
protected def pure (a : α) : Gen α := fun u => .ok (a, u)

/-- Run `x`, then `f` on its value and the rest of the stream. -/
protected def bind (x : Gen α) (f : α → Gen β) : Gen β := fun u =>
  match x u with
  | .ok (a, u') => f a u'
  | .error e => .error e

instance : Monad Gen where
  pure := Gen.pure
  bind := Gen.bind

/-- Fail, consuming nothing. -/
def fail (e : Failure) : Gen α := fun _ => .error e

/-- Rust's `?` on a `Result` computed without the stream. -/
def ofExcept : Except Error α → Gen α
  | .ok a => Gen.pure a
  | .error e => fail (.error e)

/-- Rust's `?` on a library call that returns a `Result`, or panics (`none`). -/
def ofLibrary : Option (Except Error α) → Gen α
  | some x => ofExcept x
  | none => fail (.panic .library)

@[simp] theorem pure_apply (a : α) (u : Unstructured) : (pure a : Gen α) u = .ok (a, u) := rfl

@[simp] theorem fail_apply (e : Failure) (u : Unstructured) : (fail e : Gen α) u = .error e := rfl

theorem bind_apply (x : Gen α) (f : α → Gen β) (u : Unstructured) :
    (x >>= f) u = match x u with
      | .ok (a, u') => f a u'
      | .error e => .error e := rfl

/-- **A successful `bind`** ran both halves successfully. -/
theorem bind_eq_ok {x : Gen α} {f : α → Gen β} {u u'' : Unstructured} {b : β} :
    (x >>= f) u = .ok (b, u'') ↔ ∃ a u', x u = .ok (a, u') ∧ f a u' = .ok (b, u'') := by
  rw [bind_apply]
  constructor
  · intro h
    split at h
    · exact ⟨_, _, ‹_›, h⟩
    · cases h
  · rintro ⟨a, u', hx, hf⟩
    rw [hx]
    exact hf

/-- A failed first half fails the `bind`. -/
@[simp] theorem bind_of_error {x : Gen α} {f : α → Gen β} {u : Unstructured} {e : Failure}
    (h : x u = .error e) : (x >>= f) u = .error e := by
  rw [bind_apply, h]

@[simp] theorem bind_of_ok {x : Gen α} {f : α → Gen β} {u u' : Unstructured} {a : α}
    (h : x u = .ok (a, u')) : (x >>= f) u = f a u' := by
  rw [bind_apply, h]

@[simp] theorem ofExcept_ok (a : α) : ofExcept (.ok a : Except Error α) = pure a := rfl

@[simp] theorem ofExcept_error (e : Error) :
    ofExcept (.error e : Except Error α) = fail (.error e) := rfl

end Gen

namespace Unstructured

/-- `Unstructured::new`. -/
def new (data : List UInt8) : Unstructured := ⟨data⟩

/-- `u8::arbitrary`, by `fill_buffer`: the next byte, or `0` once the buffer is
exhausted (the crate pads with zeros and never fails here). -/
def byte : Gen UInt8 := fun u =>
  match u.data with
  | [] => .ok (0, u)
  | b :: bs => .ok (b, ⟨bs⟩)

/-- `bool::arbitrary`: the low bit of a `u8` draw. -/
def arbitraryBool : Gen Bool := do
  let b ← byte
  pure (b &&& 1 == 1)

/-! ### `int_in_range` -/

/-- The inner loop of `int_in_range_impl`: while fewer than `width` bytes have
been taken and `delta` still has bits above them, fold the next byte into the
integer (`(arbitrary_int << 8) | byte`), stopping early when the buffer runs
out.  `fuel` counts the bytes still allowed; the result is the integer and the
bytes left. -/
def rangeBytes (delta : Nat) : Nat → Nat → Nat → List UInt8 → Nat × List UInt8
  | 0, _, acc, bs => (acc, bs)
  | fuel + 1, consumed, acc, bs =>
    if 0 < delta >>> (consumed * 8) then
      match bs with
      | [] => (acc, [])
      | b :: bs => rangeBytes delta fuel (consumed + 1) (acc * 256 + b.toNat) bs
    else (acc, bs)

/-- `int_in_range(start..=end)` for an unsigned type of `width` bytes: it panics
on an empty range, consumes nothing for a single value, and otherwise reduces the
integer of at most `width` bytes modulo the range's size, unless the range is the
whole type. -/
def intInRange (width start stop : Nat) : Gen Nat := fun u =>
  if stop < start then .error (.panic .emptyRange)
  else if start = stop then .ok (start, u)
  else
    let delta := stop - start
    let r := rangeBytes delta width 0 0 u.data
    let offset := if delta = 2 ^ (8 * width) - 1 then r.1 else r.1 % (delta + 1)
    .ok (start + offset, ⟨r.2⟩)

/-- The folded integer has at most `consumed + fuel` bytes. -/
theorem rangeBytes_lt (delta : Nat) :
    ∀ (fuel consumed acc : Nat) (bs : List UInt8), acc < 2 ^ (8 * consumed) →
      (rangeBytes delta fuel consumed acc bs).1 < 2 ^ (8 * (consumed + fuel))
  | 0, consumed, acc, bs, h => by simpa [rangeBytes] using h
  | fuel + 1, consumed, acc, bs, h => by
    have hle : 2 ^ (8 * consumed) ≤ 2 ^ (8 * (consumed + (fuel + 1))) :=
      Nat.pow_le_pow_right (by decide) (by omega)
    unfold rangeBytes
    split
    · cases bs with
      | nil => exact Nat.lt_of_lt_of_le h hle
      | cons b bs =>
        have hb : acc * 256 + b.toNat < 2 ^ (8 * (consumed + 1)) := by
          have := UInt8.toNat_lt_size b
          rw [show 8 * (consumed + 1) = 8 * consumed + 8 by omega, Nat.pow_add]
          simp only [UInt8.size] at this
          omega
        simpa [Nat.add_assoc, Nat.add_comm 1 fuel] using
          rangeBytes_lt delta fuel (consumed + 1) _ bs hb
    · exact Nat.lt_of_lt_of_le h hle

/-- **A drawn integer lies in its range.** -/
theorem intInRange_mem {width start stop n : Nat} {u u' : Unstructured}
    (h : intInRange width start stop u = .ok (n, u')) : start ≤ n ∧ n ≤ stop := by
  unfold intInRange at h
  split at h
  · cases h
  split at h
  · cases h; omega
  · have hlt := rangeBytes_lt (stop - start) width 0 0 u.data (by simp)
    have hmod := Nat.mod_lt (rangeBytes (stop - start) width 0 0 u.data).1
      (show 0 < stop - start + 1 by omega)
    simp only [Nat.zero_add] at hlt
    simp only [Except.ok.injEq, Prod.mk.injEq] at h
    obtain ⟨rfl, -⟩ := h
    split <;> omega

end Unstructured

/-! ### `arbitrary_loop` -/

/-- `std::ops::ControlFlow<(), ()>`, what a loop body returns. -/
inductive ControlFlow where
  | «continue»
  | «break»
  deriving DecidableEq, Repr

namespace Unstructured

/-- Run the body `n` times, stopping early on `Break`; `s` is the state the
closure captures. -/
def loopTimes {σ : Type} (f : σ → Gen (σ × ControlFlow)) : Nat → σ → Gen σ
  | 0, s => pure s
  | n + 1, s => do
    let (s', c) ← f s
    match c with
    | .continue => loopTimes f n s'
    | .break => pure s'

/-- `Unstructured::arbitrary_loop(min, max, f)`: the iteration count is an
`int_in_range::<u32>(min..=max)` draw, with the bounds defaulting to `0` and
`u32::MAX`. -/
def arbitraryLoop {σ : Type} (min max : Option UInt32) (s : σ)
    (f : σ → Gen (σ × ControlFlow)) : Gen σ := do
  let n ← intInRange 4 ((min.map UInt32.toNat).getD 0)
    ((max.map UInt32.toNat).getD (UInt32.size - 1))
  loopTimes f n s

/-- **A successful loop** drew a count between its bounds and ran the body that
many times. -/
theorem arbitraryLoop_eq_ok {σ : Type} {min max : Option UInt32} {s s' : σ}
    {f : σ → Gen (σ × ControlFlow)} {u u' : Unstructured}
    (h : arbitraryLoop min max s f u = .ok (s', u')) :
    ∃ n u₁, (min.map UInt32.toNat).getD 0 ≤ n ∧
      n ≤ (max.map UInt32.toNat).getD (UInt32.size - 1) ∧
      loopTimes f n s u₁ = .ok (s', u') := by
  obtain ⟨n, u₁, hn, hloop⟩ := Gen.bind_eq_ok.mp h
  exact ⟨n, u₁, (intInRange_mem hn).1, (intInRange_mem hn).2, hloop⟩

end Unstructured

/-- `n` draws in a row, the first first: an array literal of `n` calls. -/
def drawN {α : Type} (g : Gen α) : (n : Nat) → Gen {l : List α // l.length = n}
  | 0 => pure ⟨[], rfl⟩
  | n + 1 => do
    let a ← g
    let as ← drawN g n
    pure ⟨a :: as.1, by simp [as.2]⟩

end CedarDrt
