import Mathlib.Data.List.Basic

/-!
# Byte strings and the codec helpers of `util`

A `Uint8Array` is a `List UInt8`. The helpers of `src/util.js` that the packets and the parameter
tables call are not among the sources; they are modelled from the codec component of the
specification (§4.1): `readMPI`, `uint8ArrayToMPI`, `leftPad`, `readExactSubarray`,
`writeChecksum` and `writeNumber`. `subarray` with in-order non-negative bounds is `slice`; the
negative bounds the packets use (`subarray(0, -2)`, `subarray(-20)`) are `List.take` and
`List.drop` with truncated subtraction, which clamp exactly as JavaScript's relative indices do.

The facts the parameter codec rests on:

* `readMPI_uint8ArrayToMPI`: reading an MPI back from what `uint8ArrayToMPI` wrote returns the
  byte string without its leading zero octets, whatever follows it;
* `leftPad_stripZeros`: padding that string back to the original length restores the original;
* `mpiValue_stripZeros`, `mpiValue_leftPad`: neither step changes the integer an MPI denotes.
-/

namespace OpenPgp

/-- A `Uint8Array`. -/
abbrev Bytes := List UInt8

/-- The classes of exception the modelled code throws: `Error`, `UnsupportedError`, and the
`TypeError` of a property read on `null` or `undefined`. -/
inductive ErrKind
  | error
  | unsupported
  | typeError
deriving DecidableEq, Repr

/-- A thrown exception: its class and its message. -/
structure Err where
  kind : ErrKind
  message : String
deriving DecidableEq, Repr

namespace Err

/-- `new Error(message)`. -/
def error (message : String) : Err := ⟨.error, message⟩

/-- `new UnsupportedError(message)`. -/
def unsupported (message : String) : Err := ⟨.unsupported, message⟩

/-- The `TypeError` of reading a property of `null` or `undefined`. -/
def typeError (message : String) : Err := ⟨.typeError, message⟩

end Err

/-- A call that returns passes its value on to the rest of the computation. -/
@[simp] theorem ok_bind {α β : Type} (a : α) (f : α → Except Err β) :
    (Except.ok a >>= f) = f a := rfl

@[simp] theorem pure_eq_ok {α : Type} (a : α) : (pure a : Except Err α) = .ok a := rfl

@[simp] theorem throw_eq_error {α : Type} (e : Err) : (throw e : Except Err α) = .error e := rfl

/-- A call that throws ends the computation with its exception. -/
@[simp] theorem error_bind {α β : Type} (e : Err) (f : α → Except Err β) :
    (Except.error e >>= f) = .error e := rfl

/-- A computation returns exactly when its first call returns and the rest does on its value. -/
theorem bind_eq_ok {α β : Type} {x : Except Err α} {f : α → Except Err β} {b : β} :
    (x >>= f) = .ok b ↔ ∃ a, x = .ok a ∧ f a = .ok b := by
  cases x <;> simp [bind, Except.bind]

/-! ## Slices -/

/-- `bytes[i]`: the octet at `i` as a number, `undefined` past the end. -/
def byteAt (bytes : Bytes) (i : Nat) : Option Nat := (bytes.get? i).map UInt8.toNat

theorem byteAt_append_length (l e : Bytes) (y : UInt8) :
    byteAt (l ++ y :: e) l.length = some y.toNat := by
  rw [byteAt, List.get?_eq_getElem?, List.getElem?_append_right (le_refl _), Nat.sub_self]
  simp

/-- `bytes.subarray(start, stop)` for in-order non-negative bounds. -/
def slice (bytes : Bytes) (start stop : Nat) : Bytes := (bytes.take stop).drop start

@[simp] theorem slice_append_left (a t : Bytes) : slice (a ++ t) 0 a.length = a := by
  simp [slice]

theorem slice_append_of_length (a b t : Bytes) {n : Nat} (h : a.length = n) :
    slice (a ++ b ++ t) n (n + b.length) = b := by
  subst h
  simp [slice, List.take_append_eq_append_take, List.drop_append_eq_append_drop]

/-- Modelled from the spec: `util.readExactSubarray` (`src/util.js` is absent), "subarray; errors
if `end > len(buf)`". -/
def readExactSubarray (input : Bytes) (start stop : Nat) : Except Err Bytes :=
  if input.length < stop then .error (.error "Input array too short")
  else .ok (slice input start stop)

theorem readExactSubarray_append (a b t : Bytes) {n : Nat} (h : a.length = n) :
    readExactSubarray (a ++ b ++ t) n (n + b.length) = .ok b := by
  rw [readExactSubarray, if_neg (by simp [← h]), slice_append_of_length a b t h]

/-! ## Multiprecision integers -/

/-- The octets of a byte string from its first nonzero one on. -/
def stripZeros (bytes : Bytes) : Bytes := bytes.dropWhile (· == 0)

@[simp] theorem stripZeros_nil : stripZeros [] = [] := rfl

@[simp] theorem stripZeros_zero_cons (bytes : Bytes) : stripZeros (0 :: bytes) = stripZeros bytes :=
  by simp [stripZeros, List.dropWhile]

theorem stripZeros_cons_of_ne {x : UInt8} (bytes : Bytes) (h : x ≠ 0) :
    stripZeros (x :: bytes) = x :: bytes := by
  have hx : (x == 0) = false := by simpa using h
  simp [stripZeros, List.dropWhile, hx]

/-- A stripped string starts with a nonzero octet. -/
theorem stripZeros_head_ne : ∀ {bytes : Bytes} {x : UInt8} {rest : Bytes},
    stripZeros bytes = x :: rest → x ≠ 0
  | [], _, _, h => by simp at h
  | y :: ys, x, rest, h => by
    by_cases hy : y = 0
    · subst hy; rw [stripZeros_zero_cons] at h; exact stripZeros_head_ne h
    · rw [stripZeros_cons_of_ne ys hy] at h
      cases h; exact hy

theorem stripZeros_length_le : ∀ bytes : Bytes, (stripZeros bytes).length ≤ bytes.length
  | [] => le_rfl
  | y :: ys => by
    by_cases hy : y = 0
    · subst hy; rw [stripZeros_zero_cons]; exact Nat.le_succ_of_le (stripZeros_length_le ys)
    · rw [stripZeros_cons_of_ne ys hy]

@[simp] theorem stripZeros_stripZeros :
    ∀ bytes : Bytes, stripZeros (stripZeros bytes) = stripZeros bytes
  | [] => rfl
  | y :: ys => by
    by_cases hy : y = 0
    · subst hy; rw [stripZeros_zero_cons]; exact stripZeros_stripZeros ys
    · rw [stripZeros_cons_of_ne ys hy, stripZeros_cons_of_ne ys hy]

/-- A byte string is its leading zero octets followed by its stripped form. -/
theorem replicate_append_stripZeros : ∀ bytes : Bytes,
    List.replicate (bytes.length - (stripZeros bytes).length) 0 ++ stripZeros bytes = bytes
  | [] => rfl
  | y :: ys => by
    by_cases hy : y = 0
    · subst hy
      have h := replicate_append_stripZeros ys
      have hl := stripZeros_length_le ys
      rw [stripZeros_zero_cons, List.length_cons,
        show ys.length + 1 - (stripZeros ys).length = (ys.length - (stripZeros ys).length) + 1
          by omega, List.replicate_succ, List.cons_append, h]
    · simp [stripZeros_cons_of_ne ys hy]

/-- The number of significant bits of a byte string, `util.uint8ArrayBitLength`. -/
def uint8ArrayBitLength (bytes : Bytes) : Nat :=
  match stripZeros bytes with
  | [] => 0
  | x :: rest => rest.length * 8 + (x.toNat.log2 + 1)

/-- Modelled from the spec: `util.uint8ArrayToMPI` (`src/util.js` is absent), "emits 2-byte bit
length (highest significant bit of first nonzero byte) followed by bytes" — the bytes from the
first nonzero one on. -/
def uint8ArrayToMPI (bin : Bytes) : Bytes :=
  let bitSize := uint8ArrayBitLength bin
  [UInt8.ofNat (bitSize / 256), UInt8.ofNat bitSize] ++ stripZeros bin

@[simp] theorem uint8ArrayToMPI_length (bin : Bytes) :
    (uint8ArrayToMPI bin).length = (stripZeros bin).length + 2 := by
  simp only [uint8ArrayToMPI, List.cons_append, List.nil_append, List.length_cons]

@[simp] theorem uint8ArrayBitLength_stripZeros (bin : Bytes) :
    uint8ArrayBitLength (stripZeros bin) = uint8ArrayBitLength bin := by
  simp only [uint8ArrayBitLength, stripZeros_stripZeros]

/-- Leading zero octets do not reach the wire. -/
@[simp] theorem uint8ArrayToMPI_stripZeros (bin : Bytes) :
    uint8ArrayToMPI (stripZeros bin) = uint8ArrayToMPI bin := by
  simp only [uint8ArrayToMPI, uint8ArrayBitLength_stripZeros, stripZeros_stripZeros]

/-- Modelled from the spec: `util.readMPI` (`src/util.js` is absent), "reads a 2-byte big-endian
bit length `L`, then `ceil(L/8)` bytes; errors if truncated". A missing length octet reads as
`undefined`, which the shift turns into `0`. -/
def readMPI (bytes : Bytes) : Except Err Bytes :=
  let bits := (bytes.getD 0 0).toNat * 256 + (bytes.getD 1 0).toNat
  readExactSubarray bytes 2 (2 + (bits + 7) / 8)

/-- The bit length counts whole octets of the stripped string, rounded up. -/
theorem uint8ArrayBitLength_bytes (bin : Bytes) :
    (uint8ArrayBitLength bin + 7) / 8 = (stripZeros bin).length := by
  unfold uint8ArrayBitLength
  split
  · simp_all
  · rename_i x rest h
    have hx := stripZeros_head_ne h
    have hlog : x.toNat.log2 < 8 :=
      (Nat.log2_lt (fun h0 => hx (UInt8.toNat.inj h0))).2 (UInt8.toNat_lt_size x)
    rw [h, List.length_cons]
    omega

/-- **MPI round trip.** An MPI of fewer than `2^16` bits reads back as its stripped octets, and
the reader consumes exactly what the writer emitted. -/
theorem readMPI_uint8ArrayToMPI (bin t : Bytes) (h : uint8ArrayBitLength bin < 65536) :
    readMPI (uint8ArrayToMPI bin ++ t) = .ok (stripZeros bin) := by
  have hhdr : (UInt8.ofNat (uint8ArrayBitLength bin / 256)).toNat * 256 +
      (UInt8.ofNat (uint8ArrayBitLength bin)).toNat = uint8ArrayBitLength bin := by
    simp only [UInt8.toNat, UInt8.ofNat, BitVec.toNat_ofNat]
    omega
  have hread := readExactSubarray_append
    [UInt8.ofNat (uint8ArrayBitLength bin / 256), UInt8.ofNat (uint8ArrayBitLength bin)]
    (stripZeros bin) t rfl
  simp only [readMPI, uint8ArrayToMPI, List.cons_append, List.getD_cons_zero,
    List.getD_cons_succ, hhdr, uint8ArrayBitLength_bytes]
  simpa using hread

/-- Modelled from the spec: `util.leftPad` (`src/util.js` is absent), "prepends zeros to length
`n`; errors if `len(b) > n`". -/
def leftPad (bytes : Bytes) (length : Nat) : Except Err Bytes :=
  if length < bytes.length then .error (.error "Input array too long")
  else .ok (List.replicate (length - bytes.length) 0 ++ bytes)

/-- Padding a stripped string back to the original length restores the original. -/
theorem leftPad_stripZeros (bytes : Bytes) :
    leftPad (stripZeros bytes) bytes.length = .ok bytes := by
  simp [leftPad, Nat.not_lt.2 (stripZeros_length_le bytes), replicate_append_stripZeros]

/-- The integer a byte string denotes, big-endian. -/
def mpiValue (bytes : Bytes) : Nat := bytes.foldl (fun acc x => acc * 256 + x.toNat) 0

theorem mpiValue_zero_cons (bytes : Bytes) : mpiValue (0 :: bytes) = mpiValue bytes := by
  simp [mpiValue]

@[simp] theorem mpiValue_stripZeros : ∀ bytes : Bytes, mpiValue (stripZeros bytes) = mpiValue bytes
  | [] => rfl
  | y :: ys => by
    by_cases hy : y = 0
    · subst hy; rw [stripZeros_zero_cons, mpiValue_zero_cons, mpiValue_stripZeros ys]
    · rw [stripZeros_cons_of_ne ys hy]

@[simp] theorem mpiValue_replicate_append (k : Nat) (bytes : Bytes) :
    mpiValue (List.replicate k 0 ++ bytes) = mpiValue bytes := by
  induction k with
  | zero => rfl
  | succ k ih => rw [List.replicate_succ, List.cons_append, mpiValue_zero_cons, ih]

theorem mpiValue_leftPad {bytes out : Bytes} {n : Nat} (h : leftPad bytes n = .ok out) :
    mpiValue out = mpiValue bytes := by
  unfold leftPad at h
  split at h
  · cases h
  · cases h; simp

theorem mpiValue_append_singleton (bytes : Bytes) (x : UInt8) :
    mpiValue (bytes ++ [x]) = mpiValue bytes * 256 + x.toNat := by
  simp [mpiValue, List.foldl_append]

/-- Octet strings of one length are equal when their values are: the last octet is the value
modulo 256, and the rest is the value divided by 256. -/
theorem eq_of_mpiValue_eq {a b : Bytes} (hl : a.length = b.length)
    (hv : mpiValue a = mpiValue b) : a = b := by
  induction a using List.reverseRecOn generalizing b with
  | nil => exact (List.length_eq_zero.1 hl.symm).symm
  | append_singleton l x ih =>
    obtain ⟨m, y, rfl⟩ : ∃ m y, b = m ++ [y] := by
      rcases List.eq_nil_or_concat b with rfl | h
      · simp at hl
      · simpa using h
    rw [mpiValue_append_singleton, mpiValue_append_singleton] at hv
    have hx : x.toNat < 256 := UInt8.toNat_lt_size x
    have hy : y.toNat < 256 := UInt8.toNat_lt_size y
    have hxy : x.toNat = y.toNat := by omega
    rw [ih (by simpa using hl) (by omega), UInt8.toNat.inj hxy]

@[simp] theorem stripZeros_replicate_append (k : Nat) (bytes : Bytes) :
    stripZeros (List.replicate k 0 ++ bytes) = stripZeros bytes := by
  induction k with
  | zero => rfl
  | succ k ih => rw [List.replicate_succ, List.cons_append, stripZeros_zero_cons, ih]

/-- **An MPI's value determines its octets.** Two strings of one value are equal once their
leading zeros are stripped: padding both to one length leaves strings of one length and value. -/
theorem stripZeros_eq_of_mpiValue_eq {a b : Bytes} (h : mpiValue a = mpiValue b) :
    stripZeros a = stripZeros b := by
  have hpad : List.replicate b.length 0 ++ a = List.replicate a.length 0 ++ b :=
    eq_of_mpiValue_eq (by simp [Nat.add_comm]) (by simp [h])
  simpa using congrArg stripZeros hpad

/-! ## Numbers and checksums -/

/-- Modelled from the spec: `util.writeNumber(n, bytes)` (`src/util.js` is absent), the low
`bytes` octets of `n`, big-endian. -/
def writeNumber (n : Nat) : Nat → Bytes
  | 0 => []
  | bytes + 1 => writeNumber (n / 256) bytes ++ [UInt8.ofNat n]

@[simp] theorem writeNumber_length (n bytes : Nat) : (writeNumber n bytes).length = bytes := by
  induction bytes generalizing n with
  | zero => rfl
  | succ k ih => simp [writeNumber, ih]

/-- Modelled from the spec: `util.writeChecksum` (`src/util.js` is absent), "2-byte big-endian
sum of bytes mod 65536". -/
def writeChecksum (text : Bytes) : Bytes :=
  writeNumber (text.foldl (fun sum octet => sum + octet.toNat) 0 % 65536) 2

@[simp] theorem writeChecksum_length (text : Bytes) : (writeChecksum text).length = 2 := by
  simp [writeChecksum]

/-! ## Constant-time selection -/

/-- `util.selectUint8Array(cond, a, b)`, a branch-free select, modelled as `cond ? a : b`. -/
def selectUint8Array (cond : Bool) (a b : Bytes) : Bytes := if cond then a else b

/-- `util.selectUint8(cond, a, b)`, modelled as `cond ? a : b`. -/
def selectUint8 {α : Type} (cond : Bool) (a b : α) : α := if cond then a else b

end OpenPgp
