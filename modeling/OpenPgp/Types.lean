import OpenPgp.Enums

/-!
# The value classes of `src/type`

The parameter records and the packets hold, besides byte strings, instances of the classes under
`src/type/`: object identifiers, ECDH KDF parameters, one-octet enum wrappers, the two wrapped
session-key records of ECDH and of X25519/X448/ML-KEM, length-prefixed short byte strings, key
IDs and S2K specifiers. None of these files is among the sources. Each is modelled from the
specification (§3, §4.4, §4.5 and the glossary) with the RFC 9580 wire layout the specification
defers to, as a constructor of `TypeObject` (or `S2K`) with a `write` and a reader.

Each reader inverts its writer: `TypeObject.read_write` for the parameter classes and
`S2K.read_write` for S2K specifiers, under the size conditions the wire format imposes
(`TypeObject.Readable`, `S2K.Readable`).
-/

namespace OpenPgp

/-- An instance of one of the classes of `src/type/` that a parameter record holds. -/
inductive TypeObject
  /-- `OID`: the DER body of an object identifier. -/
  | oid (der : Bytes)
  /-- `KDFParams` of version 1: hash and cipher of the ECDH key derivation. -/
  | kdfParams (hash cipher : Nat)
  /-- `SymAlgoEnum`: a symmetric cipher code. -/
  | symAlgoEnum (value : Nat)
  /-- `HashEnum`: a hash code. -/
  | hashEnum (value : Nat)
  /-- `AEADEnum`: an AEAD mode code. -/
  | aeadEnum (value : Nat)
  /-- `ECDHSymkey`: the wrapped session key of a legacy ECDH PKESK. -/
  | ecdhSymkey (data : Bytes)
  /-- `ECDHXSymmetricKey`: the wrapped session key of an X25519, X448 or ML-KEM PKESK, with the
  cleartext cipher code a v3 packet carries. -/
  | ecdhXSymmetricKey (algorithm : Option Nat) (wrappedKey : Bytes)
  /-- `ShortByteString`: a byte string with a one-octet length. -/
  | shortByteString (data : Bytes)
deriving DecidableEq, Repr

namespace TypeObject

/-- Modelled from the spec: the `write()` methods of `src/type/` (absent). Length-prefixed
fields carry a one-octet length; an `ECDHXSymmetricKey` counts its optional cipher octet in that
length (RFC 9580 §5.1.6), and a `0` algorithm, being falsy, is not written. -/
def write : TypeObject → Bytes
  | oid der => UInt8.ofNat der.length :: der
  | kdfParams hash cipher => [3, 1, UInt8.ofNat hash, UInt8.ofNat cipher]
  | symAlgoEnum v | hashEnum v | aeadEnum v => [UInt8.ofNat v]
  | ecdhSymkey data => UInt8.ofNat data.length :: data
  | ecdhXSymmetricKey (some a) wrappedKey =>
    if a = 0 then UInt8.ofNat wrappedKey.length :: wrappedKey
    else [UInt8.ofNat (wrappedKey.length + 1), UInt8.ofNat a] ++ wrappedKey
  | ecdhXSymmetricKey none wrappedKey => UInt8.ofNat wrappedKey.length :: wrappedKey
  | shortByteString data => UInt8.ofNat data.length :: data

end TypeObject

/-- A one-octet length-prefixed field: the reader of `OID`, `ECDHSymkey` and `ShortByteString`,
with the message its class throws on a truncated input. -/
def readLengthPrefixed (message : String) (input : Bytes) : Except Err (Bytes × Nat) :=
  match input with
  | [] => .error (.error message)
  | len :: rest =>
    if rest.length < len.toNat then .error (.error message)
    else .ok (rest.take len.toNat, len.toNat + 1)

/-- Modelled from the spec: `OID.read` (`src/type/oid.js` is absent). -/
def readOID (input : Bytes) : Except Err (TypeObject × Nat) :=
  (readLengthPrefixed "Invalid oid" input).map fun (der, n) => (.oid der, n)

/-- Modelled from the spec: `KDFParams.read` (`src/type/kdf_params.js` is absent), the version 1
layout of RFC 9580 §11.5: a size octet `3`, the version `1`, a hash code and a cipher code. -/
def readKDFParams (input : Bytes) : Except Err (TypeObject × Nat) :=
  match input with
  | 3 :: 1 :: hash :: cipher :: _ => .ok (.kdfParams hash.toNat cipher.toNat, 4)
  | _ => .error (.unsupported "Cannot read KDFParams")

/-- Modelled from the spec: `SymAlgoEnum.read` (`src/type/enum.js` is absent), which validates
the octet with `enums.write(enums.symmetric, ·)`. -/
def readSymAlgoEnum (input : Bytes) : Except Err (TypeObject × Nat) :=
  (enumsWriteSymmetric (input.head?.map UInt8.toNat)).map fun v => (.symAlgoEnum v, 1)

/-- Modelled from the spec: `HashEnum.read` (`src/type/enum.js` is absent). -/
def readHashEnum (input : Bytes) : Except Err (TypeObject × Nat) :=
  match input.head? with
  | some v => if v.toNat ∈ hashCodes then .ok (.hashEnum v.toNat, 1)
    else .error (.error "Invalid enum value.")
  | none => .error (.error "Invalid enum value.")

/-- Modelled from the spec: `AEADEnum.read` (`src/type/enum.js` is absent). -/
def readAEADEnum (input : Bytes) : Except Err (TypeObject × Nat) :=
  match input.head? with
  | some v => if v.toNat ∈ aeadCodes then .ok (.aeadEnum v.toNat, 1)
    else .error (.error "Invalid enum value.")
  | none => .error (.error "Invalid enum value.")

/-- Modelled from the spec: `ECDHSymkey.read` (`src/type/ecdh_symkey.js` is absent). -/
def readECDHSymkey (input : Bytes) : Except Err (TypeObject × Nat) :=
  (readLengthPrefixed "Invalid symmetric key" input).map fun (data, n) => (.ecdhSymkey data, n)

/-- Modelled from the spec: `ECDHXSymmetricKey.read` (`src/type/ecdh_x_symkey.js` is absent).
The size octet counts the optional cleartext cipher octet; a wrapped session key has even length,
so an odd size says the cipher octet is there (v3) and an even one that it is not (v6). -/
def readECDHXSymmetricKey (input : Bytes) : Except Err (TypeObject × Nat) :=
  let followLength := (input.getD 0 0).toNat
  let algorithm := if followLength % 2 = 1 then some (input.getD 1 0).toNat else none
  let start := if followLength % 2 = 1 then 2 else 1
  let len := followLength - followLength % 2
  (readExactSubarray input start (start + len)).map fun wrappedKey =>
    (.ecdhXSymmetricKey algorithm wrappedKey, start + len)

/-- Modelled from the spec: `ShortByteString.read` (`src/type/short_byte_string.js` is absent). -/
def readShortByteString (input : Bytes) : Except Err (TypeObject × Nat) :=
  (readLengthPrefixed "Invalid short byte string" input).map fun (data, n) =>
    (.shortByteString data, n)

theorem readLengthPrefixed_append (message : String) (data t : Bytes) (h : data.length < 256) :
    readLengthPrefixed message (UInt8.ofNat data.length :: (data ++ t)) =
      .ok (data, data.length + 1) := by
  have hl : (UInt8.ofNat data.length).toNat = data.length := UInt8.toNat_ofNat_of_lt h
  simp [readLengthPrefixed, hl]

namespace TypeObject

/-- The reader `parsePublicKeyParams` and its siblings use for each class. -/
def reader : TypeObject → Bytes → Except Err (TypeObject × Nat)
  | oid _ => readOID
  | kdfParams _ _ => readKDFParams
  | symAlgoEnum _ => readSymAlgoEnum
  | hashEnum _ => readHashEnum
  | aeadEnum _ => readAEADEnum
  | ecdhSymkey _ => readECDHSymkey
  | ecdhXSymmetricKey _ _ => readECDHXSymmetricKey
  | shortByteString _ => readShortByteString

/-- The values each class's writer and reader agree on: lengths that fit their octet, codes
that fit an octet and that the enum registry accepts, and for an `ECDHXSymmetricKey` an even
wrapped key whose cipher octet, when present, is nonzero. -/
def Readable : TypeObject → Prop
  | oid der => der.length < 256
  | kdfParams hash cipher => hash < 256 ∧ cipher < 256
  | symAlgoEnum v => v ∈ symmetricCodes
  | hashEnum v => v ∈ hashCodes
  | aeadEnum v => v ∈ aeadCodes
  | ecdhSymkey data => data.length < 256
  | ecdhXSymmetricKey algorithm wrappedKey =>
    wrappedKey.length % 2 = 0 ∧ wrappedKey.length < 255 ∧
      ∀ a, algorithm = some a → 0 < a ∧ a < 256
  | shortByteString data => data.length < 256

/-- **Each class reads back what it wrote**, consuming exactly the written octets. -/
theorem read_write (o : TypeObject) (h : o.Readable) (t : Bytes) :
    o.reader (o.write ++ t) = .ok (o, o.write.length) := by
  cases o with
  | oid der =>
    simp [reader, readOID, write, readLengthPrefixed_append _ _ _ (show der.length < 256 from h),
      Except.map]
  | kdfParams hash cipher =>
    obtain ⟨hh, hc⟩ := h
    simp [reader, readKDFParams, write, UInt8.toNat_ofNat_of_lt (show hash < 256 from hh),
      UInt8.toNat_ofNat_of_lt (show cipher < 256 from hc)]
  | symAlgoEnum v =>
    have hm : v ∈ symmetricCodes := h
    have hv : v < 256 := by simp [symmetricCodes] at hm; omega
    simp [reader, readSymAlgoEnum, write, enumsWriteSymmetric,
      UInt8.toNat_ofNat_of_lt (show v < 256 from hv), hm, Except.map]
  | hashEnum v =>
    have hm : v ∈ hashCodes := h
    have hv : v < 256 := by simp [hashCodes] at hm; omega
    simp [reader, readHashEnum, write, UInt8.toNat_ofNat_of_lt (show v < 256 from hv), hm]
  | aeadEnum v =>
    have hm : v ∈ aeadCodes := h
    have hv : v < 256 := by simp [aeadCodes] at hm; omega
    simp [reader, readAEADEnum, write, UInt8.toNat_ofNat_of_lt (show v < 256 from hv), hm]
  | ecdhSymkey data =>
    simp [reader, readECDHSymkey, write,
      readLengthPrefixed_append _ _ _ (show data.length < 256 from h), Except.map]
  | ecdhXSymmetricKey algorithm wrappedKey =>
    obtain ⟨heven, hlen, halg⟩ := h
    have hl : (UInt8.ofNat wrappedKey.length).toNat = wrappedKey.length :=
      UInt8.toNat_ofNat_of_lt (show wrappedKey.length < 256 by omega)
    cases algorithm with
    | none =>
      have hread : readExactSubarray (UInt8.ofNat wrappedKey.length :: (wrappedKey ++ t)) 1
          (wrappedKey.length + 1) = .ok wrappedKey := by
        rw [Nat.add_comm]; exact readExactSubarray_append [_] wrappedKey t rfl
      simp [reader, readECDHXSymmetricKey, write, hl, heven, hread, Except.map, Nat.add_comm]
    | some a =>
      obtain ⟨ha0, ha⟩ := halg a rfl
      have hl1 : (UInt8.ofNat (wrappedKey.length + 1)).toNat = wrappedKey.length + 1 :=
        UInt8.toNat_ofNat_of_lt (show wrappedKey.length + 1 < 256 by omega)
      have hodd : (wrappedKey.length + 1) % 2 = 1 := by omega
      have hread : readExactSubarray (UInt8.ofNat (wrappedKey.length + 1) :: UInt8.ofNat a ::
          (wrappedKey ++ t)) 2 (2 + wrappedKey.length) = .ok wrappedKey := by
        simpa using readExactSubarray_append [UInt8.ofNat (wrappedKey.length + 1), UInt8.ofNat a]
          wrappedKey t rfl
      simp [reader, readECDHXSymmetricKey, write, Nat.pos_iff_ne_zero.1 ha0, hl1, hodd,
        UInt8.toNat_ofNat_of_lt (show a < 256 from ha), Except.map]
      rw [hread]
      simp only [Except.ok.injEq, Prod.mk.injEq, true_and]
      omega
  | shortByteString data =>
    simp [reader, readShortByteString, write,
      readLengthPrefixed_append _ _ _ (show data.length < 256 from h), Except.map]

end TypeObject

/-! ## Parameter records -/

/-- A field of a parameter record: a `Uint8Array`, an instance of a class of `src/type/`, or
`undefined`. -/
inductive Param
  | bytes (b : Bytes)
  | object (o : TypeObject)
  | undefined
deriving DecidableEq, Repr

/-- A parameter record, a JavaScript object: its fields in key order. -/
abbrev Params := List (String × Param)

/-- `params[name]`: `undefined` for a field the record lacks. -/
def Params.get (params : Params) (name : String) : Param := (params.lookup name).getD .undefined

@[simp] theorem Params.get_nil (name : String) : Params.get [] name = .undefined := rfl

@[simp] theorem Params.get_cons (key name : String) (p : Param) (rest : Params) :
    Params.get ((key, p) :: rest) name = if name = key then p else rest.get name := by
  by_cases h : name = key
  · simp [Params.get, List.lookup_cons, h]
  · simp [Params.get, List.lookup_cons, h, beq_eq_false_iff_ne.2 h]

/-! ## Key IDs -/

/-- `KeyID.wildcard()`: eight zero octets. -/
def KeyID.wildcard : Bytes := List.replicate 8 0

/-- `KeyID.read(bytes)`: the first eight octets of `bytes`. -/
def KeyID.read (bytes : Bytes) : Bytes := bytes.take 8

/-! ## S2K specifiers -/

/-- A string-to-key specifier (spec §3): `Simple(hash)`, `Salted(hash, salt[8])`,
`Iterated(hash, salt[8], count)`, `Argon2(salt[16], passes, parallelism, memExp)` or
`GNU-Dummy`. -/
inductive S2K
  | simple (algorithm : Nat)
  | salted (algorithm : Nat) (salt : Bytes)
  | iterated (algorithm : Nat) (salt : Bytes) (c : Nat)
  | argon2 (salt : Bytes) (t p encodedM : Nat)
  | gnuDummy
deriving DecidableEq, Repr

namespace S2K

/-- `s2k.type === 'gnu-dummy'`. -/
def isGnuDummy : S2K → Bool
  | gnuDummy => true
  | _ => false

/-- `s2k.type === 'argon2'`. -/
def isArgon2 : S2K → Bool
  | argon2 .. => true
  | _ => false

/-- `s2k.type === 'simple'`. -/
def isSimple : S2K → Bool
  | simple _ => true
  | _ => false

/-- Modelled from the spec: `s2k.write()` (`src/type/s2k` is absent): the type octet followed
by the specifier's fields (RFC 9580 §3.7.1); a GNU dummy is `101, 0, "GNU", 1`. -/
def write : S2K → Bytes
  | simple a => [UInt8.ofNat S2KCode.simple, UInt8.ofNat a]
  | salted a salt => [UInt8.ofNat S2KCode.salted, UInt8.ofNat a] ++ salt
  | iterated a salt c => [UInt8.ofNat S2KCode.iterated, UInt8.ofNat a] ++ salt ++ [UInt8.ofNat c]
  | argon2 salt t p m => [UInt8.ofNat S2KCode.argon2] ++ salt ++ [UInt8.ofNat t, UInt8.ofNat p,
      UInt8.ofNat m]
  | gnuDummy => [UInt8.ofNat S2KCode.gnu, 0, 0x47, 0x4E, 0x55, 1]

/-- Modelled from the spec: `newS2KFromType(type)` followed by `s2k.read(bytes)`
(`src/type/s2k` is absent): from the type octet and the octets after it, the specifier and the
number of octets it took after the type octet. Unknown types and GNU modes other than the dummy
are unsupported; a truncated specifier is rejected. -/
def read (type : Option Nat) (bytes : Bytes) : Except Err (S2K × Nat) :=
  match type, bytes with
  | some 0, a :: _ => .ok (simple a.toNat, 1)
  | some 1, a :: rest =>
    if rest.length < 8 then .error (.error "Invalid S2K") else .ok (salted a.toNat (rest.take 8), 9)
  | some 3, a :: rest =>
    match rest.drop 8 with
    | c :: _ => if rest.length < 8 then .error (.error "Invalid S2K")
      else .ok (iterated a.toNat (rest.take 8) c.toNat, 10)
    | [] => .error (.error "Invalid S2K")
  | some 4, bytes =>
    match bytes.drop 16 with
    | t :: p :: m :: _ => .ok (argon2 (bytes.take 16) t.toNat p.toNat m.toNat, 19)
    | _ => .error (.error "Invalid S2K")
  | some 101, _ :: 0x47 :: 0x4E :: 0x55 :: mode :: _ =>
    if mode = 1 then .ok (gnuDummy, 5) else .error (.unsupported "Unknown s2k gnu protection mode.")
  | some 0, [] | some 1, [] | some 3, [] => .error (.error "Invalid S2K")
  | some 101, _ => .error (.unsupported "Unknown s2k type.")
  | _, _ => .error (.unsupported "Unsupported S2K type")

/-- The specifiers whose fields fit the wire format: octet-sized numbers and salts of the
specified length. -/
def Readable : S2K → Prop
  | simple a => a < 256
  | salted a salt => a < 256 ∧ salt.length = 8
  | iterated a salt c => a < 256 ∧ salt.length = 8 ∧ c < 256
  | argon2 salt t p m => salt.length = 16 ∧ t < 256 ∧ p < 256 ∧ m < 256
  | gnuDummy => True

/-- **An S2K specifier reads back what it wrote**, from its type octet. -/
theorem read_write (s : S2K) (h : s.Readable) (t : Bytes) :
    read ((s.write.head?).map UInt8.toNat) (s.write.tail ++ t) = .ok (s, s.write.length - 1) := by
  cases s with
  | simple a =>
    simp [write, read.eq_def, S2KCode.simple, UInt8.toNat_ofNat_of_lt (show a < 256 from h)]
  | salted a salt =>
    obtain ⟨ha, hs⟩ := h
    simp [write, read.eq_def, S2KCode.salted, UInt8.toNat_ofNat_of_lt ha, hs,
      List.take_append_of_le_length]
  | iterated a salt c =>
    obtain ⟨ha, hs, hc⟩ := h
    simp [write, read.eq_def, S2KCode.iterated, UInt8.toNat_ofNat_of_lt ha, hs,
      UInt8.toNat_ofNat_of_lt hc, List.drop_append_eq_append_drop, List.take_append_of_le_length]
  | argon2 salt t' p m =>
    obtain ⟨hs, ht, hp, hm⟩ := h
    simp [write, read.eq_def, S2KCode.argon2, hs, UInt8.toNat_ofNat_of_lt ht,
      UInt8.toNat_ofNat_of_lt hp, UInt8.toNat_ofNat_of_lt hm, List.drop_append_eq_append_drop,
      List.take_append_of_le_length]
  | gnuDummy => rfl

end S2K

end OpenPgp
