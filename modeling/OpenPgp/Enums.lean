import OpenPgp.Util

/-!
# Algorithm registries

`src/enums.js`, `src/crypto/cipher` and `src/crypto/hash` are not among the sources. The
numeric codes the modelled code switches on are those the specification fixes (§3 and §6, which
defer to RFC 9580 §9 and the PQC draft): the public-key algorithms as an inductive type with its
code table, and the symmetric ciphers, AEAD modes, hashes, curves, S2K types and packet tags as
the numbers the packets carry, each with the lookup the code performs on them (`getCipherParams`,
`getAEADMode`, `getHashByteLength`, `enums.read`, `enums.write`).
-/

namespace OpenPgp

/-- The public-key algorithms of `enums.publicKey` that the parameter tables know. -/
inductive PublicKeyAlgorithm
  | rsaEncryptSign
  | rsaEncrypt
  | rsaSign
  | elgamal
  | dsa
  | ecdh
  | ecdsa
  | eddsaLegacy
  | x25519
  | x448
  | ed25519
  | ed448
  | hmac
  | aead
  | pqcMlkemX25519
  | pqcMldsaEd25519
  | pqcSlhdsaShake128s
deriving DecidableEq, Repr

namespace PublicKeyAlgorithm

/-- The registered code of each algorithm (spec §3). -/
def code : PublicKeyAlgorithm → Nat
  | rsaEncryptSign => 1
  | rsaEncrypt => 2
  | rsaSign => 3
  | elgamal => 16
  | dsa => 17
  | ecdh => 18
  | ecdsa => 19
  | eddsaLegacy => 22
  | x25519 => 25
  | x448 => 26
  | ed25519 => 27
  | ed448 => 28
  | hmac => 101
  | aead => 102
  | pqcMlkemX25519 => 105
  | pqcMldsaEd25519 => 107
  | pqcSlhdsaShake128s => 108

/-- The algorithm a code names; `none` for a code no `case` of the dispatcher matches. -/
def ofCode : Nat → Option PublicKeyAlgorithm
  | 1 => some rsaEncryptSign
  | 2 => some rsaEncrypt
  | 3 => some rsaSign
  | 16 => some elgamal
  | 17 => some dsa
  | 18 => some ecdh
  | 19 => some ecdsa
  | 22 => some eddsaLegacy
  | 25 => some x25519
  | 26 => some x448
  | 27 => some ed25519
  | 28 => some ed448
  | 101 => some hmac
  | 102 => some aead
  | 105 => some pqcMlkemX25519
  | 107 => some pqcMldsaEd25519
  | 108 => some pqcSlhdsaShake128s
  | _ => none

@[simp] theorem ofCode_code (a : PublicKeyAlgorithm) : ofCode a.code = some a := by
  cases a <;> rfl

theorem code_injective {a b : PublicKeyAlgorithm} (h : a.code = b.code) : a = b := by
  have hb := ofCode_code a
  rw [h, ofCode_code] at hb
  exact (Option.some.inj hb).symm

theorem code_lt (a : PublicKeyAlgorithm) : a.code < 256 := by
  cases a <;> decide

end PublicKeyAlgorithm

/-! ## Symmetric ciphers -/

/-- The symmetric cipher codes of `enums.symmetric` (RFC 9580 §9.3). -/
def symmetricCodes : List Nat := [0, 1, 2, 3, 4, 7, 8, 9, 10, 11, 12, 13]

namespace Symmetric

/-- `enums.symmetric.aes128`. -/
def aes128 : Nat := 7
/-- `enums.symmetric.aes192`. -/
def aes192 : Nat := 8
/-- `enums.symmetric.aes256`. -/
def aes256 : Nat := 9

end Symmetric

/-- Key and block size of a cipher, in octets. -/
structure CipherParams where
  keySize : Nat
  blockSize : Nat
deriving DecidableEq, Repr

/-- Modelled from the spec: `getCipherParams` (`src/crypto/cipher` is absent), the key and block
sizes of the RFC 9580 ciphers; `plaintext` and unknown codes have none. -/
def getCipherParams : Nat → Except Err CipherParams
  | 1 => .ok ⟨16, 8⟩
  | 2 => .ok ⟨24, 8⟩
  | 3 => .ok ⟨16, 8⟩
  | 4 => .ok ⟨16, 8⟩
  | 7 => .ok ⟨16, 16⟩
  | 8 => .ok ⟨24, 16⟩
  | 9 => .ok ⟨32, 16⟩
  | 10 => .ok ⟨32, 16⟩
  | 11 => .ok ⟨16, 16⟩
  | 12 => .ok ⟨24, 16⟩
  | 13 => .ok ⟨32, 16⟩
  | _ => .error (.error "Unsupported symmetric algorithm")

@[simp] theorem getCipherParams_aes256 : getCipherParams Symmetric.aes256 = .ok ⟨32, 16⟩ := rfl

/-- Every cipher with parameters is a registered symmetric algorithm. -/
theorem mem_symmetricCodes_of_getCipherParams {c : Nat} {p : CipherParams}
    (h : getCipherParams c = .ok p) : c ∈ symmetricCodes := by
  unfold getCipherParams at h
  split at h <;> cases h <;> decide

/-- Every cipher with parameters has a nonzero one-octet code. -/
theorem getCipherParams_code {c : Nat} {p : CipherParams} (h : getCipherParams c = .ok p) :
    0 < c ∧ c < 256 := by
  unfold getCipherParams at h
  split at h <;> cases h <;> decide

/-- Every key size is a whole number of 8-octet blocks between 16 and 32 octets. -/
theorem getCipherParams_keySize {c : Nat} {p : CipherParams} (h : getCipherParams c = .ok p) :
    p.keySize % 8 = 0 ∧ 16 ≤ p.keySize ∧ p.keySize ≤ 32 := by
  unfold getCipherParams at h
  split at h <;> cases h <;> decide

/-- `util.isAES`. -/
def isAES (algo : Nat) : Bool := algo == 7 || algo == 8 || algo == 9

/-- Modelled from the spec: `enums.read(enums.symmetric, e)` (`src/enums.js` is absent), which
returns the cipher's name and throws for a value the registry lacks. -/
def enumsReadSymmetric (e : Option Nat) : Except Err Unit :=
  match e with
  | some n => if n ∈ symmetricCodes then .ok () else .error (.error "Invalid enum value.")
  | none => .error (.error "Invalid enum value.")

/-- Modelled from the spec: `enums.write(enums.symmetric, e)` (`src/enums.js` is absent): a
registered number is returned as it is; `null` and unknown values throw. -/
def enumsWriteSymmetric (e : Option Nat) : Except Err Nat :=
  match e with
  | some n => if n ∈ symmetricCodes then .ok n else .error (.error "Invalid enum value.")
  | none => .error (.error "Invalid enum value.")

/-- Modelled from the spec: `enums.write(enums.publicKey, e)` (`src/enums.js` is absent), with the
registry of §3: a registered code is returned as it is; `null` and unknown values throw. -/
def enumsWritePublicKey (e : Option Nat) : Except Err Nat :=
  match e.bind PublicKeyAlgorithm.ofCode with
  | some a => .ok a.code
  | none => .error (.error "Invalid enum value.")

@[simp] theorem enumsWritePublicKey_code (a : PublicKeyAlgorithm) :
    enumsWritePublicKey (some a.code) = .ok a.code := by
  simp [enumsWritePublicKey]

/-! ## AEAD modes and hashes -/

/-- The AEAD mode codes of `enums.aead`: EAX, OCB, GCM, and the pre-standard `experimentalGCM`. -/
def aeadCodes : List Nat := [1, 2, 3, 100]

/-- Modelled from the spec: `cipherMode.getAEADMode(algo, acceptExperimentalGCM)`
(`src/crypto/cipherMode` is absent), reduced to the nonce length the callers read
(`mode.ivLength`); unknown modes throw, and `experimentalGCM` only when it is not accepted. -/
def getAEADMode (algo : Nat) (acceptExperimentalGCM : Bool := false) : Except Err Nat :=
  match algo with
  | 1 => .ok 16
  | 2 => .ok 15
  | 3 => .ok 12
  | 100 => if acceptExperimentalGCM then .ok 12
    else .error (.error "Unexpected non-standard `experimentalGCM` AEAD algorithm provided")
  | _ => .error (.error "Unsupported AEAD mode")

/-- Length of the authentication tag every AEAD mode appends. -/
def aeadTagLength : Nat := 16

/-- Modelled from the spec: `getHashByteLength` (`src/crypto/hash` is absent), the digest sizes
of the RFC 9580 hashes (§9.5). -/
def getHashByteLength : Nat → Except Err Nat
  | 1 => .ok 16
  | 2 => .ok 20
  | 3 => .ok 20
  | 8 => .ok 32
  | 9 => .ok 48
  | 10 => .ok 64
  | 11 => .ok 28
  | 12 => .ok 32
  | 14 => .ok 64
  | _ => .error (.error "Invalid hash function.")

namespace Hash

/-- `enums.hash.sha1`. -/
def sha1 : Nat := 2
/-- `enums.hash.sha256`. -/
def sha256 : Nat := 8
/-- `enums.hash.sha3_256`. -/
def sha3256 : Nat := 12

end Hash

/-- The hash codes of `enums.hash`. -/
def hashCodes : List Nat := [1, 2, 3, 8, 9, 10, 11, 12, 14]

/-! ## Curves -/

/-- The curves `enums.curve` names, each with its object identifier. -/
inductive Curve
  | p256
  | p384
  | p521
  | secp256k1
  | ed25519Legacy
  | curve25519Legacy
  | brainpoolP256r1
  | brainpoolP384r1
  | brainpoolP512r1
deriving DecidableEq, Repr

namespace Curve

/-- The DER body of the curve's object identifier. -/
def oid : Curve → Bytes
  | p256 => [0x2A, 0x86, 0x48, 0xCE, 0x3D, 0x03, 0x01, 0x07]
  | p384 => [0x2B, 0x81, 0x04, 0x00, 0x22]
  | p521 => [0x2B, 0x81, 0x04, 0x00, 0x23]
  | secp256k1 => [0x2B, 0x81, 0x04, 0x00, 0x0A]
  | ed25519Legacy => [0x2B, 0x06, 0x01, 0x04, 0x01, 0xDA, 0x47, 0x0F, 0x01]
  | curve25519Legacy => [0x2B, 0x06, 0x01, 0x04, 0x01, 0x97, 0x55, 0x01, 0x05, 0x01]
  | brainpoolP256r1 => [0x2B, 0x24, 0x03, 0x03, 0x02, 0x08, 0x01, 0x01, 0x07]
  | brainpoolP384r1 => [0x2B, 0x24, 0x03, 0x03, 0x02, 0x08, 0x01, 0x01, 0x0B]
  | brainpoolP512r1 => [0x2B, 0x24, 0x03, 0x03, 0x02, 0x08, 0x01, 0x01, 0x0D]

/-- `CurveWithOID(oid).payloadSize`: the length of an encoded secret scalar. -/
def payloadSize : Curve → Nat
  | p256 => 32
  | p384 => 48
  | p521 => 66
  | secp256k1 => 32
  | ed25519Legacy => 32
  | curve25519Legacy => 32
  | brainpoolP256r1 => 32
  | brainpoolP384r1 => 48
  | brainpoolP512r1 => 64

/-- All curves, in the order of `enums.curve`. -/
def all : List Curve :=
  [p256, p384, p521, secp256k1, ed25519Legacy, curve25519Legacy, brainpoolP256r1,
    brainpoolP384r1, brainpoolP512r1]

/-- `OID.getName()`: the curve an object identifier names, if any. -/
def ofOid (oid : Bytes) : Option Curve := all.find? (·.oid == oid)

@[simp] theorem ofOid_oid (c : Curve) : ofOid c.oid = some c := by
  cases c <;> rfl

theorem oid_length_lt (c : Curve) : c.oid.length < 256 := by
  cases c <;> decide

theorem payloadSize_le (c : Curve) : c.payloadSize ≤ 66 := by
  cases c <;> decide

end Curve

/-! ## S2K types and packet tags -/

namespace S2KCode

/-- `enums.s2k.simple`. -/
def simple : Nat := 0
/-- `enums.s2k.salted`. -/
def salted : Nat := 1
/-- `enums.s2k.iterated`. -/
def iterated : Nat := 3
/-- `enums.s2k.argon2`. -/
def argon2 : Nat := 4
/-- `enums.s2k.gnu`. -/
def gnu : Nat := 101

end S2KCode

namespace PacketTag

/-- `enums.packet.publicKeyEncryptedSessionKey`. -/
def publicKeyEncryptedSessionKey : Nat := 1
/-- `enums.packet.signature`. -/
def signature : Nat := 2
/-- `enums.packet.symEncryptedSessionKey`. -/
def symEncryptedSessionKey : Nat := 3
/-- `enums.packet.onePassSignature`. -/
def onePassSignature : Nat := 4
/-- `enums.packet.secretKey`. -/
def secretKey : Nat := 5
/-- `enums.packet.compressedData`. -/
def compressedData : Nat := 8
/-- `enums.packet.symmetricallyEncryptedData`. -/
def symmetricallyEncryptedData : Nat := 9
/-- `enums.packet.marker`. -/
def marker : Nat := 10
/-- `enums.packet.literalData`. -/
def literalData : Nat := 11
/-- `enums.packet.symEncryptedIntegrityProtectedData`. -/
def symEncryptedIntegrityProtectedData : Nat := 18
/-- `enums.packet.aeadEncryptedData`. -/
def aeadEncryptedData : Nat := 20
/-- `enums.packet.padding`. -/
def padding : Nat := 21

/-- The tags `enums.packet` registers (RFC 9580 §5): `enums.read(enums.packet, tag)` succeeds on
exactly these. -/
def known : List Nat := [1, 2, 3, 4, 5, 6, 7, 8, 9, 10, 11, 12, 13, 14, 17, 18, 19, 20, 21]

end PacketTag

/-- Modelled from the spec: `writeTag(tag)` (`src/packet/packet.js` is absent), the one-octet
new-format packet header `0xC0 | tag`. -/
def writeTag (tag : Nat) : Bytes := [UInt8.ofNat (0xC0 + tag)]

end OpenPgp
