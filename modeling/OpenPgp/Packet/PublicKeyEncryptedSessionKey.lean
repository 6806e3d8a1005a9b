import OpenPgp.Crypto.PublicKey

/-!
# The public-key encrypted session key packet

`src/packet/public_key_encrypted_session_key.js`: the packet's fields, `fromObject`, `read`,
`write`, `encrypt` and `decrypt`, and the session-key codec `encodeSessionKey` /
`decodeSessionKey` with its constant-time fallback. A method is a function from the packet to the
packet it leaves behind, or to the exception it throws.

The key packet a PKESK is built from or decrypted with is `KeyPacket`: the fields and methods of
`src/packet/public_key.js` and `secret_key.js` that this file reads.
-/

namespace OpenPgp

open PublicKeyAlgorithm

/-- The fields and methods of a (public or secret) key packet that a PKESK reads: `version`,
`algorithm`, `getFingerprintBytes()`, `publicParams`, and `privateParams`, which is `null` on a
public or encrypted key. -/
structure KeyPacket where
  version : Nat
  algorithm : Nat
  fingerprint : Bytes
  publicParams : Params
  privateParams : Option Params

namespace KeyPacket

/-- Modelled from RFC 9580 §5.5.4, which the spec defers to (`src/packet/public_key.js` is
absent): `getKeyID()`, the high-order 64 bits of a v5 or v6 fingerprint and the low-order 64 bits
of an older one. -/
def getKeyID (key : KeyPacket) : Bytes :=
  if 5 ≤ key.version then key.fingerprint.take 8
  else key.fingerprint.drop (key.fingerprint.length - 8)

/-- The fingerprint bound into the ECDH key derivation: the first 20 octets for a v5 key. -/
def kdfFingerprint (key : KeyPacket) : Bytes :=
  if key.version = 5 then key.fingerprint.take 20 else key.fingerprint

end KeyPacket

/-- The `randomSessionKey` argument of `decrypt`: `{ sessionKey, sessionKeyAlgorithm }` with an
`enums.symmetric` value. -/
structure RandomSessionKey where
  sessionKey : Bytes
  sessionKeyAlgorithm : Nat

/-- `algosWithV3CleartextSessionKeyAlgorithm`: the algorithms whose v3 packets carry the cipher in
the clear, in the wrapped-key structure. -/
def algosWithV3CleartextSessionKeyAlgorithm : List PublicKeyAlgorithm :=
  [x25519, x448, pqcMlkemX25519]

/-- `algosWithV3CleartextSessionKeyAlgorithm.has(algo)`. -/
def hasCleartextAlgorithm (algo : Nat) : Bool :=
  match ofCode algo with
  | some a => a ∈ algosWithV3CleartextSessionKeyAlgorithm
  | none => false

/-! ## The session-key codec -/

/-- `encodeSessionKey(version, keyAlgo, cipherAlgo, sessionKeyData)`: for the checksum family, the
cipher octet (v3 only), the key and the 16-bit checksum of the key from offset `|key| mod 8`; for
X25519, X448 and ML-KEM the key alone. A `null` cipher is written as `0`. -/
def encodeSessionKey (version keyAlgo : Nat) (cipherAlgo : Option Nat) (sessionKeyData : Bytes) :
    Except Err Bytes :=
  match ofCode keyAlgo with
  | some rsaEncrypt | some rsaEncryptSign | some elgamal | some ecdh | some aead =>
    .ok ((if version = 6 then [] else [UInt8.ofNat (cipherAlgo.getD 0)]) ++ sessionKeyData ++
      writeChecksum (sessionKeyData.drop (sessionKeyData.length % 8)))
  | some x25519 | some x448 | some pqcMlkemX25519 => .ok sessionKeyData
  | _ => .error (.error "Unsupported public key algorithm")

/-- `isValidChecksum` of `decodeSessionKey`: `computedChecksum[0] === checksum[0] &
computedChecksum[1] === checksum[1]`, where `checksum` is the last two octets of the payload and
`computedChecksum` the checksum of the rest, `result`, from offset `|result| mod 8`. -/
def isValidChecksum (decryptedData : Bytes) : Bool :=
  let result := decryptedData.take (decryptedData.length - 2)
  let checksum := decryptedData.drop (decryptedData.length - 2)
  let computedChecksum := writeChecksum (result.drop (result.length % 8))
  computedChecksum.get? 0 == checksum.get? 0 && computedChecksum.get? 1 == checksum.get? 1

/-- `decryptedSessionKey` of `decodeSessionKey`: the payload without its checksum, and for v3 split
into the cipher octet and the key. The cipher is `null` for v6 and `undefined` (`none`) for an
empty v3 payload. -/
def decryptedSessionKey (version : Nat) (decryptedData : Bytes) : Bytes × Option Nat :=
  let result := decryptedData.take (decryptedData.length - 2)
  if version = 6 then (result, none) else (result.drop 1, byteAt result 0)

/-- `isValidPayload` of `decodeSessionKey` given a `randomSessionKey` `r`: the checksum verifies,
and the decrypted cipher and key length are `r`'s. The cipher of a v6 payload is `null`. -/
def isValidPayload (version : Nat) (decryptedData : Bytes) (r : RandomSessionKey) : Bool :=
  isValidChecksum decryptedData &&
    (decryptedSessionKey version decryptedData).2 == some r.sessionKeyAlgorithm &&
    (decryptedSessionKey version decryptedData).1.length == r.sessionKey.length

/-- `decodeSessionKey(version, keyAlgo, decryptedData, randomSessionKey)`: the session key and its
cipher (`null` for v6 and for the algorithms that carry no cipher in the payload). With a
`randomSessionKey`, an invalid payload is replaced by it without an exception, through the
constant-time selections; without one, it throws. -/
def decodeSessionKey (version keyAlgo : Nat) (decryptedData : Bytes)
    (randomSessionKey : Option RandomSessionKey) : Except Err (Bytes × Option Nat) :=
  match ofCode keyAlgo with
  | some rsaEncrypt | some rsaEncryptSign | some elgamal | some ecdh | some aead =>
    let decrypted := decryptedSessionKey version decryptedData
    match randomSessionKey with
    | some r =>
      .ok (selectUint8Array (isValidPayload version decryptedData r) decrypted.1 r.sessionKey,
        if version = 6 then none
        else selectUint8 (isValidPayload version decryptedData r) decrypted.2
          (some r.sessionKeyAlgorithm))
    | none => do
      let isValidPayload ← if isValidChecksum decryptedData then
          if version = 6 then pure true else (enumsReadSymmetric decrypted.2).map fun _ => true
        else pure false
      if isValidPayload then pure decrypted else throw (.error "Decryption error")
  | some x25519 | some x448 | some pqcMlkemX25519 => .ok (decryptedData, none)
  | _ => .error (.error "Unsupported public key algorithm")

/-! ## The packet -/

/-- The fields of a PKESK packet, as the constructor initializes them. `publicKeyID` is the
octet string of its `KeyID`. -/
structure PublicKeyEncryptedSessionKeyPacket where
  version : Option Nat := none
  publicKeyID : Bytes := []
  publicKeyVersion : Option Nat := none
  publicKeyFingerprint : Option Bytes := none
  publicKeyAlgorithm : Option Nat := none
  sessionKey : Option Bytes := none
  sessionKeyAlgorithm : Option Nat := none
  encrypted : Params := []

namespace PublicKeyEncryptedSessionKeyPacket

/-- `PublicKeyEncryptedSessionKeyPacket.fromObject({ version, encryptionKeyPacket,
anonymousRecipient, sessionKey, sessionKeyAlgorithm })`. -/
def fromObject (version : Nat) (encryptionKeyPacket : KeyPacket) (anonymousRecipient : Bool)
    (sessionKey : Bytes) (sessionKeyAlgorithm : Option Nat) :
    Except Err PublicKeyEncryptedSessionKeyPacket :=
  if version ≠ 3 ∧ version ≠ 6 then .error (.error "Unsupported PKESK version")
  else
    let named := version = 6 ∧ !anonymousRecipient
    .ok { version := some version
          publicKeyVersion := if named then some encryptionKeyPacket.version else none
          publicKeyFingerprint := if named then some encryptionKeyPacket.fingerprint else none
          publicKeyID := if anonymousRecipient then KeyID.wildcard else encryptionKeyPacket.getKeyID
          publicKeyAlgorithm := some encryptionKeyPacket.algorithm
          sessionKey := some sessionKey
          sessionKeyAlgorithm }

/-- The recipient fields `read` parses after the version octet, and the offset of the algorithm
octet: a v6 key version and fingerprint (the wildcard key ID when the size octet is `0` or
missing), or a v3 key ID. -/
def readRecipient (pkt : PublicKeyEncryptedSessionKeyPacket) (version : Option Nat)
    (bytes : Bytes) :
    PublicKeyEncryptedSessionKeyPacket × Nat :=
  if version = some 6 then
    match byteAt bytes 1 with
    | some (fingerprintLength + 1) =>
      let publicKeyVersion := byteAt bytes 2
      let fingerprint := slice bytes 3 (3 + fingerprintLength)
      let publicKeyID := if publicKeyVersion.any (5 ≤ ·) then KeyID.read fingerprint
        else KeyID.read (fingerprint.drop (fingerprint.length - 8))
      ({ pkt with publicKeyVersion, publicKeyFingerprint := some fingerprint, publicKeyID },
        3 + fingerprintLength)
    | _ => ({ pkt with publicKeyID := KeyID.wildcard }, 2)
  else
    let publicKeyID := KeyID.read (slice bytes 1 9)
    ({ pkt with publicKeyID }, 1 + publicKeyID.length)

/-- `this.encrypted.C.algorithm`. -/
def cleartextAlgorithm (encrypted : Params) : Except Err (Option Nat) :=
  (encrypted.getObject "C" >>= TypeObject.ecdhX).map Prod.fst

/-- `read(bytes)`. -/
def read (pkt : PublicKeyEncryptedSessionKeyPacket) (bytes : Bytes) :
    Except Err PublicKeyEncryptedSessionKeyPacket := do
  let version := byteAt bytes 0
  if version ≠ some 3 ∧ version ≠ some 6 then
    throw (.unsupported ("Version " ++ (version.map toString).getD "undefined" ++
      " of the PKESK packet is unsupported."))
  let (pkt, offset) := readRecipient { pkt with version } version bytes
  let publicKeyAlgorithm := byteAt bytes offset
  let encrypted ← match publicKeyAlgorithm with
    | some algo => parseEncSessionKeyParams algo (bytes.drop (offset + 1))
    | none => throw (.unsupported "Unknown public key encryption algorithm.")
  let pkt := { pkt with publicKeyAlgorithm, encrypted }
  if publicKeyAlgorithm.any hasCleartextAlgorithm then
    let algorithm ← cleartextAlgorithm encrypted
    if version = some 3 then
      let sessionKeyAlgorithm ← enumsWriteSymmetric algorithm
      pure { pkt with sessionKeyAlgorithm := some sessionKeyAlgorithm }
    else if algorithm ≠ none then throw (.error "Unexpected cleartext symmetric algorithm")
    else pure pkt
  else pure pkt

/-- The recipient field `write` emits: for v6 the size octet, key version and fingerprint, or a
zero size for an anonymous recipient; for v3 the key ID. `null` numbers are written as `0`. -/
def writeRecipient (pkt : PublicKeyEncryptedSessionKeyPacket) : Bytes :=
  if pkt.version = some 6 then
    match pkt.publicKeyFingerprint with
    | some fingerprint =>
      [UInt8.ofNat (fingerprint.length + 1), UInt8.ofNat (pkt.publicKeyVersion.getD 0)] ++
        fingerprint
    | none => [0]
  else pkt.publicKeyID

/-- `write()`: version, recipient, algorithm and the serialized encrypted record. -/
def write (pkt : PublicKeyEncryptedSessionKeyPacket) : Except Err Bytes := do
  let params ← serializeParams (pkt.publicKeyAlgorithm.getD 0) pkt.encrypted
  pure ([UInt8.ofNat (pkt.version.getD 0)] ++ writeRecipient pkt ++
    [UInt8.ofNat (pkt.publicKeyAlgorithm.getD 0)] ++ params)

section
variable (prims : Primitives) (config : Config) (random : Random)

/-- `encrypt(key)`: the session key encoded and encrypted to `key`; the cipher rides along only in
a v3 packet. Encoding a `null` session key throws. -/
def encrypt (pkt : PublicKeyEncryptedSessionKeyPacket) (key : KeyPacket) :
    Except Err PublicKeyEncryptedSessionKeyPacket := do
  let algo ← enumsWritePublicKey pkt.publicKeyAlgorithm
  let sessionKeyAlgorithm := if pkt.version = some 3 then pkt.sessionKeyAlgorithm else none
  let some sessionKey := pkt.sessionKey
    | throw (.typeError "Cannot read properties of null (reading 'subarray')")
  let encoded ← encodeSessionKey (pkt.version.getD 0) algo sessionKeyAlgorithm sessionKey
  let privateParams := if algo = aead.code then key.privateParams else none
  let encrypted ← publicKeyEncrypt prims config random algo sessionKeyAlgorithm key.publicParams
    privateParams encoded key.kdfFingerprint
  pure { pkt with encrypted }

/-- `decrypt(key, randomSessionKey)`: the session key decrypted with `key`. A v3 packet takes its
cipher from the payload (for the checksum family) or keeps the one `read` gave it, and checks the
key size against it. -/
def decrypt (pkt : PublicKeyEncryptedSessionKeyPacket) (key : KeyPacket)
    (randomSessionKey : Option RandomSessionKey) :
    Except Err PublicKeyEncryptedSessionKeyPacket := do
  if pkt.publicKeyAlgorithm ≠ some key.algorithm then throw (.error "Decryption error")
  let version := pkt.version.getD 0
  let randomPayload ← match randomSessionKey with
    | some r =>
      some <$> encodeSessionKey version key.algorithm (some r.sessionKeyAlgorithm) r.sessionKey
    | none => pure none
  let decryptedData ← publicKeyDecrypt prims key.algorithm key.publicParams key.privateParams
    pkt.encrypted key.kdfFingerprint randomPayload
  let (sessionKey, sessionKeyAlgorithm) ←
    decodeSessionKey version key.algorithm decryptedData randomSessionKey
  if pkt.version = some 3 then
    let sessionKeyAlgorithm := if hasCleartextAlgorithm key.algorithm then
      pkt.sessionKeyAlgorithm else sessionKeyAlgorithm
    let params ← match sessionKeyAlgorithm with
      | some c => getCipherParams c
      | none => throw (.error "Unsupported symmetric algorithm")
    if sessionKey.length ≠ params.keySize then throw (.error "Unexpected session key size")
    pure { pkt with sessionKeyAlgorithm, sessionKey := some sessionKey }
  else pure { pkt with sessionKey := some sessionKey }

end

end PublicKeyEncryptedSessionKeyPacket

end OpenPgp
