import OpenPgp.Crypto.Params

/-!
# The public-key dispatcher

`publicKeyEncrypt` and `publicKeyDecrypt` of `src/crypto/crypto.js`, and the ML-KEM + X25519 KEM
of `src/crypto/public_key/post_quantum/kem/` that they call: `kem.js`, which combines the two key
shares into an AES key-wrapping key, and the `ml_kem` and `ecc_kem` halves in `ml_kem.js`.
Everything else the two functions reach is a primitive of `Primitives`.

A field the code destructures from a record is read with `Params.getBytes` (a byte string) or
`Params.getObject` (a class instance). A field missing there reaches the adapter as `undefined`,
where the first use throws; the accessors throw that `TypeError` themselves.
-/

namespace OpenPgp

open PublicKeyAlgorithm

/-! ## Record fields -/

/-- A byte-string field of a record, as an adapter consumes it. -/
def Params.getBytes (params : Params) (name : String) : Except Err Bytes :=
  match params.get name with
  | .bytes b => .ok b
  | _ => .error (.typeError "Cannot read properties of undefined")

/-- A class-instance field of a record. -/
def Params.getObject (params : Params) (name : String) : Except Err TypeObject :=
  match params.get name with
  | .object o => .ok o
  | _ => .error (.typeError "Cannot read properties of undefined")

namespace TypeObject

/-- The DER body of an `OID`, as `elliptic.ecdh` consumes it. -/
def oidBytes : TypeObject → Except Err Bytes
  | oid der => .ok der
  | _ => .error (.typeError "Cannot read properties of undefined")

/-- The hash and cipher of a `KDFParams`. -/
def kdf : TypeObject → Except Err (Nat × Nat)
  | kdfParams hash cipher => .ok (hash, cipher)
  | _ => .error (.typeError "Cannot read properties of undefined")

/-- `C.data` of an `ECDHSymkey` or a `ShortByteString`. -/
def data : TypeObject → Except Err Bytes
  | ecdhSymkey d | shortByteString d => .ok d
  | _ => .error (.typeError "Cannot read properties of undefined")

/-- `C.algorithm` and `C.wrappedKey` of an `ECDHXSymmetricKey`. -/
def ecdhX : TypeObject → Except Err (Option Nat × Bytes)
  | ecdhXSymmetricKey algorithm wrappedKey => .ok (algorithm, wrappedKey)
  | _ => .error (.typeError "Cannot read properties of undefined")

end TypeObject

/-! ## The ML-KEM + X25519 KEM -/

/-- `util.encodeUTF8`. -/
def encodeUTF8 (s : String) : Bytes := s.toUTF8.toList

/-- `eccKem.encaps(eccAlgo, eccRecipientPublicKey)`: the key share, the SHA3-256 digest of an
ephemeral X25519 shared secret with the ephemeral key and the recipient key, and the ephemeral key
as the ciphertext. -/
def eccKemEncaps (prims : Primitives) (eccAlgo : Nat) (eccRecipientPublicKey : Bytes) :
    Except Err (Bytes × Bytes) :=
  if eccAlgo = pqcMlkemX25519.code then do
    let (eccCipherText, eccSharedSecret) ←
      prims.ecdhXGenerateEphemeral x25519.code eccRecipientPublicKey
    let eccKeyShare := prims.computeDigest Hash.sha3256
      (eccSharedSecret ++ eccCipherText ++ eccRecipientPublicKey)
    pure (eccKeyShare, eccCipherText)
  else throw (.error "Unsupported KEM algorithm")

/-- `eccKem.decaps(eccAlgo, eccCipherText, eccSecretKey, eccPublicKey)`. -/
def eccKemDecaps (prims : Primitives) (eccAlgo : Nat)
    (eccCipherText eccSecretKey eccPublicKey : Bytes) :
    Except Err Bytes :=
  if eccAlgo = pqcMlkemX25519.code then do
    let eccSharedSecret ←
      prims.ecdhXRecomputeSharedSecret x25519.code eccCipherText eccPublicKey eccSecretKey
    pure (prims.computeDigest Hash.sha3256 (eccSharedSecret ++ eccCipherText ++ eccPublicKey))
  else throw (.error "Unsupported KEM algorithm")

/-- `mlKem.encaps(algo, mlkemRecipientPublicKey)`: the key share and the ciphertext. -/
def mlKemEncaps (prims : Primitives) (algo : Nat) (mlkemRecipientPublicKey : Bytes) :
    Except Err (Bytes × Bytes) :=
  if algo = pqcMlkemX25519.code then do
    let (mlkemCipherText, mlkemKeyShare) ← prims.mlkemEncapsulate mlkemRecipientPublicKey
    pure (mlkemKeyShare, mlkemCipherText)
  else throw (.error "Unsupported KEM algorithm")

/-- `mlKem.decaps(algo, mlkemCipherText, mlkemSecretKey)`. -/
def mlKemDecaps (prims : Primitives) (algo : Nat) (mlkemCipherText mlkemSecretKey : Bytes) :
    Except Err Bytes :=
  if algo = pqcMlkemX25519.code then prims.mlkemDecapsulate mlkemCipherText mlkemSecretKey
  else throw (.error "Unsupported KEM algorithm")

/-- `multiKeyCombine`: the SHA3-256 digest of both key shares, the ECC ciphertext and public key,
the algorithm and the domain separator with its length. -/
def multiKeyCombine (prims : Primitives) (algo : Nat)
    (mlkemKeyShare ecdhKeyShare ecdhCipherText ecdhPublicKey : Bytes) : Bytes :=
  let domSep := encodeUTF8 "OpenPGPCompositeKDFv1"
  prims.computeDigest Hash.sha3256 (mlkemKeyShare ++ ecdhKeyShare ++ ecdhCipherText ++
    ecdhPublicKey ++ [UInt8.ofNat algo] ++ domSep ++ [UInt8.ofNat domSep.length])

/-- `postQuantum.kem.encrypt(algo, eccPublicKey, mlkemPublicKey, sessioneKeyData)`: the ECC and
ML-KEM ciphertexts and the session key wrapped under the combined key. -/
def kemEncrypt (prims : Primitives) (algo : Nat)
    (eccPublicKey mlkemPublicKey sessioneKeyData : Bytes) :
    Except Err (Bytes × Bytes × Bytes) := do
  let (eccKeyShare, eccCipherText) ← eccKemEncaps prims algo eccPublicKey
  let (mlkemKeyShare, mlkemCipherText) ← mlKemEncaps prims algo mlkemPublicKey
  let kek := multiKeyCombine prims algo mlkemKeyShare eccKeyShare eccCipherText eccPublicKey
  let wrappedKey ← prims.aesKWWrap Symmetric.aes256 kek sessioneKeyData
  pure (eccCipherText, mlkemCipherText, wrappedKey)

/-- `postQuantum.kem.decrypt(algo, eccCipherText, mlkemCipherText, eccSecretKey, eccPublicKey,
mlkemSecretKey, mlkemPublicKey, encryptedSessionKeyData)`. -/
def kemDecrypt (prims : Primitives) (algo : Nat)
    (eccCipherText mlkemCipherText eccSecretKey eccPublicKey mlkemSecretKey : Bytes)
    (encryptedSessionKeyData : Bytes) : Except Err Bytes := do
  let eccKeyShare ← eccKemDecaps prims algo eccCipherText eccSecretKey eccPublicKey
  let mlkemKeyShare ← mlKemDecaps prims algo mlkemCipherText mlkemSecretKey
  let kek := multiKeyCombine prims algo mlkemKeyShare eccKeyShare eccCipherText eccPublicKey
  prims.aesKWUnwrap Symmetric.aes256 kek encryptedSessionKeyData

/-! ## Encryption and decryption -/

/-- `publicKeyEncrypt(keyAlgo, symmetricAlgo, publicParams, privateParams, data, fingerprint)`:
the encrypted session-key record. An algorithm no `case` matches gives the empty record (`[]`). -/
def publicKeyEncrypt (prims : Primitives) (config : Config) (random : Random) (keyAlgo : Nat)
    (symmetricAlgo : Option Nat) (publicParams : Params) (privateParams : Option Params)
    (data fingerprint : Bytes) : Except Err Params :=
  match ofCode keyAlgo with
  | some rsaEncrypt | some rsaEncryptSign => do
    let c ← prims.rsaEncrypt data (← publicParams.getBytes "n") (← publicParams.getBytes "e")
    pure [("c", .bytes c)]
  | some elgamal => do
    let (c1, c2) ← prims.elgamalEncrypt data (← publicParams.getBytes "p")
      (← publicParams.getBytes "g") (← publicParams.getBytes "y")
    pure [("c1", .bytes c1), ("c2", .bytes c2)]
  | some ecdh => do
    let oid ← publicParams.getObject "oid" >>= TypeObject.oidBytes
    let kdfParams ← publicParams.getObject "kdfParams" >>= TypeObject.kdf
    let (V, C) ← prims.ecdhEncrypt oid kdfParams data (← publicParams.getBytes "Q") fingerprint
    pure [("V", .bytes V), ("C", .object (.ecdhSymkey C))]
  | some x25519 | some x448 => do
    if symmetricAlgo.any (fun s => s ≠ 0 && !isAES s) then
      throw (.error "X25519 and X448 keys can only encrypt AES session keys")
    let (ephemeralPublicKey, wrappedKey) ←
      prims.ecdhXEncrypt keyAlgo data (← publicParams.getBytes "A")
    pure [("ephemeralPublicKey", .bytes ephemeralPublicKey),
      ("C", .object (.ecdhXSymmetricKey symmetricAlgo wrappedKey))]
  | some aead => do
    let some privateParams := privateParams
      | throw (.error "Cannot encrypt with symmetric key missing private parameters")
    let algoValue ← enumValue (publicParams.get "cipher")
    let keyMaterial ← privateParams.getBytes "keyMaterial"
    let aeadMode := config.preferredAEADAlgorithm
    let ivLength ← getAEADMode aeadMode
    let iv := random.getRandomBytes ivLength
    let c ← prims.aeadEncrypt aeadMode algoValue keyMaterial data iv []
    pure [("aeadMode", .object (.aeadEnum aeadMode)), ("iv", .bytes iv),
      ("c", .object (.shortByteString c))]
  | some pqcMlkemX25519 => do
    let (eccCipherText, mlkemCipherText, wrappedKey) ← kemEncrypt prims keyAlgo
      (← publicParams.getBytes "eccPublicKey") (← publicParams.getBytes "mlkemPublicKey") data
    pure [("eccCipherText", .bytes eccCipherText), ("mlkemCipherText", .bytes mlkemCipherText),
      ("C", .object (.ecdhXSymmetricKey symmetricAlgo wrappedKey))]
  | _ => pure []

/-- `publicKeyDecrypt(keyAlgo, publicKeyParams, privateKeyParams, sessionKeyParams, fingerprint,
randomPayload)`. Destructuring a `null` private record throws. -/
def publicKeyDecrypt (prims : Primitives) (keyAlgo : Nat) (publicKeyParams : Params)
    (privateKeyParams : Option Params) (sessionKeyParams : Params) (fingerprint : Bytes)
    (randomPayload : Option Bytes) : Except Err Bytes :=
  let nullPrivate : Err := .typeError "Cannot destructure privateKeyParams as it is null"
  match ofCode keyAlgo with
  | some rsaEncryptSign | some rsaEncrypt => do
    let some priv := privateKeyParams | throw nullPrivate
    prims.rsaDecrypt (← sessionKeyParams.getBytes "c") (← publicKeyParams.getBytes "n")
      (← publicKeyParams.getBytes "e") (← priv.getBytes "d") (← priv.getBytes "p")
      (← priv.getBytes "q") (← priv.getBytes "u") randomPayload
  | some elgamal => do
    let some priv := privateKeyParams | throw nullPrivate
    prims.elgamalDecrypt (← sessionKeyParams.getBytes "c1") (← sessionKeyParams.getBytes "c2")
      (← publicKeyParams.getBytes "p") (← priv.getBytes "x") randomPayload
  | some ecdh => do
    let some priv := privateKeyParams | throw nullPrivate
    let oid ← publicKeyParams.getObject "oid" >>= TypeObject.oidBytes
    let kdfParams ← publicKeyParams.getObject "kdfParams" >>= TypeObject.kdf
    let C ← sessionKeyParams.getObject "C" >>= TypeObject.data
    prims.ecdhDecrypt oid kdfParams (← sessionKeyParams.getBytes "V") C
      (← publicKeyParams.getBytes "Q") (← priv.getBytes "d") fingerprint
  | some x25519 | some x448 => do
    let some priv := privateKeyParams | throw nullPrivate
    let (algorithm, wrappedKey) ← sessionKeyParams.getObject "C" >>= TypeObject.ecdhX
    if algorithm.any (fun s => !isAES s) then throw (.error "AES session key expected")
    prims.ecdhXDecrypt keyAlgo (← sessionKeyParams.getBytes "ephemeralPublicKey") wrappedKey
      (← publicKeyParams.getBytes "A") (← priv.getBytes "k")
  | some aead => do
    let some priv := privateKeyParams | throw nullPrivate
    let algoValue ← enumValue (publicKeyParams.get "cipher")
    let keyMaterial ← priv.getBytes "keyMaterial"
    let aeadMode ← enumValue (sessionKeyParams.get "aeadMode")
    let _ ← getAEADMode aeadMode
    let c ← sessionKeyParams.getObject "c" >>= TypeObject.data
    prims.aeadDecrypt aeadMode algoValue keyMaterial c (← sessionKeyParams.getBytes "iv") []
  | some pqcMlkemX25519 => do
    let some priv := privateKeyParams | throw nullPrivate
    let (_, wrappedKey) ← sessionKeyParams.getObject "C" >>= TypeObject.ecdhX
    kemDecrypt prims keyAlgo (← sessionKeyParams.getBytes "eccCipherText")
      (← sessionKeyParams.getBytes "mlkemCipherText") (← priv.getBytes "eccSecretKey")
      (← publicKeyParams.getBytes "eccPublicKey") (← priv.getBytes "mlkemSecretKey") wrappedKey
  | _ => throw (.error "Unknown public key encryption algorithm.")

end OpenPgp
