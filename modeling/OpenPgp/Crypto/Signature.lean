import OpenPgp.Crypto.PublicKey

/-!
# The signature dispatcher

`parseSignatureParams`, `verify` and `sign` of `src/crypto/signature.js`; `sign`, `verify` and
`getPreferredHashAlgo` of `src/crypto/public_key/elliptic/eddsa.js`, which signs Ed25519 with
TweetNaCl; and `sign`, `verify` and `isCompatibleHashAlgo` of the ML-DSA + Ed25519 composite
(`postQuantum.signature`, `src/unnamed/part_001`). The adapters they reach outside the sources
(RSA, DSA, ECDSA, EdDSA-legacy, HMAC, the two halves of the composite) and the two TweetNaCl calls
are the fields of `SignaturePrimitives`.

A signature record is built in the key order of the object literal that returns it, which is the
order `serializeParams` writes it in: `{ s }`, `{ r, s }`, `{ RS }`, `{ mac }` and
`{ eccSignature, mldsaSignature }`.

`sign` and `verify` check the strength of the hash for EdDSA-legacy and EdDSA in the same words,
and `eddsa.js` checks it once more for EdDSA: each of these checks is `checkHashStrength` at its
own preferred hash and message.
-/

namespace OpenPgp

open PublicKeyAlgorithm

/-- The signing adapters whose sources are absent, and the TweetNaCl calls of `eddsa.js`. -/
structure SignaturePrimitives where
  /-- `rsa.sign(hashAlgo, data, n, e, d, p, q, u, hashed)`. -/
  rsaSign : Nat → Bytes → Bytes → Bytes → Bytes → Bytes → Bytes → Bytes → Bytes → Except Err Bytes
  /-- `rsa.verify(hashAlgo, data, s, n, e, hashed)`. -/
  rsaVerify : Nat → Bytes → Bytes → Bytes → Bytes → Bytes → Except Err Bool
  /-- `dsa.sign(hashAlgo, hashed, g, p, q, x)`, returning `{ r, s }`. -/
  dsaSign : Nat → Bytes → Bytes → Bytes → Bytes → Bytes → Except Err (Bytes × Bytes)
  /-- `dsa.verify(hashAlgo, r, s, hashed, g, p, q, y)`. -/
  dsaVerify : Nat → Bytes → Bytes → Bytes → Bytes → Bytes → Bytes → Bytes → Except Err Bool
  /-- `elliptic.ecdsa.sign(oid, hashAlgo, data, Q, d, hashed)`, returning `{ r, s }`. -/
  ecdsaSign : TypeObject → Nat → Bytes → Bytes → Bytes → Bytes → Except Err (Bytes × Bytes)
  /-- `elliptic.ecdsa.verify(oid, hashAlgo, { r, s }, data, Q, hashed)`. -/
  ecdsaVerify : TypeObject → Nat → Bytes × Bytes → Bytes → Bytes → Bytes → Except Err Bool
  /-- `elliptic.eddsaLegacy.sign(oid, hashAlgo, data, Q, seed, hashed)`, returning `{ r, s }`. -/
  eddsaLegacySign : TypeObject → Nat → Bytes → Bytes → Bytes → Bytes → Except Err (Bytes × Bytes)
  /-- `elliptic.eddsaLegacy.verify(oid, hashAlgo, { r, s }, data, Q, hashed)`. -/
  eddsaLegacyVerify : TypeObject → Nat → Bytes × Bytes → Bytes → Bytes → Bytes → Except Err Bool
  /-- `nacl.sign.detached(hashed, secretKey)`. -/
  naclSignDetached : Bytes → Bytes → Bytes
  /-- `nacl.sign.detached.verify(hashed, signature, publicKey)`. -/
  naclSignDetachedVerify : Bytes → Bytes → Bytes → Bool
  /-- `hmac.sign(algo, keyMaterial, hashed)`. -/
  hmacSign : Nat → Bytes → Bytes → Except Err Bytes
  /-- `hmac.verify(algo, keyMaterial, mac, hashed)`. -/
  hmacVerify : Nat → Bytes → Bytes → Bytes → Except Err Bool
  /-- `eccdsa.sign(signatureAlgo, hashAlgo, eccSecretKey, eccPublicKey, dataDigest)`, returning
  `{ eccSignature }`. -/
  eccdsaSign : Nat → Nat → Bytes → Bytes → Bytes → Except Err Bytes
  /-- `eccdsa.verify(signatureAlgo, hashAlgo, eccPublicKey, dataDigest, eccSignature)`. -/
  eccdsaVerify : Nat → Nat → Bytes → Bytes → Bytes → Except Err Bool
  /-- `mldsa.sign(signatureAlgo, mldsaSecretKey, dataDigest)`, returning `{ mldsaSignature }`. -/
  mldsaSign : Nat → Bytes → Bytes → Except Err Bytes
  /-- `mldsa.verify(signatureAlgo, mldsaPublicKey, dataDigest, mldsaSignature)`. -/
  mldsaVerify : Nat → Bytes → Bytes → Bytes → Except Err Bool
  /-- `defaultConfig.checkEdDSAFaultySignatures`, which `eddsa.sign` reads from the library's
  default configuration rather than from the caller's. -/
  checkEdDSAFaultySignatures : Bool

/-- `if (getHashByteLength(hashAlgo) < getHashByteLength(preferredHashAlgo)) throw new
Error(message)`, the operands evaluated left to right: the digest-strength check of EdDSA-legacy
and EdDSA. -/
def checkHashStrength (hashAlgo : Nat) (preferredHashAlgo : Except Err Nat) (message : String) :
    Except Err Unit := do
  let length ← getHashByteLength hashAlgo
  let preferredLength ← preferredHashAlgo >>= getHashByteLength
  if length < preferredLength then throw (.error message)

/-! ## EdDSA -/

/-- `eddsa.getPreferredHashAlgo(algo)`: SHA-256 for Ed25519, and nothing for Ed448. -/
def eddsaGetPreferredHashAlgo (algo : Nat) : Except Err Nat :=
  if algo = ed25519.code then .ok Hash.sha256 else .error (.error "Unknown EdDSA algo")

/-- `eddsa.sign(algo, hashAlgo, message, publicKey, privateKey, hashed)`: the detached TweetNaCl
signature under the seed and the public point, verified once more when the default configuration
asks for it. -/
def eddsaSign (sprims : SignaturePrimitives) (algo hashAlgo : Nat)
    (publicKey privateKey hashed : Bytes) : Except Err Params := do
  checkHashStrength hashAlgo (eddsaGetPreferredHashAlgo algo) "Hash algorithm too weak for EdDSA."
  if algo = ed25519.code then
    let secretKey := privateKey ++ publicKey
    let signature := sprims.naclSignDetached hashed secretKey
    if sprims.checkEdDSAFaultySignatures &&
        !sprims.naclSignDetachedVerify hashed signature publicKey then
      throw (.error "Transient signing failure")
    pure [("RS", .bytes signature)]
  else throw (.error "Unsupported EdDSA algorithm")

/-- `eddsa.verify(algo, hashAlgo, { RS }, m, publicKey, hashed)`. -/
def eddsaVerify (sprims : SignaturePrimitives) (algo hashAlgo : Nat) (signature : Params)
    (publicKey hashed : Bytes) : Except Err Bool := do
  checkHashStrength hashAlgo (eddsaGetPreferredHashAlgo algo) "Hash algorithm too weak for EdDSA."
  if algo = ed25519.code then
    pure (sprims.naclSignDetachedVerify hashed (← signature.getBytes "RS") publicKey)
  else throw (.error "Unsupported EdDSA algorithm")

/-! ## The ML-DSA + Ed25519 composite -/

/-- `postQuantum.signature.isCompatibleHashAlgo(signatureAlgo, hashAlgo)`: a digest of at least
256 bits. -/
def pqcIsCompatibleHashAlgo (signatureAlgo hashAlgo : Nat) : Except Err Bool :=
  if signatureAlgo = pqcMldsaEd25519.code then do pure (32 ≤ (← getHashByteLength hashAlgo))
  else throw (.error "Unsupported signature algorithm")

/-- `postQuantum.signature.sign(signatureAlgo, hashAlgo, eccSecretKey, eccPublicKey,
mldsaSecretKey, dataDigest)`: the Ed25519 and the ML-DSA signature of the digest. -/
def pqcSign (sprims : SignaturePrimitives) (signatureAlgo hashAlgo : Nat)
    (eccSecretKey eccPublicKey mldsaSecretKey dataDigest : Bytes) : Except Err Params := do
  if !(← pqcIsCompatibleHashAlgo signatureAlgo hashAlgo) then
    throw (.error "Unexpected hash algorithm for PQC signature: digest size too short")
  if signatureAlgo = pqcMldsaEd25519.code then
    let eccSignature ← sprims.eccdsaSign signatureAlgo hashAlgo eccSecretKey eccPublicKey dataDigest
    let mldsaSignature ← sprims.mldsaSign signatureAlgo mldsaSecretKey dataDigest
    pure [("eccSignature", .bytes eccSignature), ("mldsaSignature", .bytes mldsaSignature)]
  else throw (.error "Unsupported signature algorithm")

/-- `postQuantum.signature.verify(signatureAlgo, hashAlgo, eccPublicKey, mldsaPublicKey,
dataDigest, { eccSignature, mldsaSignature })`: both halves verify. The two verifications start
together, and `await ecc && await mldsa` looks at the ML-DSA one only when the Ed25519 one holds. -/
def pqcVerify (sprims : SignaturePrimitives) (signatureAlgo hashAlgo : Nat)
    (eccPublicKey mldsaPublicKey dataDigest : Bytes) (signature : Params) : Except Err Bool := do
  if !(← pqcIsCompatibleHashAlgo signatureAlgo hashAlgo) then
    throw (.error "Unexpected hash algorithm for PQC signature: digest size too short")
  if signatureAlgo = pqcMldsaEd25519.code then
    let eccVerified ← sprims.eccdsaVerify signatureAlgo hashAlgo eccPublicKey dataDigest
      (← signature.getBytes "eccSignature")
    if !eccVerified then return false
    sprims.mldsaVerify signatureAlgo mldsaPublicKey dataDigest
      (← signature.getBytes "mldsaSignature")
  else throw (.error "Unsupported signature algorithm")

/-! ## The dispatcher -/

/-- `parseSignatureParams(algo, signature)`: the number of octets read and the signature record.
The size of an EdDSA signature is twice `elliptic.eddsa.getPayloadSize(algo)`, which is
`getCurvePayloadSize` at the algorithm. -/
def parseSignatureParams (algo : Nat) (signature : Bytes) : Except Err (Nat × Params) :=
  match ofCode algo with
  | none => throw (.unsupported "Unknown signature algorithm.")
  | some a => match a with
    | rsaEncryptSign | rsaEncrypt | rsaSign => do
      let (s, read) ← readMPIAt signature 0
      pure (read, [("s", .bytes s)])
    | dsa | ecdsa | eddsaLegacy => do
      let (r, read) ← readMPIAt signature 0
      let (s, read) ← readMPIAt signature read
      pure (read, [("r", .bytes r), ("s", .bytes s)])
    | ed25519 | ed448 => do
      let rsSize ← (2 * ·) <$> getCurvePayloadSize a .undefined
      let (RS, read) ← readExactAt signature 0 rsSize
      pure (read, [("RS", .bytes RS)])
    | hmac => do
      let (mac, read) ← readObjectAt readShortByteString signature 0
      pure (read, [("mac", .object mac)])
    | pqcMldsaEd25519 => do
      let eccSignatureSize ← (2 * ·) <$> getCurvePayloadSize ed25519 .undefined
      let (eccSignature, read) ← readExactAt signature 0 eccSignatureSize
      let (mldsaSignature, read) ← readExactAt signature read 3309
      pure (read,
        [("eccSignature", .bytes eccSignature), ("mldsaSignature", .bytes mldsaSignature)])
    | _ => throw (.unsupported "Unknown signature algorithm.")

/-- `verify(algo, hashAlgo, signature, publicParams, privateParams, data, hashed)`. The integers
of RSA, ECDSA and EdDSA-legacy signatures are left-padded to the modulus or the curve's payload
size; DSA takes them as they are. -/
def verify (sprims : SignaturePrimitives) (algo hashAlgo : Nat) (signature publicParams : Params)
    (privateParams : Option Params) (data hashed : Bytes) : Except Err Bool :=
  match ofCode algo with
  | none => throw (.error "Unknown signature algorithm.")
  | some a => match a with
    | rsaEncryptSign | rsaEncrypt | rsaSign => do
      let n ← publicParams.getBytes "n"
      let s ← signature.getBytes "s" >>= (leftPad · n.length)
      sprims.rsaVerify hashAlgo data s n (← publicParams.getBytes "e") hashed
    | dsa => do
      sprims.dsaVerify hashAlgo (← signature.getBytes "r") (← signature.getBytes "s") hashed
        (← publicParams.getBytes "g") (← publicParams.getBytes "p") (← publicParams.getBytes "q")
        (← publicParams.getBytes "y")
    | ecdsa => do
      let oid ← publicParams.getObject "oid"
      let curveSize ← getCurvePayloadSize ecdsa (.object oid)
      let r ← signature.getBytes "r" >>= (leftPad · curveSize)
      let s ← signature.getBytes "s" >>= (leftPad · curveSize)
      sprims.ecdsaVerify oid hashAlgo (r, s) data (← publicParams.getBytes "Q") hashed
    | eddsaLegacy => do
      checkHashStrength hashAlgo (.ok Hash.sha256) "Hash algorithm too weak for EdDSALegacy."
      let oid ← publicParams.getObject "oid"
      let curveSize ← getCurvePayloadSize eddsaLegacy (.object oid)
      let r ← signature.getBytes "r" >>= (leftPad · curveSize)
      let s ← signature.getBytes "s" >>= (leftPad · curveSize)
      sprims.eddsaLegacyVerify oid hashAlgo (r, s) data (← publicParams.getBytes "Q") hashed
    | ed25519 | ed448 => do
      checkHashStrength hashAlgo (eddsaGetPreferredHashAlgo algo)
        "Hash algorithm too weak for EdDSA."
      eddsaVerify sprims algo hashAlgo signature (← publicParams.getBytes "A") hashed
    | hmac => do
      let some priv := privateParams
        | throw (.error
            "Cannot verify HMAC signature with symmetric key missing private parameters")
      let algoValue ← enumValue (publicParams.get "cipher")
      let keyMaterial ← priv.getBytes "keyMaterial"
      let mac ← signature.getObject "mac" >>= TypeObject.data
      sprims.hmacVerify algoValue keyMaterial mac hashed
    | pqcMldsaEd25519 => do
      if !(← pqcIsCompatibleHashAlgo algo hashAlgo) then
        throw (.error "Unexpected hash algorithm for PQC signature: digest size too short")
      pqcVerify sprims algo hashAlgo (← publicParams.getBytes "eccPublicKey")
        (← publicParams.getBytes "mldsaPublicKey") hashed signature
    | _ => throw (.error "Unknown signature algorithm.")

/-- `sign(algo, hashAlgo, publicKeyParams, privateKeyParams, data, hashed)`. -/
def sign (sprims : SignaturePrimitives) (algo hashAlgo : Nat) (publicKeyParams : Params)
    (privateKeyParams : Option Params) (data hashed : Bytes) : Except Err Params := do
  let some priv := privateKeyParams | throw (.error "Missing key parameters")
  match ofCode algo with
  | none => throw (.error "Unknown signature algorithm.")
  | some a => match a with
    | rsaEncryptSign | rsaEncrypt | rsaSign => do
      let s ← sprims.rsaSign hashAlgo data (← publicKeyParams.getBytes "n")
        (← publicKeyParams.getBytes "e") (← priv.getBytes "d") (← priv.getBytes "p")
        (← priv.getBytes "q") (← priv.getBytes "u") hashed
      pure [("s", .bytes s)]
    | dsa => do
      let (r, s) ← sprims.dsaSign hashAlgo hashed (← publicKeyParams.getBytes "g")
        (← publicKeyParams.getBytes "p") (← publicKeyParams.getBytes "q") (← priv.getBytes "x")
      pure [("r", .bytes r), ("s", .bytes s)]
    | elgamal => throw (.error "Signing with Elgamal is not defined in the OpenPGP standard.")
    | ecdsa => do
      let (r, s) ← sprims.ecdsaSign (← publicKeyParams.getObject "oid") hashAlgo data
        (← publicKeyParams.getBytes "Q") (← priv.getBytes "d") hashed
      pure [("r", .bytes r), ("s", .bytes s)]
    | eddsaLegacy => do
      checkHashStrength hashAlgo (.ok Hash.sha256) "Hash algorithm too weak for EdDSALegacy."
      let (r, s) ← sprims.eddsaLegacySign (← publicKeyParams.getObject "oid") hashAlgo data
        (← publicKeyParams.getBytes "Q") (← priv.getBytes "seed") hashed
      pure [("r", .bytes r), ("s", .bytes s)]
    | ed25519 | ed448 => do
      checkHashStrength hashAlgo (eddsaGetPreferredHashAlgo algo)
        "Hash algorithm too weak for EdDSA."
      eddsaSign sprims algo hashAlgo (← publicKeyParams.getBytes "A") (← priv.getBytes "seed")
        hashed
    | hmac => do
      let algoValue ← enumValue (publicKeyParams.get "cipher")
      let mac ← sprims.hmacSign algoValue (← priv.getBytes "keyMaterial") hashed
      pure [("mac", .object (.shortByteString mac))]
    | pqcMldsaEd25519 => do
      if !(← pqcIsCompatibleHashAlgo algo hashAlgo) then
        throw (.error "Unexpected hash algorithm for PQC signature: digest size too short")
      pqcSign sprims algo hashAlgo (← priv.getBytes "eccSecretKey")
        (← publicKeyParams.getBytes "eccPublicKey") (← priv.getBytes "mldsaSecretKey") hashed
    | _ => throw (.error "Unknown signature algorithm.")

/- Ed448 signatures are never made or checked: `eddsaGetPreferredHashAlgo` knows no hash for
Ed448, and `sign` and `verify` check the hash against it first. -/
example (sprims : SignaturePrimitives) :
    sign sprims ed448.code Hash.sha256 [] (some []) [] [] = .error (.error "Unknown EdDSA algo") ∧
      verify sprims ed448.code Hash.sha256 [] [] none [] [] =
        .error (.error "Unknown EdDSA algo") :=
  ⟨rfl, rfl⟩

/- An Ed25519 signature over a digest shorter than SHA-256's is neither made nor accepted. -/
example (sprims : SignaturePrimitives) :
    sign sprims ed25519.code Hash.sha1 [] (some []) [] [] =
        .error (.error "Hash algorithm too weak for EdDSA.") ∧
      verify sprims ed25519.code Hash.sha1 [] [] none [] [] =
        .error (.error "Hash algorithm too weak for EdDSA.") :=
  ⟨rfl, rfl⟩

end OpenPgp
