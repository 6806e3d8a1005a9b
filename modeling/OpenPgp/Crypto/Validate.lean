import OpenPgp.Crypto.PublicKey
import OpenPgp.Crypto.KeyPair

/-!
# Key generation and validation

`generateParams` and `validateParams` of `src/crypto/crypto.js`, with the adapters among the
sources that they call: Ed25519 in `elliptic/eddsa.js`, and the ML-KEM + X25519 KEM in
`post_quantum/kem/`. The SLH-DSA adapter `post_quantum/slh_dsa/index.js` generates and validates
its keys on its own; the dispatcher has no case for it. The other adapters, whose generation and
validation the dispatcher only forwards to, are primitives (`Primitives.rsaGenerate`,
`Primitives.adapterValidateParams`, ...).

* `validateParams_generateParams`: an HMAC, AEAD or Ed25519 key that `generateParams` returns
  validates. An ML-KEM + X25519 key does not: `mlKem.generate` returns no seed, and
  `kem.validateParams` hands the missing seed to `mlKem.validateParams` as the decapsulation key.
* `parsePublicKeyParams_generated_hmac`: an HMAC key that `generateParams` returns does not read
  back. Its cipher field is a `HashEnum`, which the public parser reads as a `SymAlgoEnum`.
* `slhdsaValidateParams_throws`: the SLH-DSA adapter's `validateParams` throws on every key. It
  calls `sign(algo, slhdsaSecretKey, randomBytes)` without the hash algorithm, so the secret key
  stands where the hash algorithm should.
-/

namespace OpenPgp

open PublicKeyAlgorithm

/-- An argument that a primitive reads as a `Uint8Array`: anything else throws. -/
def Param.uint8Array : Param → Except Err Bytes
  | .bytes b => .ok b
  | _ => .error (.error "Uint8Array expected")

/-! ## Ed25519 -/

/-- `eddsa.generate(algo)`: a random 32-octet seed and its public key, as `(A, seed)`. Ed448 is
unsupported. -/
def eddsaGenerate (prims : Primitives) (random : Random) (algo : Nat) :
    Except Err (Bytes × Bytes) :=
  if algo = ed25519.code then
    let seed := random.getRandomBytes 32
    .ok (prims.ed25519PublicKeyFromSeed seed, seed)
  else .error (.error "Unsupported EdDSA algorithm")

/-- `eddsa.validateParams(algo, A, seed)`: `A` is the public key of `seed`. Ed448 always fails. -/
def eddsaValidateParams (prims : Primitives) (algo : Nat) (A seed : Param) : Except Err Bool :=
  if algo = ed25519.code then do
    let publicKey := prims.ed25519PublicKeyFromSeed (← seed.uint8Array)
    pure ((← A.uint8Array) == publicKey)
  else pure false

/-! ## The ML-KEM + X25519 KEM -/

/-- `mlKem.generate(algo)`: an ML-KEM-768 key pair `(mlkemPublicKey, mlkemSecretKey)`, without
its seed. -/
def mlKemGenerate (prims : Primitives) (algo : Nat) : Except Err (Bytes × Bytes) :=
  if algo = pqcMlkemX25519.code then .ok prims.mlkemKeygen
  else .error (.error "Unsupported KEM algorithm")

/-- `eccKem.generate(algo)`: an X25519 key pair `(eccPublicKey, eccSecretKey)`. -/
def eccKemGenerate (prims : Primitives) (algo : Nat) : Except Err (Bytes × Bytes) :=
  if algo = pqcMlkemX25519.code then prims.ecdhXGenerate x25519.code
  else .error (.error "Unsupported KEM algorithm")

/-- `kem.generate(algo)`: the ECC and ML-KEM keys, as the record fields
`eccPublicKey, eccSecretKey, mlkemPublicKey, mlkemSeed, mlkemSecretKey`. `mlKem.generate` returns
no `mlkemSeed`, so that field is `undefined`. -/
def kemGenerate (prims : Primitives) (algo : Nat) :
    Except Err (Bytes × Bytes × Bytes × Param × Bytes) := do
  let (eccPublicKey, eccSecretKey) ← eccKemGenerate prims algo
  let (mlkemPublicKey, mlkemSecretKey) ← mlKemGenerate prims algo
  pure (eccPublicKey, eccSecretKey, mlkemPublicKey, .undefined, mlkemSecretKey)

/-- `mlKem.validateParams(algo, mlkemPublicKey, mlkemSecretKey)`: decapsulating a fresh
encapsulation gives its key share back. -/
def mlKemValidateParams (prims : Primitives) (algo : Nat) (mlkemPublicKey mlkemSecretKey : Param) :
    Except Err Bool :=
  if algo = pqcMlkemX25519.code then do
    let (validationKeyShare, validationCipherText) ←
      mlKemEncaps prims algo (← mlkemPublicKey.uint8Array)
    let resultingKeyShare ←
      mlKemDecaps prims algo validationCipherText (← mlkemSecretKey.uint8Array)
    pure (resultingKeyShare == validationKeyShare)
  else throw (.error "Unsupported KEM algorithm")

/-- `eccKem.validateParams(algo, eccPublicKey, eccSecretKey)` (not among the sources): the X25519
adapter's validation of the ECC half. -/
def eccKemValidateParams (prims : Primitives) (algo : Nat) (eccPublicKey eccSecretKey : Param) :
    Except Err Bool :=
  if algo = pqcMlkemX25519.code then
    prims.adapterValidateParams x25519 [("A", eccPublicKey)] [("k", eccSecretKey)]
  else throw (.error "Unsupported KEM algorithm")

/-- `kem.validateParams(algo, eccPublicKey, eccSecretKey, mlkemPublicKey, mlkemSeed)`: both halves
validate, the ML-KEM half given the seed in its secret key's place. -/
def kemValidateParams (prims : Primitives) (algo : Nat)
    (eccPublicKey eccSecretKey mlkemPublicKey mlkemSeed : Param) : Except Err Bool := do
  if ← eccKemValidateParams prims algo eccPublicKey eccSecretKey then
    mlKemValidateParams prims algo mlkemPublicKey mlkemSeed
  else pure false

/-! ## The dispatcher -/

/-- `createSymmetricParams(key, algo)`: a random 32-octet `hashSeed` and the key, with the public
`cipher` descriptor and the SHA-256 `digest` of the seed, as `(privateParams, publicParams)`. -/
def createSymmetricParams (prims : Primitives) (random : Random) (key : Bytes) (algo : TypeObject) :
    Params × Params :=
  let seed := random.getRandomBytes 32
  let bindingHash := prims.computeDigest Hash.sha256 seed
  ([("hashSeed", .bytes seed), ("keyMaterial", .bytes key)],
    [("cipher", .object algo), ("digest", .bytes bindingHash)])

/-- Modelled from the spec: `hmac.generate(hash)` (`src/crypto/hmac` is absent), a random key of
the hash's size (§3). -/
def hmacGenerate (random : Random) (hash : Nat) : Except Err Bytes :=
  return random.getRandomBytes (← getHashByteLength hash)

/-- `generateSessionKey(algo)`: a random key of the cipher's size. -/
def generateSessionKey (random : Random) (algo : Nat) : Except Err Bytes :=
  return random.getRandomBytes (← getCipherParams algo).keySize

/-- `generateParams(algo, bits, oid, symmetric)`: a fresh key pair, as
`(privateParams, publicParams)`. -/
def generateParams (prims : Primitives) (random : Random) (algo bits : Nat) (oid : Option Curve)
    (symmetric : Nat) : Except Err (Params × Params) :=
  match ofCode algo with
  | some rsaEncrypt | some rsaEncryptSign | some rsaSign => do
    let (n, e, d, p, q, u) ← prims.rsaGenerate bits 65537
    pure ([("d", .bytes d), ("p", .bytes p), ("q", .bytes q), ("u", .bytes u)],
      [("n", .bytes n), ("e", .bytes e)])
  | some ecdsa => do
    let (oid, Q, secret, _, _) ← prims.ellipticGenerate oid
    pure ([("d", .bytes secret)], [("oid", .object (.oid oid)), ("Q", .bytes Q)])
  | some eddsaLegacy => do
    let (oid, Q, secret, _, _) ← prims.ellipticGenerate oid
    pure ([("seed", .bytes secret)], [("oid", .object (.oid oid)), ("Q", .bytes Q)])
  | some ecdh => do
    let (oid, Q, secret, hash, cipher) ← prims.ellipticGenerate oid
    pure ([("d", .bytes secret)],
      [("oid", .object (.oid oid)), ("Q", .bytes Q),
        ("kdfParams", .object (.kdfParams hash cipher))])
  | some ed25519 | some ed448 => do
    let (A, seed) ← eddsaGenerate prims random algo
    pure ([("seed", .bytes seed)], [("A", .bytes A)])
  | some x25519 | some x448 => do
    let (A, k) ← prims.ecdhXGenerate algo
    pure ([("k", .bytes k)], [("A", .bytes A)])
  | some hmac => do
    let keyMaterial ← hmacGenerate random symmetric
    pure (createSymmetricParams prims random keyMaterial (.hashEnum symmetric))
  | some aead => do
    let keyMaterial ← generateSessionKey random symmetric
    pure (createSymmetricParams prims random keyMaterial (.symAlgoEnum symmetric))
  | some pqcMlkemX25519 => do
    let (eccPublicKey, eccSecretKey, mlkemPublicKey, mlkemSeed, mlkemSecretKey) ←
      kemGenerate prims algo
    pure ([("eccSecretKey", .bytes eccSecretKey), ("mlkemSeed", mlkemSeed),
        ("mlkemSecretKey", .bytes mlkemSecretKey)],
      [("eccPublicKey", .bytes eccPublicKey), ("mlkemPublicKey", .bytes mlkemPublicKey)])
  | some pqcMldsaEd25519 =>
    let (eccSecretKey, eccPublicKey, mldsaSeed, mldsaSecretKey, mldsaPublicKey) :=
      prims.mldsaCompositeGenerate
    .ok ([("eccSecretKey", .bytes eccSecretKey), ("mldsaSeed", .bytes mldsaSeed),
        ("mldsaSecretKey", .bytes mldsaSecretKey)],
      [("eccPublicKey", .bytes eccPublicKey), ("mldsaPublicKey", .bytes mldsaPublicKey)])
  | some dsa | some elgamal => .error (.error "Unsupported algorithm for key generation.")
  | _ => .error (.error "Unknown public key algorithm.")

/-- `validateParams(algo, publicParams, privateParams)`: whether the private parameters belong to
the public ones. HMAC and AEAD keys check the key size and the binding digest; the adapters
outside the sources are `Primitives.adapterValidateParams`. -/
def validateParams (prims : Primitives) (algo : Nat) (publicParams privateParams : Option Params) :
    Except Err Bool :=
  match publicParams, privateParams with
  | some pub, some priv =>
    match ofCode algo with
    | some a@rsaEncrypt | some a@rsaEncryptSign | some a@rsaSign | some a@dsa | some a@elgamal
    | some a@ecdsa | some a@ecdh | some a@eddsaLegacy | some a@x25519 | some a@x448
    | some a@pqcMldsaEd25519 =>
      prims.adapterValidateParams a pub priv
    | some ed25519 | some ed448 => eddsaValidateParams prims algo (pub.get "A") (priv.get "seed")
    | some hmac => do
      let keySize ← getHashByteLength (← enumValue (pub.get "cipher"))
      let keyMaterial ← priv.getBytes "keyMaterial"
      if keySize = keyMaterial.length then
        pure ((← pub.getBytes "digest") ==
          prims.computeDigest Hash.sha256 (← priv.getBytes "hashSeed"))
      else pure false
    | some aead => do
      let { keySize, .. } ← getCipherParams (← enumValue (pub.get "cipher"))
      let keyMaterial ← priv.getBytes "keyMaterial"
      if keySize = keyMaterial.length then
        pure ((← pub.getBytes "digest") ==
          prims.computeDigest Hash.sha256 (← priv.getBytes "hashSeed"))
      else pure false
    | some pqcMlkemX25519 =>
      kemValidateParams prims algo (pub.get "eccPublicKey") (priv.get "eccSecretKey")
        (pub.get "mlkemPublicKey") (priv.get "mlkemSeed")
    | _ => .error (.error "Unknown public key algorithm.")
  | _, _ => .error (.error "Missing key parameters")

/-! ## Validation of generated keys -/

/-- **Honest HMAC, AEAD and Ed25519 keys validate.** The key material has the size the
descriptor names, the digest is that of the seed, and the Ed25519 public key is the seed's. -/
theorem validateParams_generateParams {prims : Primitives} {random : Random}
    {a : PublicKeyAlgorithm} (ha : a ∈ [hmac, aead, ed25519]) {bits symmetric : Nat}
    {oid : Option Curve} {priv pub : Params}
    (h : generateParams prims random a.code bits oid symmetric = .ok (priv, pub)) :
    validateParams prims a.code (some pub) (some priv) = .ok true := by
  simp only [List.mem_cons, List.mem_singleton, List.not_mem_nil, or_false] at ha
  rcases ha with rfl | rfl | rfl
  · obtain ⟨keySize, hk, rfl, rfl⟩ : ∃ keySize, getHashByteLength symmetric = .ok keySize ∧
        [("hashSeed", .bytes (random.getRandomBytes 32)),
          ("keyMaterial", .bytes (random.getRandomBytes keySize))] = priv ∧
        [("cipher", .object (.hashEnum symmetric)),
          ("digest", .bytes (prims.computeDigest Hash.sha256 (random.getRandomBytes 32)))] =
          pub := by
      simpa [generateParams, hmacGenerate, createSymmetricParams, bind_eq_ok] using h
    simp [validateParams, enumValue, hk, Params.getBytes]
  · obtain ⟨params, hp, rfl, rfl⟩ : ∃ params, getCipherParams symmetric = .ok params ∧
        [("hashSeed", .bytes (random.getRandomBytes 32)),
          ("keyMaterial", .bytes (random.getRandomBytes params.keySize))] = priv ∧
        [("cipher", .object (.symAlgoEnum symmetric)),
          ("digest", .bytes (prims.computeDigest Hash.sha256 (random.getRandomBytes 32)))] =
          pub := by
      simpa [generateParams, generateSessionKey, createSymmetricParams, bind_eq_ok] using h
    simp [validateParams, enumValue, hp, Params.getBytes]
  · obtain ⟨rfl, rfl⟩ : [("seed", .bytes (random.getRandomBytes 32))] = priv ∧
        [("A", .bytes (prims.ed25519PublicKeyFromSeed (random.getRandomBytes 32)))] = pub := by
      simpa [generateParams, eddsaGenerate, bind_eq_ok] using h
    simp [validateParams, eddsaValidateParams, Param.uint8Array]

theorem validateParams_generateParams_ed25519 :
    ∃ priv pub, generateParams transparentPrims zeroRandom ed25519.code 0 none 0 = .ok (priv, pub) ∧
      validateParams transparentPrims ed25519.code (some pub) (some priv) = .ok true :=
  ⟨_, _, rfl,
    @validateParams_generateParams transparentPrims zeroRandom ed25519 (by decide) 0 0 none _ _ rfl⟩

/-! ## Generated keys on the wire -/

/-- **A generated HMAC key does not read back.** `generateParams` tags the public cipher field of
an HMAC key with its hash, as a `HashEnum`, and `serializeParams` writes the hash's code. The
public parser reads that field as a `SymAlgoEnum`, so no input parses to the generated record:
the field comes back as a cipher, or, for a hash code that is no cipher code (SHA3-512), the
read throws. -/
theorem parsePublicKeyParams_generated_hmac {prims : Primitives} {random : Random}
    {bits hash : Nat} {oid : Option Curve} {priv pub : Params}
    (h : generateParams prims random hmac.code bits oid hash = .ok (priv, pub)) :
    serializeParams hmac.code pub =
        .ok (UInt8.ofNat hash :: prims.computeDigest Hash.sha256 (random.getRandomBytes 32)) ∧
      ∀ bytes read, parsePublicKeyParams hmac.code bytes ≠ .ok (read, pub) := by
  obtain ⟨_, -, -, rfl⟩ : ∃ keySize, getHashByteLength hash = .ok keySize ∧
      [("hashSeed", .bytes (random.getRandomBytes 32)),
        ("keyMaterial", .bytes (random.getRandomBytes keySize))] = priv ∧
      [("cipher", .object (.hashEnum hash)),
        ("digest", .bytes (prims.computeDigest Hash.sha256 (random.getRandomBytes 32)))] = pub := by
    simpa [generateParams, hmacGenerate, createSymmetricParams, bind_eq_ok] using h
  refine ⟨by simp [serializeParams, serializeParam, excludedFields, isNative,
    algosWithNativeRepresentation, TypeObject.write], fun bytes read hp => ?_⟩
  cases hw : enumsWriteSymmetric (bytes.head?.map UInt8.toNat) <;>
    simp [parsePublicKeyParams, readObjectAt, readSymAlgoEnum, Except.map, bind_eq_ok, hw] at hp

/-- An HMAC-SHA-256 key: its cipher field is written as the octet 8, which the parser takes for
AES-192. -/
theorem parsePublicKeyParams_generated_hmac_sha256 :
    ∃ priv pub,
      generateParams transparentPrims zeroRandom hmac.code 0 none Hash.sha256 = .ok (priv, pub) ∧
      serializeParams hmac.code pub = .ok (UInt8.ofNat Hash.sha256 ::
        transparentPrims.computeDigest Hash.sha256 (zeroRandom.getRandomBytes 32)) ∧
      ∀ bytes read, parsePublicKeyParams hmac.code bytes ≠ .ok (read, pub) :=
  ⟨_, _, rfl, @parsePublicKeyParams_generated_hmac transparentPrims zeroRandom 0 Hash.sha256 none
    _ _ rfl⟩

/-- `transparentPrims` with an X25519 generator, an ML-KEM encapsulation that returns, and
adapters that accept every key. -/
def kemPrims : Primitives :=
  { transparentPrims with
    ecdhXGenerate := fun _ => .ok ([1], [2]), mlkemEncapsulate := fun _ => .ok ([], [])
    adapterValidateParams := fun _ _ _ => .ok true }

/- An ML-KEM + X25519 key that `generateParams` returns does not validate: its `mlkemSeed` is
`undefined`, and `mlKem.validateParams` decapsulates with it. -/
example :
    ∃ priv pub, generateParams kemPrims zeroRandom pqcMlkemX25519.code 0 none 0 = .ok (priv, pub) ∧
      validateParams kemPrims pqcMlkemX25519.code (some pub) (some priv) =
        .error (.error "Uint8Array expected") :=
  ⟨_, _, rfl, rfl⟩

/-! ## SLH-DSA -/

/-- A JavaScript value as the SLH-DSA adapter's functions receive it in an argument: a number, an
octet array, or `undefined`. -/
inductive JsValue
  | number (n : Nat)
  | bytes (b : Bytes)
  | undefined
deriving DecidableEq, Repr

/-- `slhdsa.getRequiredHashAlgo(signatureAlgo)`: SHA3-256 for SLH-DSA-SHAKE-128s. -/
def slhdsaGetRequiredHashAlgo (signatureAlgo : Nat) : Except Err Nat :=
  if signatureAlgo = pqcSlhdsaShake128s.code then .ok Hash.sha3256
  else .error (.error "Unsupported signature algorithm")

/-- `slhdsa.generate(algo)`: `(slhdsaSecretKey, slhdsaPublicKey)`. -/
def slhdsaGenerate (prims : Primitives) (algo : Nat) : Except Err (Bytes × Bytes) :=
  if algo = pqcSlhdsaShake128s.code then .ok prims.slhdsaKeygen
  else .error (.error "Unsupported signature algorithm")

/-- `slhdsa.sign(signatureAlgo, hashAlgo, slhdsaSecretKey, dataDigest)`: the hash algorithm must
be the required one, which is a number. -/
def slhdsaSign (prims : Primitives) (signatureAlgo : Nat)
    (hashAlgo slhdsaSecretKey dataDigest : JsValue) : Except Err Bytes := do
  if hashAlgo ≠ .number (← slhdsaGetRequiredHashAlgo signatureAlgo) then
    throw (.error "Unexpected hash algorithm for PQC signature")
  if signatureAlgo = pqcSlhdsaShake128s.code then
    match slhdsaSecretKey, dataDigest with
    | .bytes secretKey, .bytes digest => pure (prims.slhdsaSign secretKey digest)
    | _, _ => throw (.error "Uint8Array expected")
  else throw (.error "Unsupported signature algorithm")

/-- `slhdsa.verify(signatureAlgo, hashAlgo, slhdsaPublicKey, dataDigest, { slhdsaSignature })`;
`none` is an `undefined` last argument, which cannot be destructured. -/
def slhdsaVerify (prims : Primitives) (signatureAlgo : Nat)
    (hashAlgo slhdsaPublicKey dataDigest : JsValue) (signature : Option JsValue) :
    Except Err Bool := do
  let some slhdsaSignature := signature
    | throw (.typeError "Cannot destructure property 'slhdsaSignature' of 'undefined'")
  if hashAlgo ≠ .number (← slhdsaGetRequiredHashAlgo signatureAlgo) then
    throw (.error "Unexpected hash algorithm for PQC signature")
  if signatureAlgo = pqcSlhdsaShake128s.code then
    match slhdsaPublicKey, dataDigest, slhdsaSignature with
    | .bytes publicKey, .bytes digest, .bytes sig => pure (prims.slhdsaVerify publicKey digest sig)
    | _, _, _ => throw (.error "Uint8Array expected")
  else throw (.error "Unsupported signature algorithm")

/-- `slhdsa.validateParams(algo, slhdsaPublicKey, slhdsaSecretKey)`: a trial signature of 16
random octets, made by `sign(algo, slhdsaSecretKey, randomBytes)` and checked by
`verify(algo, slhdsaPublicKey, randomBytes, slhdsaSignature)`, each call one argument short. -/
def slhdsaValidateParams (prims : Primitives) (random : Random) (algo : Nat)
    (slhdsaPublicKey slhdsaSecretKey : Bytes) : Except Err Bool :=
  if algo = pqcSlhdsaShake128s.code then do
    let randomBytes := random.getRandomBytes 16
    let slhdsaSignature ←
      slhdsaSign prims algo (.bytes slhdsaSecretKey) (.bytes randomBytes) .undefined
    slhdsaVerify prims algo (.bytes slhdsaPublicKey) (.bytes randomBytes) (.bytes slhdsaSignature)
      none
  else throw (.error "Unsupported signature algorithm")

/-- **SLH-DSA keys never validate.** The adapter generates a key pair, and its `validateParams`
throws on that pair and on every other: the secret key, passed where `sign` expects the hash
algorithm, is never the number `enums.hash.sha3_256`. -/
theorem slhdsaValidateParams_throws (prims : Primitives) (random : Random) :
    (∃ slhdsaSecretKey slhdsaPublicKey,
      slhdsaGenerate prims pqcSlhdsaShake128s.code = .ok (slhdsaSecretKey, slhdsaPublicKey)) ∧
    ∀ slhdsaPublicKey slhdsaSecretKey,
      slhdsaValidateParams prims random pqcSlhdsaShake128s.code slhdsaPublicKey slhdsaSecretKey =
        .error (.error "Unexpected hash algorithm for PQC signature") :=
  ⟨⟨_, _, rfl⟩, fun _ _ => rfl⟩

end OpenPgp
