import OpenPgp.Types

/-!
# External primitives, configuration and randomness

The dispatcher and the packets delegate every cryptographic computation to modules that are not
among the sources (spec §1: "consumed from crypto libraries"): the RSA, ElGamal, ECDH and
X25519/X448 adapters, the AEAD and CFB modes, AES key wrap, the hashes and HKDF, the S2K key
derivation, the noble ML-KEM and SLH-DSA implementations, and the ML-DSA and ECC signing halves
of the composites. `Primitives` collects them as plain functions; a theorem that needs one to be
correct says so with a named predicate over this record, so every assumption on an external
primitive is visible in the statement that uses it.

`Config` is the part of `src/config/config.d.ts` the modelled code reads, and `Random` the
results of `getRandomBytes`.
-/

namespace OpenPgp

/-- The external primitives, each under the name of the call that reaches it. -/
structure Primitives where
  /-- `rsa.encrypt(data, n, e)`. -/
  rsaEncrypt : Bytes → Bytes → Bytes → Except Err Bytes
  /-- `rsa.decrypt(c, n, e, d, p, q, u, randomPayload)`. -/
  rsaDecrypt : Bytes → Bytes → Bytes → Bytes → Bytes → Bytes → Bytes → Option Bytes →
    Except Err Bytes
  /-- `elgamal.encrypt(data, p, g, y)`, returning `{ c1, c2 }`. -/
  elgamalEncrypt : Bytes → Bytes → Bytes → Bytes → Except Err (Bytes × Bytes)
  /-- `elgamal.decrypt(c1, c2, p, x, randomPayload)`. -/
  elgamalDecrypt : Bytes → Bytes → Bytes → Bytes → Option Bytes → Except Err Bytes
  /-- `elliptic.ecdh.encrypt(oid, kdfParams, data, Q, fingerprint)`, returning `{ publicKey: V,
  wrappedKey: C }`; the KDF parameters are given as their `(hash, cipher)`. -/
  ecdhEncrypt : Bytes → Nat × Nat → Bytes → Bytes → Bytes → Except Err (Bytes × Bytes)
  /-- `elliptic.ecdh.decrypt(oid, kdfParams, V, C, Q, d, fingerprint)`. -/
  ecdhDecrypt : Bytes → Nat × Nat → Bytes → Bytes → Bytes → Bytes → Bytes → Except Err Bytes
  /-- `elliptic.ecdhX.encrypt(algo, data, A)`, returning `{ ephemeralPublicKey, wrappedKey }`. -/
  ecdhXEncrypt : Nat → Bytes → Bytes → Except Err (Bytes × Bytes)
  /-- `elliptic.ecdhX.decrypt(algo, ephemeralPublicKey, wrappedKey, A, k)`. -/
  ecdhXDecrypt : Nat → Bytes → Bytes → Bytes → Bytes → Except Err Bytes
  /-- `elliptic.ecdhX.generateEphemeralEncryptionMaterial(algo, recipientPublicKey)`, returning
  `{ ephemeralPublicKey, sharedSecret }`. -/
  ecdhXGenerateEphemeral : Nat → Bytes → Except Err (Bytes × Bytes)
  /-- `elliptic.ecdhX.recomputeSharedSecret(algo, ephemeralPublicKey, A, k)`. -/
  ecdhXRecomputeSharedSecret : Nat → Bytes → Bytes → Bytes → Except Err Bytes
  /-- `mode(cipher, key).encrypt(plaintext, nonce, associatedData)` for the AEAD mode `mode`. -/
  aeadEncrypt : Nat → Nat → Bytes → Bytes → Bytes → Bytes → Except Err Bytes
  /-- `mode(cipher, key).decrypt(ciphertext, nonce, associatedData)`. -/
  aeadDecrypt : Nat → Nat → Bytes → Bytes → Bytes → Bytes → Except Err Bytes
  /-- `cipherMode.cfb.encrypt(cipher, key, plaintext, iv)`. -/
  cfbEncrypt : Nat → Bytes → Bytes → Bytes → Bytes
  /-- `cipherMode.cfb.decrypt(cipher, key, ciphertext, iv)`. -/
  cfbDecrypt : Nat → Bytes → Bytes → Bytes → Bytes
  /-- `aesKW.wrap(cipher, kek, data)`. -/
  aesKWWrap : Nat → Bytes → Bytes → Except Err Bytes
  /-- `aesKW.unwrap(cipher, kek, wrapped)`. -/
  aesKWUnwrap : Nat → Bytes → Bytes → Except Err Bytes
  /-- `computeDigest(hash, data)`. -/
  computeDigest : Nat → Bytes → Bytes
  /-- `computeHKDF(hash, inputKey, salt, info, length)`. -/
  computeHKDF : Nat → Bytes → Bytes → Bytes → Nat → Bytes
  /-- `s2k.produceKey(passphrase, keySize)`. -/
  produceKey : S2K → String → Nat → Except Err Bytes
  /-- `ml_kem768.encapsulate(publicKey)`, returning `{ cipherText, sharedSecret }`. -/
  mlkemEncapsulate : Bytes → Except Err (Bytes × Bytes)
  /-- `ml_kem768.decapsulate(cipherText, secretKey)`. -/
  mlkemDecapsulate : Bytes → Bytes → Except Err Bytes
  /-- `ml_kem768.keygen()`, returning `{ publicKey, secretKey }`. -/
  mlkemKeygen : Bytes × Bytes
  /-- `postQuantum.kem.mlkemExpandSecretSeed(algo, seed).mlkemSecretKey`. -/
  mlkemExpandSecretSeed : Bytes → Bytes
  /-- `postQuantum.signature.mldsaExpandSecretSeed(algo, seed).mldsaSecretKey`. -/
  mldsaExpandSecretSeed : Bytes → Bytes
  /-- `nacl.sign.keyPair.fromSeed(seed).publicKey`. -/
  ed25519PublicKeyFromSeed : Bytes → Bytes
  /-- `slh_dsa_shake_128s.keygen()`, returning `{ secretKey, publicKey }`. -/
  slhdsaKeygen : Bytes × Bytes
  /-- `slh_dsa_shake_128s.sign(secretKey, message)`. -/
  slhdsaSign : Bytes → Bytes → Bytes
  /-- `slh_dsa_shake_128s.verify(publicKey, message, signature)`. -/
  slhdsaVerify : Bytes → Bytes → Bytes → Bool
  /-- `validateParams` of the adapters outside the sources (RSA, DSA, ElGamal, ECDSA, ECDH,
  EdDSA-legacy, X25519/X448, and the ECC and ML-DSA halves of the signing composite), by
  algorithm, on the public and private records. -/
  adapterValidateParams : PublicKeyAlgorithm → Params → Params → Except Err Bool
  /-- `mldsa.generate(algo)` and `eccdsa.generate(algo)` of the signing composite: the ECC
  secret and public key, the ML-DSA seed, expanded secret key and public key. -/
  mldsaCompositeGenerate : Bytes × Bytes × Bytes × Bytes × Bytes
  /-- `rsa.generate(bits, e)`, returning `{ n, e, d, p, q, u }`. -/
  rsaGenerate : Nat → Nat → Except Err (Bytes × Bytes × Bytes × Bytes × Bytes × Bytes)
  /-- `elliptic.generate(curve)`, returning `{ oid, Q, secret, hash, cipher }`, the OID as its DER
  body. -/
  ellipticGenerate : Option Curve → Except Err (Bytes × Bytes × Bytes × Nat × Nat)
  /-- `elliptic.ecdhX.generate(algo)`, returning `{ A, k }`. -/
  ecdhXGenerate : Nat → Except Err (Bytes × Bytes)

/-- The results of `getRandomBytes(n)` (`src/crypto/random.js` is absent) an operation draws:
`n` octets for every request of `n`. -/
structure Random where
  getRandomBytes : Nat → Bytes
  length_getRandomBytes : ∀ n, (getRandomBytes n).length = n

attribute [simp] Random.length_getRandomBytes

/-- The fields of `config` (`src/config/config.d.ts`) the modelled code reads. -/
structure Config where
  aeadProtect : Bool
  preferredAEADAlgorithm : Nat
  parseAEADEncryptedV4KeysAsLegacy : Bool
  /-- `config.s2kType`: `enums.s2k.iterated` or `enums.s2k.argon2`. -/
  s2kType : Nat
  s2kIterationCountByte : Nat
  /-- `config.s2kArgon2Params`: passes, parallelism and memory exponent. -/
  s2kArgon2Params : Nat × Nat × Nat
  enforceGrammar : Bool
  /-- Whether `config.pluggableGrammarErrorReporter` is set. -/
  hasGrammarErrorReporter : Bool
deriving DecidableEq, Repr

end OpenPgp
