import OpenPgp.Crypto.PublicKey
import OpenPgp.Crypto.ParamsCodec

/-!
# Correct primitives and the dispatcher's round trip

What "the primitives are correct" means for one key, as a predicate over `Primitives` per
primitive, and `KeyPair`, which names the fields of a key pair that the dispatcher reads and asks
the primitives it reaches to be correct for them. Each contract is what the real primitive does:
decryption inverts encryption (RSA and ElGamal on any encoding of the ciphertext integers and
whatever fallback payload they are given, since the MPI codec strips leading zeros), and the
outputs have their fixed shapes (the ciphertext integers fit an MPI, an ephemeral key has the
curve's size, AES key wrap adds 8 octets to a multiple of 8, an AEAD ciphertext carries a 16-octet
tag, an ECDH-wrapped key adds at most 16).

`publicKeyEncrypt_inverse`: under a key pair, the record `publicKeyEncrypt` returns serializes as a
record of `EncParamsWF` (its MPIs stripped), which `publicKeyDecrypt` decrypts back to the data.
-/

namespace OpenPgp

open PublicKeyAlgorithm

/-! ## Contracts of the primitives -/

/-- RSA under `(n, e, d, p, q, u)`. -/
def RSACorrect (prims : Primitives) (n e d p q u : Bytes) : Prop :=
  ∀ data c, prims.rsaEncrypt data n e = .ok c → uint8ArrayBitLength c < 65536 ∧
    ∀ c' r, mpiValue c' = mpiValue c → prims.rsaDecrypt c' n e d p q u r = .ok data

/-- ElGamal under `(p, g, y, x)`. -/
def ElGamalCorrect (prims : Primitives) (p g y x : Bytes) : Prop :=
  ∀ data c1 c2, prims.elgamalEncrypt data p g y = .ok (c1, c2) →
    uint8ArrayBitLength c1 < 65536 ∧ uint8ArrayBitLength c2 < 65536 ∧
    ∀ c1' c2' r, mpiValue c1' = mpiValue c1 → mpiValue c2' = mpiValue c2 →
      prims.elgamalDecrypt c1' c2' p x r = .ok data

/-- Legacy ECDH on the curve `oid` under `(Q, d)`, with the KDF bound to `fingerprint`. -/
def ECDHCorrect (prims : Primitives) (oid : Bytes) (kdfParams : Nat × Nat)
    (Q d fingerprint : Bytes) : Prop :=
  ∀ data V C, prims.ecdhEncrypt oid kdfParams data Q fingerprint = .ok (V, C) →
    uint8ArrayBitLength V < 65536 ∧ C.length ≤ data.length + 16 ∧
    ∀ V', mpiValue V' = mpiValue V → prims.ecdhDecrypt oid kdfParams V' C Q d fingerprint = .ok data

/-- The shape of an AES key wrap of `data`: a whole number of 8-octet blocks, plus one. -/
def AESKWShape (data wrapped : Bytes) : Prop :=
  data.length % 8 = 0 ∧ wrapped.length = data.length + 8

/-- AES-256 key wrap, under every key-encryption key. -/
def AESKWCorrect (prims : Primitives) : Prop :=
  ∀ kek data wrapped, prims.aesKWWrap Symmetric.aes256 kek data = .ok wrapped →
    AESKWShape data wrapped ∧ prims.aesKWUnwrap Symmetric.aes256 kek wrapped = .ok data

/-- X25519 or X448 encryption under `(A, k)`. -/
def ECDHXCorrect (prims : Primitives) (algo : PublicKeyAlgorithm) (A k : Bytes) : Prop :=
  ∀ data ephemeralPublicKey wrappedKey,
    prims.ecdhXEncrypt algo.code data A = .ok (ephemeralPublicKey, wrappedKey) →
    getCurvePayloadSize algo .undefined = .ok ephemeralPublicKey.length ∧
    AESKWShape data wrappedKey ∧
    prims.ecdhXDecrypt algo.code ephemeralPublicKey wrappedKey A k = .ok data

/-- Every AEAD mode under the cipher `cipher` and key `key`, with empty associated data. -/
def AEADCorrect (prims : Primitives) (cipher : Nat) (key : Bytes) : Prop :=
  ∀ mode data iv c, prims.aeadEncrypt mode cipher key data iv [] = .ok c →
    c.length = data.length + aeadTagLength ∧ prims.aeadDecrypt mode cipher key c iv [] = .ok data

/-- The ML-KEM-768 + X25519 composite under its ECC and ML-KEM key pairs: decapsulation and the
recomputed X25519 secret give back the shared secrets, and AES key wrap is correct. -/
def MLKEMX25519Correct (prims : Primitives)
    (eccPublicKey eccSecretKey mlkemPublicKey mlkemSecretKey : Bytes) : Prop :=
  (∀ ephemeralPublicKey sharedSecret,
    prims.ecdhXGenerateEphemeral x25519.code eccPublicKey = .ok (ephemeralPublicKey, sharedSecret) →
    ephemeralPublicKey.length = 32 ∧
    prims.ecdhXRecomputeSharedSecret x25519.code ephemeralPublicKey eccPublicKey eccSecretKey =
      .ok sharedSecret) ∧
  (∀ cipherText sharedSecret,
    prims.mlkemEncapsulate mlkemPublicKey = .ok (cipherText, sharedSecret) →
    cipherText.length = 1088 ∧
    prims.mlkemDecapsulate cipherText mlkemSecretKey = .ok sharedSecret) ∧
  AESKWCorrect prims

/-- `(pub, priv)` is a key pair of the encryption algorithm `a`, for the key fingerprint
`fingerprint`: the fields the dispatcher reads hold values of their kind, and the primitives the
dispatcher reaches for `a` are correct under them. -/
inductive KeyPair (prims : Primitives) (pub priv : Params) (fingerprint : Bytes) :
    PublicKeyAlgorithm → Prop
  | rsa {a : PublicKeyAlgorithm} (ha : a ∈ [rsaEncryptSign, rsaEncrypt]) {n e d p q u : Bytes}
      (hn : pub.get "n" = .bytes n) (he : pub.get "e" = .bytes e) (hd : priv.get "d" = .bytes d)
      (hp : priv.get "p" = .bytes p) (hq : priv.get "q" = .bytes q)
      (hu : priv.get "u" = .bytes u) (hc : RSACorrect prims n e d p q u) :
      KeyPair prims pub priv fingerprint a
  | elgamal {p g y x : Bytes} (hp : pub.get "p" = .bytes p) (hg : pub.get "g" = .bytes g)
      (hy : pub.get "y" = .bytes y) (hx : priv.get "x" = .bytes x)
      (hc : ElGamalCorrect prims p g y x) :
      KeyPair prims pub priv fingerprint elgamal
  | ecdh {oid Q d : Bytes} {hash cipher : Nat} (hoid : pub.get "oid" = .object (.oid oid))
      (hkdf : pub.get "kdfParams" = .object (.kdfParams hash cipher)) (hQ : pub.get "Q" = .bytes Q)
      (hd : priv.get "d" = .bytes d) (hc : ECDHCorrect prims oid (hash, cipher) Q d fingerprint) :
      KeyPair prims pub priv fingerprint ecdh
  | ecdhX {a : PublicKeyAlgorithm} (ha : a ∈ [x25519, x448]) {A k : Bytes}
      (hA : pub.get "A" = .bytes A) (hk : priv.get "k" = .bytes k) (hc : ECDHXCorrect prims a A k) :
      KeyPair prims pub priv fingerprint a
  | aead {cipher : Nat} {keyMaterial : Bytes} (hcipher : enumValue (pub.get "cipher") = .ok cipher)
      (hkm : priv.get "keyMaterial" = .bytes keyMaterial)
      (hc : AEADCorrect prims cipher keyMaterial) :
      KeyPair prims pub priv fingerprint aead
  | pqcMlkemX25519 {eccPublicKey mlkemPublicKey eccSecretKey mlkemSecretKey : Bytes}
      (he : pub.get "eccPublicKey" = .bytes eccPublicKey)
      (hm : pub.get "mlkemPublicKey" = .bytes mlkemPublicKey)
      (hes : priv.get "eccSecretKey" = .bytes eccSecretKey)
      (hms : priv.get "mlkemSecretKey" = .bytes mlkemSecretKey)
      (hc : MLKEMX25519Correct prims eccPublicKey eccSecretKey mlkemPublicKey mlkemSecretKey) :
      KeyPair prims pub priv fingerprint pqcMlkemX25519

/-! ## The dispatcher's round trip -/

/-- **Decryption inverts encryption through the wire format.** Under a key pair, the record
`publicKeyEncrypt` returns for data of fewer than 239 octets serializes as a record of
`EncParamsWF` (the same record, its MPIs stripped of leading zeros), and `publicKeyDecrypt` of that
record returns the data whatever fallback payload it is given. For X25519, X448 and ML-KEM the
record's `C` carries the cleartext cipher `symmetricAlgo`. -/
theorem publicKeyEncrypt_inverse {prims : Primitives} {config : Config} {random : Random}
    {a : PublicKeyAlgorithm}
    {pub priv : Params} {fingerprint : Bytes} {symmetricAlgo : Option Nat}
    {privateParams : Option Params} {data : Bytes} {enc : Params}
    (hk : KeyPair prims pub priv fingerprint a) (hpriv : a = aead → privateParams = some priv)
    (hdata : data.length < 239) (hsym : ∀ s, symmetricAlgo = some s → 0 < s ∧ s < 256)
    (h : publicKeyEncrypt prims config random a.code symmetricAlgo pub privateParams data
      fingerprint = .ok enc) :
    ∃ enc', serializeParams a.code enc = serializeParams a.code enc' ∧ EncParamsWF a enc' ∧
      (∀ r, publicKeyDecrypt prims a.code pub (some priv) enc' fingerprint r = .ok data) ∧
      (a = x25519 ∨ a = x448 ∨ a = pqcMlkemX25519 →
        ∃ wrappedKey, enc'.get "C" = .object (.ecdhXSymmetricKey symmetricAlgo wrappedKey)) := by
  cases hk with
  | @rsa a ha n e d p q u hn he hd hp hq hu hc =>
    simp only [List.mem_cons, List.mem_singleton, List.not_mem_nil, or_false] at ha
    have hrsa : ∃ c, prims.rsaEncrypt data n e = .ok c ∧ [("c", .bytes c)] = enc := by
      rcases ha with rfl | rfl <;>
        simpa [publicKeyEncrypt, Params.getBytes, hn, he, bind_eq_ok] using h
    obtain ⟨c, hce, rfl⟩ := hrsa
    obtain ⟨hbits, hdec⟩ := hc data c hce
    refine ⟨[("c", .bytes (stripZeros c))], ?_,
      .rsa (by simpa using ha) (canonicalMPI_stripZeros hbits), ?_, ?_⟩
    · rcases ha with rfl | rfl <;> simp [serializeParams, serializeParam, excludedFields, isNative,
        algosWithNativeRepresentation]
    · intro r
      rcases ha with rfl | rfl <;>
        simp [publicKeyDecrypt, Params.getBytes, hn, he, hd, hp, hq, hu,
          hdec _ r (mpiValue_stripZeros c)]
    · rcases ha with rfl | rfl <;> simp
  | @elgamal p g y x hp hg hy hx hc =>
    have helg : ∃ c1 c2, prims.elgamalEncrypt data p g y = .ok (c1, c2) ∧
        [("c1", .bytes c1), ("c2", .bytes c2)] = enc := by
      simpa [publicKeyEncrypt, Params.getBytes, hp, hg, hy, bind_eq_ok] using h
    obtain ⟨c1, c2, hce, rfl⟩ := helg
    obtain ⟨h1, h2, hdec⟩ := hc data c1 c2 hce
    refine ⟨[("c1", .bytes (stripZeros c1)), ("c2", .bytes (stripZeros c2))], ?_,
      .elgamal (canonicalMPI_stripZeros h1) (canonicalMPI_stripZeros h2), fun r => ?_, by simp⟩
    · simp [serializeParams, serializeParam, excludedFields, isNative,
        algosWithNativeRepresentation]
    · simp [publicKeyDecrypt, Params.getBytes, hp, hx,
        hdec _ _ r (mpiValue_stripZeros c1) (mpiValue_stripZeros c2)]
  | @ecdh oid Q d hash cipher hoid hkdf hQ hd hc =>
    have hecdh : ∃ V C, prims.ecdhEncrypt oid (hash, cipher) data Q fingerprint = .ok (V, C) ∧
        [("V", .bytes V), ("C", .object (.ecdhSymkey C))] = enc := by
      simpa [publicKeyEncrypt, Params.getBytes, Params.getObject, TypeObject.oidBytes,
        TypeObject.kdf, hoid, hkdf, hQ, bind_eq_ok] using h
    obtain ⟨V, C, hce, rfl⟩ := hecdh
    obtain ⟨hV, hC, hdec⟩ := hc data V C hce
    refine ⟨[("V", .bytes (stripZeros V)), ("C", .object (.ecdhSymkey C))], ?_,
      .ecdh (canonicalMPI_stripZeros hV) (by omega), fun r => ?_, by simp⟩
    · simp [serializeParams, serializeParam, excludedFields, isNative,
        algosWithNativeRepresentation]
    · simp [publicKeyDecrypt, Params.getBytes, Params.getObject, TypeObject.oidBytes,
        TypeObject.kdf, TypeObject.data, hoid, hkdf, hQ, hd, hdec _ (mpiValue_stripZeros V)]
  | @ecdhX a ha A k hA hk hc =>
    simp only [List.mem_cons, List.mem_singleton, List.not_mem_nil, or_false] at ha
    have hx : ∃ eph wk, prims.ecdhXEncrypt a.code data A = .ok (eph, wk) ∧
        symmetricAlgo.any (fun s => s ≠ 0 && !isAES s) = false ∧
        [("ephemeralPublicKey", .bytes eph),
          ("C", .object (.ecdhXSymmetricKey symmetricAlgo wk))] = enc := by
      rcases ha with rfl | rfl <;>
        simp only [publicKeyEncrypt, ofCode_code, Params.getBytes, hA, ok_bind] at h <;>
        split at h <;> simp_all [bind_eq_ok]
    obtain ⟨eph, wk, hce, hchk, rfl⟩ := hx
    obtain ⟨heph, ⟨hd8, hwk⟩, hdec⟩ := hc data eph wk hce
    have haes : ∀ s, symmetricAlgo = some s → isAES s = true := by
      intro s hs
      subst hs
      have := hsym s rfl
      simp at hchk
      exact hchk (by omega)
    refine ⟨_, rfl, .ecdhX (by simpa using ha) heph ⟨by omega, by omega, hsym⟩, fun r => ?_,
      fun _ => ⟨wk, by simp⟩⟩
    have hnot : symmetricAlgo.any (fun s => !isAES s) = false := by
      cases symmetricAlgo <;> simp_all
    rcases ha with rfl | rfl <;>
      simp [publicKeyDecrypt, Params.getBytes, Params.getObject, TypeObject.ecdhX, hA, hk, hnot,
        hdec]
  | @aead cipher keyMaterial hcipher hkm hc =>
    have haead : ∃ ivLength c, getAEADMode config.preferredAEADAlgorithm = .ok ivLength ∧
        prims.aeadEncrypt config.preferredAEADAlgorithm cipher keyMaterial data
          (random.getRandomBytes ivLength) [] = .ok c ∧
        [("aeadMode", .object (.aeadEnum config.preferredAEADAlgorithm)),
          ("iv", .bytes (random.getRandomBytes ivLength)), ("c", .object (.shortByteString c))] =
          enc := by
      simpa [publicKeyEncrypt, hpriv rfl, Params.getBytes, hcipher, hkm, bind_eq_ok] using h
    obtain ⟨ivLength, c, hmode, hce, rfl⟩ := haead
    obtain ⟨hlen, hdec⟩ := hc _ _ _ _ hce
    refine ⟨_, rfl, .aead (by simpa using hmode) (by simp [aeadTagLength] at hlen; omega),
      fun r => ?_, by simp⟩
    simp only [publicKeyDecrypt, ofCode_code, hcipher, ok_bind]
    simp [Params.getBytes, Params.getObject, TypeObject.data, enumValue, hkm, hmode, hdec]
  | @pqcMlkemX25519 eccPublicKey mlkemPublicKey eccSecretKey mlkemSecretKey he hm hes hms hc =>
    obtain ⟨hecc, hmlkem, hkw⟩ := hc
    have hkem : ∃ eph ss ct ss' wk,
        prims.ecdhXGenerateEphemeral x25519.code eccPublicKey = .ok (eph, ss) ∧
        prims.mlkemEncapsulate mlkemPublicKey = .ok (ct, ss') ∧
        prims.aesKWWrap Symmetric.aes256 (multiKeyCombine prims pqcMlkemX25519.code ss'
          (prims.computeDigest Hash.sha3256 (ss ++ (eph ++ eccPublicKey))) eph eccPublicKey) data =
          .ok wk ∧
        [("eccCipherText", .bytes eph), ("mlkemCipherText", .bytes ct),
          ("C", .object (.ecdhXSymmetricKey symmetricAlgo wk))] = enc := by
      simpa [publicKeyEncrypt, kemEncrypt, eccKemEncaps, mlKemEncaps, Params.getBytes, he, hm,
        bind_eq_ok] using h
    obtain ⟨eph, ss, ct, ss', wk, hephe, hencap, hwrap, rfl⟩ := hkem
    obtain ⟨heph, hrec⟩ := hecc eph ss hephe
    obtain ⟨hct, hdecap⟩ := hmlkem ct ss' hencap
    obtain ⟨⟨hd8, hwk⟩, hunwrap⟩ := hkw _ _ _ hwrap
    refine ⟨_, rfl, .pqcMlkemX25519 heph hct ⟨by omega, by omega, hsym⟩, fun r => ?_,
      fun _ => ⟨wk, by simp⟩⟩
    simp [publicKeyDecrypt, kemDecrypt, eccKemDecaps, mlKemDecaps, Params.getBytes,
      Params.getObject, TypeObject.ecdhX, he, hes, hms, hrec, hdecap, hunwrap]

/-! ## The contracts can be met -/

/-- A transparent instantiation of the primitives, under which the contracts of RSA and X25519
hold: RSA "encrypts" up to 255 octets to the MPI `1 :: data` and decrypts by stripping, and X25519
wraps a whole number of blocks behind eight zero octets. Every other primitive fails. -/
def transparentPrims : Primitives where
  rsaEncrypt data _ _ :=
    if data.length < 256 then .ok (1 :: data) else .error (.error "Message too long")
  rsaDecrypt c _ _ _ _ _ _ _ := .ok ((stripZeros c).drop 1)
  elgamalEncrypt _ _ _ _ := .error (.error "unsupported")
  elgamalDecrypt _ _ _ _ _ := .error (.error "unsupported")
  ecdhEncrypt _ _ _ _ _ := .error (.error "unsupported")
  ecdhDecrypt _ _ _ _ _ _ _ := .error (.error "unsupported")
  ecdhXEncrypt _ data _ :=
    if data.length % 8 = 0 then .ok (List.replicate 32 0, List.replicate 8 0 ++ data)
    else .error (.error "unsupported")
  ecdhXDecrypt _ _ wrappedKey _ _ := .ok (wrappedKey.drop 8)
  ecdhXGenerateEphemeral _ _ := .error (.error "unsupported")
  ecdhXRecomputeSharedSecret _ _ _ _ := .error (.error "unsupported")
  aeadEncrypt _ _ _ _ _ _ := .error (.error "unsupported")
  aeadDecrypt _ _ _ _ _ _ := .error (.error "unsupported")
  cfbEncrypt _ _ text _ := text
  cfbDecrypt _ _ text _ := text
  aesKWWrap _ _ _ := .error (.error "unsupported")
  aesKWUnwrap _ _ _ := .error (.error "unsupported")
  computeDigest _ _ := []
  computeHKDF _ _ _ _ _ := []
  produceKey _ _ _ := .error (.error "unsupported")
  mlkemEncapsulate _ := .error (.error "unsupported")
  mlkemDecapsulate _ _ := .error (.error "unsupported")
  mlkemKeygen := ([], [])
  mlkemExpandSecretSeed _ := []
  mldsaExpandSecretSeed _ := []
  ed25519PublicKeyFromSeed _ := []
  slhdsaKeygen := ([], [])
  slhdsaSign _ _ := []
  slhdsaVerify _ _ _ := false
  adapterValidateParams _ _ _ := .ok false
  mldsaCompositeGenerate := ([], [], [], [], [])
  rsaGenerate _ _ := .error (.error "unsupported")
  ellipticGenerate _ := .error (.error "unsupported")
  ecdhXGenerate _ := .error (.error "unsupported")

/-- A random source of zero octets. -/
def zeroRandom : Random := ⟨fun n => List.replicate n 0, by simp⟩

theorem transparentPrims_rsaCorrect (n e d p q u : Bytes) :
    RSACorrect transparentPrims n e d p q u := by
  intro data c h
  simp only [transparentPrims] at h
  split at h
  · cases h
    refine ⟨?_, fun c' r hv => ?_⟩
    · simp [uint8ArrayBitLength, stripZeros_cons_of_ne, Nat.log2]
      omega
    · simp [transparentPrims, stripZeros_eq_of_mpiValue_eq hv, stripZeros_cons_of_ne]
  · cases h

theorem transparentPrims_ecdhXCorrect (A k : Bytes) : ECDHXCorrect transparentPrims x25519 A k := by
  intro data eph wk h
  simp only [transparentPrims] at h
  split at h
  · cases h
    simp_all [AESKWShape, getCurvePayloadSize, transparentPrims]
  · cases h

end OpenPgp
