import OpenPgp.Crypto.Signature
import OpenPgp.Crypto.ParamsBounds

/-!
# Signatures that come back and verify

What "the signing adapters are correct" means for one key, as a predicate per adapter family, and
`SigningKeyPair`, which names the fields of a key pair that `sign` and `verify` read and asks the
adapters they reach to be correct for them. Each contract is what the real adapter does: a
signature verifies, the integers of a signature fit an MPI (RSA's are as long as the modulus,
ECDSA's and EdDSA-legacy's as long as the curve's payload), DSA verifies the integers whatever
their encoding, and the native signatures and MACs have their fixed sizes.

* `parseSignatureParams_serializeParams`: the records of `SignatureParamsWF` are read back by
  `parseSignatureParams` from their serialization, with any bytes after them;
* `parseSignatureParams_within`: a returning parse reports an offset within its input and fills
  the fixed-size fields with their size, for every algorithm (the signature parser cuts no bare
  slice);
* `sign_verifies`, `sign_serialize_parse_verify`: under a signing key pair, what `sign` returns
  serializes, parses back and verifies. `sign` and `verify` make the same hash check, so the hash
  `sign` accepted is accepted again.
-/

namespace OpenPgp

open PublicKeyAlgorithm

/-! ## Contracts of the signing adapters -/

/-- RSA signing under `(n, e, d, p, q, u)`: a signature is as long as the modulus, fits an MPI and
verifies. -/
def RSASigningCorrect (sprims : SignaturePrimitives) (n e d p q u : Bytes) : Prop :=
  ∀ hashAlgo data hashed s, sprims.rsaSign hashAlgo data n e d p q u hashed = .ok s →
    s.length = n.length ∧ uint8ArrayBitLength s < 65536 ∧
      sprims.rsaVerify hashAlgo data s n e hashed = .ok true

/-- DSA signing under `(g, p, q, x, y)`: the integers fit an MPI, and verify under any encoding
of them, since the adapter handles them as integers. -/
def DSASigningCorrect (sprims : SignaturePrimitives) (g p q x y : Bytes) : Prop :=
  ∀ hashAlgo hashed r s, sprims.dsaSign hashAlgo hashed g p q x = .ok (r, s) →
    uint8ArrayBitLength r < 65536 ∧ uint8ArrayBitLength s < 65536 ∧
      ∀ r' s', mpiValue r' = mpiValue r → mpiValue s' = mpiValue s →
        sprims.dsaVerify hashAlgo r' s' hashed g p q y = .ok true

/-- A curve signature adapter pair (ECDSA, EdDSA-legacy) on the curve `oid` under `(Q, d)`: the
integers `r` and `s` have the curve's payload size, and the signature verifies. -/
def CurveSigningCorrect
    (sign : TypeObject → Nat → Bytes → Bytes → Bytes → Bytes → Except Err (Bytes × Bytes))
    (verify : TypeObject → Nat → Bytes × Bytes → Bytes → Bytes → Bytes → Except Err Bool)
    (oid : TypeObject) (payloadSize : Nat) (Q d : Bytes) : Prop :=
  ∀ hashAlgo data hashed r s, sign oid hashAlgo data Q d hashed = .ok (r, s) →
    r.length = payloadSize ∧ s.length = payloadSize ∧
      verify oid hashAlgo (r, s) data Q hashed = .ok true

/-- TweetNaCl Ed25519 under the point `A` and the seed: a detached signature has 64 octets and
verifies. -/
def Ed25519SigningCorrect (sprims : SignaturePrimitives) (A seed : Bytes) : Prop :=
  ∀ hashed, (sprims.naclSignDetached hashed (seed ++ A)).length = 64 ∧
    sprims.naclSignDetachedVerify hashed (sprims.naclSignDetached hashed (seed ++ A)) A = true

/-- HMAC under the hash `algo` and the key material: a MAC fits a short byte string and
verifies. -/
def HMACSigningCorrect (sprims : SignaturePrimitives) (algo : Nat) (keyMaterial : Bytes) :
    Prop :=
  ∀ hashed mac, sprims.hmacSign algo keyMaterial hashed = .ok mac →
    mac.length < 256 ∧ sprims.hmacVerify algo keyMaterial mac hashed = .ok true

/-- The two halves of the ML-DSA-65 + Ed25519 composite under their key pairs: an Ed25519
signature has 64 octets and an ML-DSA one 3309, and each verifies. -/
def MLDSAEd25519SigningCorrect (sprims : SignaturePrimitives)
    (eccPublicKey eccSecretKey mldsaPublicKey mldsaSecretKey : Bytes) : Prop :=
  (∀ hashAlgo dataDigest eccSignature,
    sprims.eccdsaSign pqcMldsaEd25519.code hashAlgo eccSecretKey eccPublicKey dataDigest =
      .ok eccSignature →
    eccSignature.length = 64 ∧
      sprims.eccdsaVerify pqcMldsaEd25519.code hashAlgo eccPublicKey dataDigest eccSignature =
        .ok true) ∧
  (∀ dataDigest mldsaSignature,
    sprims.mldsaSign pqcMldsaEd25519.code mldsaSecretKey dataDigest = .ok mldsaSignature →
    mldsaSignature.length = 3309 ∧
      sprims.mldsaVerify pqcMldsaEd25519.code mldsaPublicKey dataDigest mldsaSignature = .ok true)

/-- `(pub, priv)` is a signing key pair of the algorithm `a`: the fields `sign` and `verify` read
hold values of their kind, and the adapters they reach for `a` are correct under them. There is
no constructor for ElGamal and Ed448, which `sign` refuses. -/
inductive SigningKeyPair (sprims : SignaturePrimitives) (pub priv : Params) :
    PublicKeyAlgorithm → Prop
  | rsa {a : PublicKeyAlgorithm} (ha : a ∈ [rsaEncryptSign, rsaEncrypt, rsaSign])
      {n e d p q u : Bytes} (hn : pub.get "n" = .bytes n) (he : pub.get "e" = .bytes e)
      (hd : priv.get "d" = .bytes d) (hp : priv.get "p" = .bytes p)
      (hq : priv.get "q" = .bytes q) (hu : priv.get "u" = .bytes u)
      (hc : RSASigningCorrect sprims n e d p q u) :
      SigningKeyPair sprims pub priv a
  | dsa {p q g y x : Bytes} (hp : pub.get "p" = .bytes p) (hq : pub.get "q" = .bytes q)
      (hg : pub.get "g" = .bytes g) (hy : pub.get "y" = .bytes y) (hx : priv.get "x" = .bytes x)
      (hc : DSASigningCorrect sprims g p q x y) :
      SigningKeyPair sprims pub priv dsa
  | ecdsa (c : Curve) (hoid : pub.get "oid" = .object (.oid c.oid)) {Q d : Bytes}
      (hQ : pub.get "Q" = .bytes Q) (hd : priv.get "d" = .bytes d)
      (hc : CurveSigningCorrect sprims.ecdsaSign sprims.ecdsaVerify (.oid c.oid) c.payloadSize
        Q d) :
      SigningKeyPair sprims pub priv ecdsa
  | eddsaLegacy (c : Curve) (hoid : pub.get "oid" = .object (.oid c.oid)) {Q seed : Bytes}
      (hQ : pub.get "Q" = .bytes Q) (hs : priv.get "seed" = .bytes seed)
      (hc : CurveSigningCorrect sprims.eddsaLegacySign sprims.eddsaLegacyVerify (.oid c.oid)
        c.payloadSize Q seed) :
      SigningKeyPair sprims pub priv eddsaLegacy
  | ed25519 {A seed : Bytes} (hA : pub.get "A" = .bytes A) (hs : priv.get "seed" = .bytes seed)
      (hc : Ed25519SigningCorrect sprims A seed) :
      SigningKeyPair sprims pub priv ed25519
  | hmac {algo : Nat} {keyMaterial : Bytes} (hcipher : enumValue (pub.get "cipher") = .ok algo)
      (hkm : priv.get "keyMaterial" = .bytes keyMaterial)
      (hc : HMACSigningCorrect sprims algo keyMaterial) :
      SigningKeyPair sprims pub priv hmac
  | pqcMldsaEd25519 {eccPublicKey mldsaPublicKey eccSecretKey mldsaSecretKey : Bytes}
      (he : pub.get "eccPublicKey" = .bytes eccPublicKey)
      (hm : pub.get "mldsaPublicKey" = .bytes mldsaPublicKey)
      (hes : priv.get "eccSecretKey" = .bytes eccSecretKey)
      (hms : priv.get "mldsaSecretKey" = .bytes mldsaSecretKey)
      (hc : MLDSAEd25519SigningCorrect sprims eccPublicKey eccSecretKey mldsaPublicKey
        mldsaSecretKey) :
      SigningKeyPair sprims pub priv pqcMldsaEd25519

/-! ## Well-formed signature records -/

/-- The signature records `parseSignatureParams` reads back, one constructor per branch of the
parser: MPIs canonical, native signatures of twice the curve's payload size, MACs that fit a
short byte string, and the halves of a composite signature of their size. -/
inductive SignatureParamsWF : PublicKeyAlgorithm → Params → Prop
  | rsa {a : PublicKeyAlgorithm} (ha : a ∈ [rsaEncryptSign, rsaEncrypt, rsaSign]) {s : Bytes}
      (hs : CanonicalMPI s) :
      SignatureParamsWF a [("s", .bytes s)]
  | pair {a : PublicKeyAlgorithm} (ha : a ∈ [dsa, ecdsa, eddsaLegacy]) {r s : Bytes}
      (hr : CanonicalMPI r) (hs : CanonicalMPI s) :
      SignatureParamsWF a [("r", .bytes r), ("s", .bytes s)]
  | eddsa {a : PublicKeyAlgorithm} (ha : a ∈ [ed25519, ed448]) {RS : Bytes}
      (hRS : (2 * ·) <$> getCurvePayloadSize a .undefined = .ok RS.length) :
      SignatureParamsWF a [("RS", .bytes RS)]
  | hmac {mac : Bytes} (hm : mac.length < 256) :
      SignatureParamsWF hmac [("mac", .object (.shortByteString mac))]
  | pqcMldsaEd25519 {eccSignature mldsaSignature : Bytes} (he : eccSignature.length = 64)
      (hm : mldsaSignature.length = 3309) :
      SignatureParamsWF pqcMldsaEd25519
        [("eccSignature", .bytes eccSignature), ("mldsaSignature", .bytes mldsaSignature)]

/-- **Signature records come back.** -/
theorem parseSignatureParams_serializeParams {a : PublicKeyAlgorithm} {sig : Params}
    (h : SignatureParamsWF a sig) (t : Bytes) :
    ∃ bytes, serializeParams a.code sig = .ok bytes ∧
      parseSignatureParams a.code (bytes ++ t) = .ok (bytes.length, sig) := by
  cases h with
  | @rsa a ha s hs =>
    have h0 := At.start (uint8ArrayToMPI s ++ t)
    simp only [List.mem_cons, List.mem_singleton, List.not_mem_nil, or_false] at ha
    refine ⟨uint8ArrayToMPI s, ?_, ?_⟩ <;> rcases ha with rfl | rfl | rfl <;>
      simp [serializeParams, serializeParam, excludedFields, isNative,
        algosWithNativeRepresentation, parseSignatureParams, readMPIAt_canonical h0 hs]
  | @pair a ha r s hr hs =>
    have h0 := At.start (uint8ArrayToMPI r ++ (uint8ArrayToMPI s ++ t))
    have h1 := h0.advance
    simp only [List.mem_cons, List.mem_singleton, List.not_mem_nil, or_false] at ha
    refine ⟨uint8ArrayToMPI r ++ uint8ArrayToMPI s, ?_, ?_⟩ <;> rcases ha with rfl | rfl | rfl
    all_goals first
      | simp [serializeParams, serializeParam, excludedFields, isNative,
          algosWithNativeRepresentation]; done
      | simp only [parseSignatureParams, ofCode_code, List.append_assoc,
          readMPIAt_canonical h0 hr, readMPIAt_canonical h1 hs]
        simp [Nat.add_assoc]
  | @eddsa a ha RS hRS =>
    have h0 := At.start (RS ++ t)
    simp only [List.mem_cons, List.mem_singleton, List.not_mem_nil, or_false] at ha
    refine ⟨RS, ?_, ?_⟩ <;> rcases ha with rfl | rfl <;>
      simp_all [serializeParams, serializeParam, excludedFields, isNative,
        algosWithNativeRepresentation, parseSignatureParams, readExactAt_bind h0]
  | @hmac mac hm =>
    have hr : readShortByteString (TypeObject.write (.shortByteString mac) ++ t) = _ :=
      TypeObject.read_write (.shortByteString mac) hm t
    refine ⟨TypeObject.write (.shortByteString mac), ?_, ?_⟩ <;>
      simp [serializeParams, serializeParam, excludedFields, parseSignatureParams,
        readObjectAt_bind hr (At.start _)]
  | @pqcMldsaEd25519 eccSignature mldsaSignature he hm =>
    have h0 := At.start (eccSignature ++ (mldsaSignature ++ t))
    have h1 : At _ 64 (mldsaSignature ++ t) := h0.advance_of_length he
    refine ⟨eccSignature ++ mldsaSignature, ?_, ?_⟩
    · simp [serializeParams, serializeParam, excludedFields, isNative,
        algosWithNativeRepresentation]
    · simp [parseSignatureParams, getCurvePayloadSize, readExactAt_bind h0 he,
        readExactAt_bind h1 hm, he, hm]

/-- The fixed-size fields of a signature record and their sizes: the native EdDSA signatures and
the halves of the composite. -/
def signatureFieldSize (a : PublicKeyAlgorithm) (name : String) : Option Nat :=
  match a with
  | ed25519 => if name = "RS" then some 64 else none
  | ed448 => if name = "RS" then some 114 else none
  | pqcMldsaEd25519 =>
    if name = "eccSignature" then some 64 else if name = "mldsaSignature" then some 3309 else none
  | _ => none

/-- **The signature parser stays within its input.** For every algorithm, a returning
`parseSignatureParams` reports an offset within its input, and every fixed-size field of the
record has its size. -/
theorem parseSignatureParams_within {a : PublicKeyAlgorithm} {signature : Bytes} {read : Nat}
    {sig : Params} (h : parseSignatureParams a.code signature = .ok (read, sig)) :
    read ≤ signature.length ∧ ∀ f ∈ sig, FieldHasSize (signatureFieldSize a) f := by
  cases a <;>
    simp only [parseSignatureParams, ofCode_code, bind_eq_ok, pure_eq_ok, throw_eq_error,
      Except.ok.injEq, Prod.mk.injEq, Prod.exists] at h
  case rsaEncryptSign | rsaEncrypt | rsaSign =>
    obtain ⟨_, _, h, rfl, rfl⟩ := h
    exact ⟨readMPIAt_le h, fun f _ => .of_none (fun _ => rfl) f⟩
  case dsa | ecdsa | eddsaLegacy =>
    obtain ⟨_, _, -, _, _, h, rfl, rfl⟩ := h
    exact ⟨readMPIAt_le h, fun f _ => .of_none (fun _ => rfl) f⟩
  case ed25519 | ed448 =>
    obtain ⟨_, hs, _, _, h, rfl, rfl⟩ := h
    cases hs
    exact ⟨(readExactAt_le h).2.1,
      List.forall_mem_singleton.2 fun _ hn => by cases hn; exact (readExactAt_le h).2.2⟩
  case hmac =>
    obtain ⟨_, _, h, rfl, rfl⟩ := h
    exact ⟨(readObjectAt_le (TypeObject.reader_progress (.shortByteString [])) h).2,
      fun f _ => .of_none (fun _ => rfl) f⟩
  case pqcMldsaEd25519 =>
    obtain ⟨_, hs, _, _, h₁, _, _, h₂, rfl, rfl⟩ := h
    cases hs
    exact ⟨(readExactAt_le h₂).2.1, List.forall_mem_cons.2
      ⟨fun _ hn => by cases hn; exact (readExactAt_le h₁).2.2,
        List.forall_mem_singleton.2 fun _ hn => by cases hn; exact (readExactAt_le h₂).2.2⟩⟩
  all_goals cases h

theorem parseSignatureParams_within_ed25519 :
    64 ≤ (List.replicate 64 (7 : UInt8)).length ∧
      ∀ f ∈ [("RS", Param.bytes (List.replicate 64 7))],
        FieldHasSize (signatureFieldSize ed25519) f :=
  parseSignatureParams_within (by rfl :
    parseSignatureParams ed25519.code (List.replicate 64 7) =
      .ok (64, [("RS", .bytes (List.replicate 64 7))]))

/-! ## The contracts can be met -/

/-- A transparent instantiation of the signing adapters, under which the contracts of Ed25519 and
HMAC hold: an Ed25519 "signature" is the first 64 octets of the public point (the secret key's
octets after the 32-octet seed) and the hashed data, checked against the point; an HMAC is the
first 32 octets of the key material and the hashed data. Every other adapter fails. -/
def transparentSignaturePrims : SignaturePrimitives where
  rsaSign _ _ _ _ _ _ _ _ _ := .error (.error "unsupported")
  rsaVerify _ _ _ _ _ _ := .error (.error "unsupported")
  dsaSign _ _ _ _ _ _ := .error (.error "unsupported")
  dsaVerify _ _ _ _ _ _ _ _ := .error (.error "unsupported")
  ecdsaSign _ _ _ _ _ _ := .error (.error "unsupported")
  ecdsaVerify _ _ _ _ _ _ := .error (.error "unsupported")
  eddsaLegacySign _ _ _ _ _ _ := .error (.error "unsupported")
  eddsaLegacyVerify _ _ _ _ _ _ := .error (.error "unsupported")
  naclSignDetached hashed secretKey := (secretKey.drop 32 ++ hashed ++ List.replicate 64 0).take 64
  naclSignDetachedVerify hashed signature publicKey :=
    signature == (publicKey ++ hashed ++ List.replicate 64 0).take 64
  hmacSign _ keyMaterial hashed := .ok ((keyMaterial ++ hashed).take 32)
  hmacVerify _ keyMaterial mac hashed := .ok (mac == (keyMaterial ++ hashed).take 32)
  eccdsaSign _ _ _ _ _ := .error (.error "unsupported")
  eccdsaVerify _ _ _ _ _ := .error (.error "unsupported")
  mldsaSign _ _ _ := .error (.error "unsupported")
  mldsaVerify _ _ _ _ := .error (.error "unsupported")
  checkEdDSAFaultySignatures := true

theorem transparentSignaturePrims_ed25519Correct (A : Bytes) {seed : Bytes}
    (hs : seed.length = 32) : Ed25519SigningCorrect transparentSignaturePrims A seed := by
  intro hashed
  simp [transparentSignaturePrims, List.drop_left' hs]
  omega

/-! ## What `sign` returns verifies -/

/-- A curve signature whose halves have the curve's payload size goes on the wire as a
well-formed record of its stripped halves, which `verify` pads back to the halves. -/
theorem curveSignature_wire {a : PublicKeyAlgorithm} (ha : a ∈ [ecdsa, eddsaLegacy]) {c : Curve}
    {r s : Bytes} (hr : r.length = c.payloadSize) (hs : s.length = c.payloadSize) :
    serializeParams a.code [("r", .bytes r), ("s", .bytes s)] =
        serializeParams a.code [("r", .bytes (stripZeros r)), ("s", .bytes (stripZeros s))] ∧
      SignatureParamsWF a [("r", .bytes (stripZeros r)), ("s", .bytes (stripZeros s))] ∧
      leftPad (stripZeros r) c.payloadSize = .ok r ∧
      leftPad (stripZeros s) c.payloadSize = .ok s := by
  have hbits : ∀ b : Bytes, b.length = c.payloadSize → uint8ArrayBitLength b < 65536 :=
    fun b hb => uint8ArrayBitLength_lt_of_length (by have := c.payloadSize_le; omega)
  simp only [List.mem_cons, List.mem_singleton, List.not_mem_nil, or_false] at ha
  refine ⟨?_, .pair (by simp [ha]) (canonicalMPI_stripZeros (hbits r hr))
    (canonicalMPI_stripZeros (hbits s hs)), hr ▸ leftPad_stripZeros r, hs ▸ leftPad_stripZeros s⟩
  rcases ha with rfl | rfl <;> simp [serializeParams, serializeParam, excludedFields, isNative,
    algosWithNativeRepresentation]

/-- **What `sign` returns verifies.** Under a signing key pair, the record `sign` returns
serializes as a record of `SignatureParamsWF` (the same record, its MPIs stripped), which `verify`
accepts with the same hash, data and key. -/
theorem sign_verifies {sprims : SignaturePrimitives} {a : PublicKeyAlgorithm} {pub priv : Params}
    (hk : SigningKeyPair sprims pub priv a) {hashAlgo : Nat} {data hashed : Bytes} {sig : Params}
    (hs : sign sprims a.code hashAlgo pub (some priv) data hashed = .ok sig) :
    ∃ sig', serializeParams a.code sig = serializeParams a.code sig' ∧ SignatureParamsWF a sig' ∧
      verify sprims a.code hashAlgo sig' pub (some priv) data hashed = .ok true := by
  cases hk with
  | @rsa a ha n e d p q u hn he hd hp hq hu hc =>
    simp only [List.mem_cons, List.mem_singleton, List.not_mem_nil, or_false] at ha
    have hrsa : ∃ s, sprims.rsaSign hashAlgo data n e d p q u hashed = .ok s ∧
        [("s", .bytes s)] = sig := by
      rcases ha with rfl | rfl | rfl <;>
        simpa [sign, Params.getBytes, hn, he, hd, hp, hq, hu, bind_eq_ok] using hs
    obtain ⟨s, hsign, rfl⟩ := hrsa
    obtain ⟨hlen, hbits, hver⟩ := hc _ _ _ _ hsign
    refine ⟨[("s", .bytes (stripZeros s))], ?_, .rsa (by simpa using ha)
      (canonicalMPI_stripZeros hbits), ?_⟩ <;> rcases ha with rfl | rfl | rfl <;>
      simp [serializeParams, serializeParam, excludedFields, isNative,
        algosWithNativeRepresentation, verify, Params.getBytes, hn, he, ← hlen,
        leftPad_stripZeros, hver]
  | @dsa p q g y x hp hq hg hy hx hc =>
    have hdsa : ∃ r s, sprims.dsaSign hashAlgo hashed g p q x = .ok (r, s) ∧
        [("r", .bytes r), ("s", .bytes s)] = sig := by
      simpa [sign, Params.getBytes, hp, hq, hg, hx, bind_eq_ok] using hs
    obtain ⟨r, s, hsign, rfl⟩ := hdsa
    obtain ⟨hr, hs', hver⟩ := hc _ _ _ _ hsign
    refine ⟨[("r", .bytes (stripZeros r)), ("s", .bytes (stripZeros s))], ?_,
      .pair (by simp) (canonicalMPI_stripZeros hr) (canonicalMPI_stripZeros hs'), ?_⟩
    · simp [serializeParams, serializeParam, excludedFields, isNative,
        algosWithNativeRepresentation]
    · simp [verify, Params.getBytes, hp, hq, hg, hy,
        hver _ _ (mpiValue_stripZeros r) (mpiValue_stripZeros s)]
  | @ecdsa c hoid Q d hQ hd hc =>
    have hsig : ∃ r s, sprims.ecdsaSign (.oid c.oid) hashAlgo data Q d hashed = .ok (r, s) ∧
        [("r", .bytes r), ("s", .bytes s)] = sig := by
      simpa [sign, Params.getBytes, Params.getObject, hoid, hQ, hd, bind_eq_ok] using hs
    obtain ⟨r, s, hsign, rfl⟩ := hsig
    obtain ⟨hr, hs', hver⟩ := hc _ _ _ _ _ hsign
    obtain ⟨hser, hwf, hpr, hps⟩ := @curveSignature_wire ecdsa (by simp) c r s hr hs'
    exact ⟨_, hser, hwf, by simp [verify, Params.getBytes, Params.getObject, hoid, hQ,
      getCurvePayloadSize, checkSupportedCurve, Except.map, hpr, hps, hver]⟩
  | @eddsaLegacy c hoid Q seed hQ hseed hc =>
    have hsig : (∃ u, checkHashStrength hashAlgo (.ok Hash.sha256)
          "Hash algorithm too weak for EdDSALegacy." = .ok u) ∧
        ∃ r s, sprims.eddsaLegacySign (.oid c.oid) hashAlgo data Q seed hashed = .ok (r, s) ∧
          [("r", .bytes r), ("s", .bytes s)] = sig := by
      simpa [sign, Params.getBytes, Params.getObject, hoid, hQ, hseed, bind_eq_ok] using hs
    obtain ⟨⟨_, hchk⟩, r, s, hsign, rfl⟩ := hsig
    obtain ⟨hr, hs', hver⟩ := hc _ _ _ _ _ hsign
    obtain ⟨hser, hwf, hpr, hps⟩ := @curveSignature_wire eddsaLegacy (by simp) c r s hr hs'
    exact ⟨_, hser, hwf, by simp [verify, Params.getBytes, Params.getObject, hoid, hQ, hchk,
      getCurvePayloadSize, checkSupportedCurve, Except.map, hpr, hps, hver]⟩
  | @ed25519 A seed hA hseed hc =>
    obtain ⟨hlen, hver⟩ := hc hashed
    have hsig : (∃ u, checkHashStrength hashAlgo (eddsaGetPreferredHashAlgo ed25519.code)
          "Hash algorithm too weak for EdDSA." = .ok u) ∧
        [("RS", .bytes (sprims.naclSignDetached hashed (seed ++ A)))] = sig := by
      simpa [sign, eddsaSign, Params.getBytes, hA, hseed, hver, bind_eq_ok] using hs
    obtain ⟨⟨_, hchk⟩, rfl⟩ := hsig
    refine ⟨_, rfl, .eddsa (by simp) (by rw [hlen]; rfl), ?_⟩
    simp [verify, eddsaVerify, Params.getBytes, hA, hchk, hver]
  | @hmac algo keyMaterial hcipher hkm hc =>
    have hsig : ∃ mac, sprims.hmacSign algo keyMaterial hashed = .ok mac ∧
        [("mac", .object (.shortByteString mac))] = sig := by
      simpa [sign, Params.getBytes, hcipher, hkm, bind_eq_ok] using hs
    obtain ⟨mac, hsign, rfl⟩ := hsig
    obtain ⟨hlen, hver⟩ := hc _ _ hsign
    exact ⟨_, rfl, .hmac hlen, by simp [verify, Params.getBytes, Params.getObject, TypeObject.data,
      hcipher, hkm, hver]⟩
  | @pqcMldsaEd25519 eccPublicKey mldsaPublicKey eccSecretKey mldsaSecretKey he hm hes hms hc =>
    have hsig : pqcIsCompatibleHashAlgo pqcMldsaEd25519.code hashAlgo = .ok true ∧
        ∃ eccSignature mldsaSignature,
          sprims.eccdsaSign pqcMldsaEd25519.code hashAlgo eccSecretKey eccPublicKey hashed =
            .ok eccSignature ∧
          sprims.mldsaSign pqcMldsaEd25519.code mldsaSecretKey hashed = .ok mldsaSignature ∧
          [("eccSignature", .bytes eccSignature), ("mldsaSignature", .bytes mldsaSignature)] =
            sig := by
      simp only [sign, ofCode_code, Params.getBytes, he, hes, hms, ok_bind, pqcSign] at hs
      rcases hb : pqcIsCompatibleHashAlgo pqcMldsaEd25519.code hashAlgo with _ | _ | _
      · simp [hb] at hs
      · simp [hb] at hs
      · simpa [hb, bind_eq_ok] using hs
    obtain ⟨hcompat, eccSignature, mldsaSignature, hecc, hmldsa, rfl⟩ := hsig
    obtain ⟨he', heccv⟩ := hc.1 _ _ _ hecc
    obtain ⟨hm', hmldsav⟩ := hc.2 _ _ hmldsa
    exact ⟨_, rfl, .pqcMldsaEd25519 he' hm', by simp [verify, pqcVerify, Params.getBytes, he, hm,
      hcompat, heccv, hmldsav]⟩

/-- **A signature comes back and verifies.** Under a signing key pair, the record `sign` returns
serializes, `parseSignatureParams` reads it back from its serialization with any bytes after it,
and `verify` accepts what was read with the hash, data and key it was signed with. -/
theorem sign_serialize_parse_verify {sprims : SignaturePrimitives} {a : PublicKeyAlgorithm}
    {pub priv : Params} (hk : SigningKeyPair sprims pub priv a) {hashAlgo : Nat}
    {data hashed : Bytes} {sig : Params}
    (hs : sign sprims a.code hashAlgo pub (some priv) data hashed = .ok sig) (t : Bytes) :
    ∃ bytes sig', serializeParams a.code sig = .ok bytes ∧
      parseSignatureParams a.code (bytes ++ t) = .ok (bytes.length, sig') ∧
      verify sprims a.code hashAlgo sig' pub (some priv) data hashed = .ok true := by
  obtain ⟨sig', hser, hwf, hver⟩ := sign_verifies hk hs
  obtain ⟨bytes, hb, hparse⟩ := parseSignatureParams_serializeParams hwf t
  exact ⟨bytes, sig', hser.trans hb, hparse, hver⟩

/-- An Ed25519 key of the transparent adapters signs under SHA-256, and the signature comes back
and verifies. -/
theorem sign_serialize_parse_verify_ed25519 :
    ∃ sig bytes sig', sign transparentSignaturePrims ed25519.code Hash.sha256
      [("A", .bytes (List.replicate 32 7))] (some [("seed", .bytes (List.replicate 32 5))]) []
      [1, 2, 3] = .ok sig ∧
    serializeParams ed25519.code sig = .ok bytes ∧
    parseSignatureParams ed25519.code bytes = .ok (bytes.length, sig') ∧
    verify transparentSignaturePrims ed25519.code Hash.sha256 sig'
      [("A", .bytes (List.replicate 32 7))] (some [("seed", .bytes (List.replicate 32 5))]) []
      [1, 2, 3] = .ok true := by
  obtain ⟨sig, hs⟩ : ∃ sig, sign transparentSignaturePrims ed25519.code Hash.sha256
      [("A", .bytes (List.replicate 32 7))] (some [("seed", .bytes (List.replicate 32 5))]) []
      [1, 2, 3] = .ok sig := ⟨_, rfl⟩
  obtain ⟨bytes, sig', h⟩ := @sign_serialize_parse_verify transparentSignaturePrims ed25519
    [("A", .bytes (List.replicate 32 7))] [("seed", .bytes (List.replicate 32 5))]
    (.ed25519 rfl rfl (transparentSignaturePrims_ed25519Correct _ rfl)) _ _ _ _ hs []
  exact ⟨sig, bytes, sig', hs, by simpa using h⟩

end OpenPgp
