import OpenPgp.Crypto.Params

/-!
# The parameter codec round trip

`serializeParams` followed by each parser returns the record it started from, for every
algorithm whose records the parser reads back (spec §8, property 1):

* `parsePublicKeyParams_serializeParams` — public records, with any bytes after them;
* `parsePrivateKeyParams_serializeParams` — private records, the expanded ML-KEM and ML-DSA
  secret keys re-derived from their seeds;
* `parseEncSessionKeyParams_serializeParams` — the encrypted session-key records of a PKESK.

The records are those of `PublicParamsWF`, `PrivateParamsWF` and `EncParamsWF`: one constructor
per algorithm family, its fields in the key order the parser builds them and each of the shape
the wire format can carry. Two of the table's behaviours are left outside them, because the
round trip fails there. The EdDSA-legacy parser left-pads the point `Q` to 33 octets, so a point
of another length does not come back (`parsePublicKeyParams_eddsaLegacy_pads`); and the HMAC
parser reads the hash tag with the symmetric-cipher enum class, so an HMAC record's `HashEnum`,
which `generateParams` builds, never comes back (`parsePublicKeyParams_generated_hmac`).

The proofs walk the serialized bytes with a cursor (`At`): each field read of a parser is
rewritten by the `*_bind` lemma of its kind once the cursor stands before that field's encoding.
-/

namespace OpenPgp

open PublicKeyAlgorithm

/-! ## The cursor -/

/-- The reader stands at offset `read` of `bytes`, with `rest` left to read. -/
def At (bytes : Bytes) (read : Nat) (rest : Bytes) : Prop :=
  read ≤ bytes.length ∧ bytes.drop read = rest

theorem At.start (bytes : Bytes) : At bytes 0 bytes := ⟨Nat.zero_le _, rfl⟩

/-- Reading a field moves the cursor past its encoding. -/
theorem At.advance {bytes w t : Bytes} {read : Nat} (h : At bytes read (w ++ t)) :
    At bytes (read + w.length) t := by
  obtain ⟨hr, hd⟩ := h
  have hl := congrArg List.length hd
  simp only [List.length_drop, List.length_append] at hl
  refine ⟨by omega, ?_⟩
  rw [← List.drop_drop, hd, List.drop_left]

/-- Reading a field of a fixed size `n` moves the cursor by `n`. -/
theorem At.advance_of_length {bytes w t : Bytes} {read n : Nat} (h : At bytes read (w ++ t))
    (hn : w.length = n) : At bytes (read + n) t :=
  hn ▸ h.advance

/-- The MPIs `uint8ArrayToMPI` writes and `readMPI` reads back unchanged: no leading zero octet
and fewer than `2^16` bits. -/
def CanonicalMPI (b : Bytes) : Prop := stripZeros b = b ∧ uint8ArrayBitLength b < 65536

theorem readMPIAt_bind {β : Type} {bytes b t : Bytes} {read : Nat}
    (h : At bytes read (uint8ArrayToMPI b ++ t)) (hb : uint8ArrayBitLength b < 65536)
    (f : Bytes × Nat → Except Err β) :
    (readMPIAt bytes read >>= f) = f (stripZeros b, read + (uint8ArrayToMPI b).length) := by
  simp [readMPIAt, h.2, readMPI_uint8ArrayToMPI b t hb, Except.map]

theorem canonicalMPI_stripZeros {b : Bytes} (h : uint8ArrayBitLength b < 65536) :
    CanonicalMPI (stripZeros b) :=
  ⟨stripZeros_stripZeros b, by rwa [uint8ArrayBitLength_stripZeros]⟩

/-- A canonical MPI reads back as itself. -/
theorem readMPIAt_canonical {β : Type} {bytes b t : Bytes} {read : Nat}
    (h : At bytes read (uint8ArrayToMPI b ++ t)) (hb : CanonicalMPI b)
    (f : Bytes × Nat → Except Err β) :
    (readMPIAt bytes read >>= f) = f (b, read + (uint8ArrayToMPI b).length) := by
  rw [readMPIAt_bind h hb.2, hb.1]

/-- A string of fewer than `2^13` octets has fewer than `2^16` bits. -/
theorem uint8ArrayBitLength_lt_of_length {b : Bytes} (h : b.length < 8192) :
    uint8ArrayBitLength b < 65536 := by
  have := uint8ArrayBitLength_bytes b
  have := stripZeros_length_le b
  omega

theorem slice_of_drop {bytes x t : Bytes} {read : Nat} (hd : bytes.drop read = x ++ t) :
    slice bytes read (read + x.length) = x := by
  rw [slice, List.drop_take, Nat.add_sub_cancel_left, hd, List.take_left' rfl]

theorem readExactAt_bind {β : Type} {bytes x t : Bytes} {read n : Nat}
    (h : At bytes read (x ++ t)) (hn : x.length = n) (f : Bytes × Nat → Except Err β) :
    (readExactAt bytes read n >>= f) = f (x, read + n) := by
  obtain ⟨hr, hd⟩ := h
  have hl := congrArg List.length hd
  simp only [List.length_drop, List.length_append] at hl
  subst hn
  simp [readExactAt, readExactSubarray, show ¬ bytes.length < read + x.length by omega,
    slice_of_drop hd, Except.map]

theorem subarrayAt_of_at {bytes x t : Bytes} {read n : Nat} (h : At bytes read (x ++ t))
    (hn : x.length = n) : subarrayAt bytes read n = (x, read + n) := by
  rw [subarrayAt, ← hn, slice_of_drop h.2]

theorem readObjectAt_bind {β : Type} {reader : Bytes → Except Err (TypeObject × Nat)}
    {o : TypeObject} {bytes t : Bytes} {read : Nat}
    (hread : reader (o.write ++ t) = .ok (o, o.write.length))
    (h : At bytes read (o.write ++ t)) (f : TypeObject × Nat → Except Err β) :
    (readObjectAt reader bytes read >>= f) = f (o, read + o.write.length) := by
  simp [readObjectAt, h.2, hread, Except.map]

/-! ## Serialization -/

theorem serializeParams_cons (algo : Nat) (field : String × Param) (rest : Params) :
    serializeParams algo (field :: rest) =
      (serializeParam algo field).bind fun b => (serializeParams algo rest).map (b ++ ·) := by
  simp only [serializeParams, bind, Except.bind]
  cases serializeParam algo field <;> cases serializeParams algo rest <;> rfl

/-- A byte-string field of a non-excluded name serializes as its bytes or its MPI. -/
theorem serializeParam_bytes (algo : Nat) (name : String) (b : Bytes)
    (h : name ∉ excludedFields algo) :
    serializeParam algo (name, .bytes b) = .ok (if isNative algo then b else uint8ArrayToMPI b) :=
  by simp [serializeParam, h]

theorem serializeParam_object (algo : Nat) (name : String) (o : TypeObject)
    (h : name ∉ excludedFields algo) :
    serializeParam algo (name, .object o) = .ok o.write := by
  simp [serializeParam, h]

/-! ## Well-formed records -/

/-- The public records `parsePublicKeyParams` reads back, one constructor per branch of the
parser, with the fields in the key order the branch builds them: MPIs canonical, native points
and PQC keys of their size, curves supported (Ed25519Legacy for EdDSA-legacy, whose point is the
33-octet `0x40`-prefixed string), KDF octets and the symmetric-key cipher readable. -/
inductive PublicParamsWF : PublicKeyAlgorithm → Params → Prop
  | rsa {a : PublicKeyAlgorithm} (ha : a ∈ [rsaEncryptSign, rsaEncrypt, rsaSign]) {n e : Bytes}
      (hn : CanonicalMPI n) (he : CanonicalMPI e) :
      PublicParamsWF a [("n", .bytes n), ("e", .bytes e)]
  | dsa {p q g y : Bytes} (hp : CanonicalMPI p) (hq : CanonicalMPI q) (hg : CanonicalMPI g)
      (hy : CanonicalMPI y) :
      PublicParamsWF dsa [("p", .bytes p), ("q", .bytes q), ("g", .bytes g), ("y", .bytes y)]
  | elgamal {p g y : Bytes} (hp : CanonicalMPI p) (hg : CanonicalMPI g) (hy : CanonicalMPI y) :
      PublicParamsWF elgamal [("p", .bytes p), ("g", .bytes g), ("y", .bytes y)]
  | ecdsa (c : Curve) {Q : Bytes} (hQ : CanonicalMPI Q) :
      PublicParamsWF ecdsa [("oid", .object (.oid c.oid)), ("Q", .bytes Q)]
  | eddsaLegacy {Q : Bytes} (hQ : CanonicalMPI Q) (hlen : Q.length = 33) :
      PublicParamsWF eddsaLegacy
        [("oid", .object (.oid Curve.ed25519Legacy.oid)), ("Q", .bytes Q)]
  | ecdh (c : Curve) {Q : Bytes} (hQ : CanonicalMPI Q) {hash cipher : Nat} (hh : hash < 256)
      (hc : cipher < 256) :
      PublicParamsWF ecdh [("oid", .object (.oid c.oid)), ("Q", .bytes Q),
        ("kdfParams", .object (.kdfParams hash cipher))]
  | native {a : PublicKeyAlgorithm} (ha : a ∈ [ed25519, ed448, x25519, x448]) {A : Bytes}
      (hA : getCurvePayloadSize a .undefined = .ok A.length) :
      PublicParamsWF a [("A", .bytes A)]
  | symmetric {a : PublicKeyAlgorithm} (ha : a ∈ [hmac, aead]) {cipher : Nat}
      (hc : cipher ∈ symmetricCodes) {digest : Bytes} (hd : digest.length = 32) :
      PublicParamsWF a [("cipher", .object (.symAlgoEnum cipher)), ("digest", .bytes digest)]
  | pqcMlkemX25519 {eccPublicKey mlkemPublicKey : Bytes} (he : eccPublicKey.length = 32)
      (hm : mlkemPublicKey.length = 1184) :
      PublicParamsWF pqcMlkemX25519
        [("eccPublicKey", .bytes eccPublicKey), ("mlkemPublicKey", .bytes mlkemPublicKey)]
  | pqcMldsaEd25519 {eccPublicKey mldsaPublicKey : Bytes} (he : eccPublicKey.length = 32)
      (hm : mldsaPublicKey.length = 1952) :
      PublicParamsWF pqcMldsaEd25519
        [("eccPublicKey", .bytes eccPublicKey), ("mldsaPublicKey", .bytes mldsaPublicKey)]

/-- The private records `parsePrivateKeyParams` reads back against the public record `pub`:
canonical MPIs; ECDSA/ECDH scalars and EdDSA-legacy seeds of the payload size of the curve `pub`
names (leading zeros allowed); native seeds and keys, hash seeds and symmetric key material of
the size the algorithm and `pub` dictate; and the expanded ML-KEM and ML-DSA secret keys, which
are never written, equal to the expansion of their seeds. -/
inductive PrivateParamsWF (prims : Primitives) (pub : Params) :
    PublicKeyAlgorithm → Params → Prop
  | rsa {a : PublicKeyAlgorithm} (ha : a ∈ [rsaEncryptSign, rsaEncrypt, rsaSign])
      {d p q u : Bytes} (hd : CanonicalMPI d) (hp : CanonicalMPI p) (hq : CanonicalMPI q)
      (hu : CanonicalMPI u) :
      PrivateParamsWF prims pub a
        [("d", .bytes d), ("p", .bytes p), ("q", .bytes q), ("u", .bytes u)]
  | discreteLog {a : PublicKeyAlgorithm} (ha : a ∈ [dsa, elgamal]) {x : Bytes}
      (hx : CanonicalMPI x) :
      PrivateParamsWF prims pub a [("x", .bytes x)]
  | ecc {a : PublicKeyAlgorithm} (ha : a ∈ [ecdsa, ecdh]) (c : Curve)
      (hoid : pub.get "oid" = .object (.oid c.oid)) {d : Bytes} (hd : d.length = c.payloadSize) :
      PrivateParamsWF prims pub a [("d", .bytes d)]
  | eddsaLegacy (hoid : pub.get "oid" = .object (.oid Curve.ed25519Legacy.oid)) {seed : Bytes}
      (hs : seed.length = 32) :
      PrivateParamsWF prims pub eddsaLegacy [("seed", .bytes seed)]
  | eddsa {a : PublicKeyAlgorithm} (ha : a ∈ [ed25519, ed448]) {seed : Bytes}
      (hs : getCurvePayloadSize a .undefined = .ok seed.length) :
      PrivateParamsWF prims pub a [("seed", .bytes seed)]
  | ecdhX {a : PublicKeyAlgorithm} (ha : a ∈ [x25519, x448]) {k : Bytes}
      (hk : getCurvePayloadSize a .undefined = .ok k.length) :
      PrivateParamsWF prims pub a [("k", .bytes k)]
  | hmac {hash : Nat} (hc : enumValue (pub.get "cipher") = .ok hash)
      {hashSeed keyMaterial : Bytes} (hs : hashSeed.length = 32)
      (hk : getHashByteLength hash = .ok keyMaterial.length) :
      PrivateParamsWF prims pub hmac
        [("hashSeed", .bytes hashSeed), ("keyMaterial", .bytes keyMaterial)]
  | aead {cipher : Nat} (hc : enumValue (pub.get "cipher") = .ok cipher) {params : CipherParams}
      (hp : getCipherParams cipher = .ok params) {hashSeed keyMaterial : Bytes}
      (hs : hashSeed.length = 32) (hk : keyMaterial.length = params.keySize) :
      PrivateParamsWF prims pub aead
        [("hashSeed", .bytes hashSeed), ("keyMaterial", .bytes keyMaterial)]
  | pqcMlkemX25519 {eccSecretKey mlkemSeed : Bytes} (he : eccSecretKey.length = 32)
      (hs : mlkemSeed.length = 64) :
      PrivateParamsWF prims pub pqcMlkemX25519
        [("eccSecretKey", .bytes eccSecretKey),
          ("mlkemSecretKey", .bytes (prims.mlkemExpandSecretSeed mlkemSeed)),
          ("mlkemSeed", .bytes mlkemSeed)]
  | pqcMldsaEd25519 {eccSecretKey mldsaSeed : Bytes} (he : eccSecretKey.length = 32)
      (hs : mldsaSeed.length = 32) :
      PrivateParamsWF prims pub pqcMldsaEd25519
        [("eccSecretKey", .bytes eccSecretKey),
          ("mldsaSecretKey", .bytes (prims.mldsaExpandSecretSeed mldsaSeed)),
          ("mldsaSeed", .bytes mldsaSeed)]

/-- The encrypted session-key records `parseEncSessionKeyParams` reads back: canonical MPIs,
ephemeral keys and PQC ciphertexts of their size, wrapped keys and AEAD ciphertexts readable by
their length-prefixed classes, and an AEAD mode the reader accepts with an IV of its length. -/
inductive EncParamsWF : PublicKeyAlgorithm → Params → Prop
  | rsa {a : PublicKeyAlgorithm} (ha : a ∈ [rsaEncryptSign, rsaEncrypt]) {c : Bytes}
      (hc : CanonicalMPI c) :
      EncParamsWF a [("c", .bytes c)]
  | elgamal {c1 c2 : Bytes} (h1 : CanonicalMPI c1) (h2 : CanonicalMPI c2) :
      EncParamsWF elgamal [("c1", .bytes c1), ("c2", .bytes c2)]
  | ecdh {V C : Bytes} (hV : CanonicalMPI V) (hC : C.length < 256) :
      EncParamsWF ecdh [("V", .bytes V), ("C", .object (.ecdhSymkey C))]
  | ecdhX {a : PublicKeyAlgorithm} (ha : a ∈ [x25519, x448]) {ephemeralPublicKey : Bytes}
      (he : getCurvePayloadSize a .undefined = .ok ephemeralPublicKey.length)
      {algorithm : Option Nat} {wrappedKey : Bytes}
      (hC : (TypeObject.ecdhXSymmetricKey algorithm wrappedKey).Readable) :
      EncParamsWF a [("ephemeralPublicKey", .bytes ephemeralPublicKey),
        ("C", .object (.ecdhXSymmetricKey algorithm wrappedKey))]
  | aead {mode : Nat} {iv c : Bytes} (hm : getAEADMode mode = .ok iv.length)
      (hc : c.length < 256) :
      EncParamsWF aead [("aeadMode", .object (.aeadEnum mode)), ("iv", .bytes iv),
        ("c", .object (.shortByteString c))]
  | pqcMlkemX25519 {eccCipherText mlkemCipherText : Bytes} (he : eccCipherText.length = 32)
      (hm : mlkemCipherText.length = 1088) {algorithm : Option Nat} {wrappedKey : Bytes}
      (hC : (TypeObject.ecdhXSymmetricKey algorithm wrappedKey).Readable) :
      EncParamsWF pqcMlkemX25519 [("eccCipherText", .bytes eccCipherText),
        ("mlkemCipherText", .bytes mlkemCipherText),
        ("C", .object (.ecdhXSymmetricKey algorithm wrappedKey))]

/-! ## The round trips -/

/-- **Public records come back.** -/
theorem parsePublicKeyParams_serializeParams {a : PublicKeyAlgorithm} {pub : Params}
    (h : PublicParamsWF a pub) (t : Bytes) :
    ∃ bytes, serializeParams a.code pub = .ok bytes ∧
      parsePublicKeyParams a.code (bytes ++ t) = .ok (bytes.length, pub) := by
  cases h with
  | @rsa a ha n e hn he =>
    have h0 := At.start (uint8ArrayToMPI n ++ (uint8ArrayToMPI e ++ t))
    have h1 := h0.advance
    simp only [List.mem_cons, List.mem_singleton, List.not_mem_nil, or_false] at ha
    refine ⟨uint8ArrayToMPI n ++ uint8ArrayToMPI e, ?_, ?_⟩
    · rcases ha with rfl | rfl | rfl <;>
        simp [serializeParams, serializeParam, excludedFields, isNative,
          algosWithNativeRepresentation]
    · rcases ha with rfl | rfl | rfl <;>
        simp only [parsePublicKeyParams, ofCode_code, List.append_assoc, readMPIAt_canonical h0 hn,
          readMPIAt_canonical h1 he] <;> simp [Nat.add_assoc]
  | @dsa p q g y hp hq hg hy =>
    have h0 := At.start
      (uint8ArrayToMPI p ++ (uint8ArrayToMPI q ++ (uint8ArrayToMPI g ++ (uint8ArrayToMPI y ++ t))))
    have h1 := h0.advance
    have h2 := h1.advance
    have h3 := h2.advance
    refine ⟨uint8ArrayToMPI p ++ uint8ArrayToMPI q ++ uint8ArrayToMPI g ++ uint8ArrayToMPI y,
      ?_, ?_⟩
    · simp [serializeParams, serializeParam, excludedFields, isNative,
        algosWithNativeRepresentation]
    · simp only [parsePublicKeyParams, ofCode_code, List.append_assoc, readMPIAt_canonical h0 hp,
          readMPIAt_canonical h1 hq, readMPIAt_canonical h2 hg, readMPIAt_canonical h3 hy]
      simp [Nat.add_assoc]
  | @ecdsa c Q hQ =>
    have h0 := At.start (TypeObject.write (.oid c.oid) ++ (uint8ArrayToMPI Q ++ t))
    have h1 := h0.advance
    have hr : readOID (TypeObject.write (.oid c.oid) ++ (uint8ArrayToMPI Q ++ t)) = _ :=
      TypeObject.read_write (.oid c.oid) (Curve.oid_length_lt c) _
    refine ⟨TypeObject.write (.oid c.oid) ++ uint8ArrayToMPI Q, ?_, ?_⟩
    · simp [serializeParams, serializeParam, excludedFields, isNative,
        algosWithNativeRepresentation]
    · simp only [parsePublicKeyParams, ofCode_code, List.append_assoc, readObjectAt_bind hr h0,
        readMPIAt_canonical h1 hQ]
      simp [checkSupportedCurve, Nat.add_assoc]
  | @elgamal p g y hp hg hy =>
    have h0 := At.start (uint8ArrayToMPI p ++ (uint8ArrayToMPI g ++ (uint8ArrayToMPI y ++ t)))
    have h1 := h0.advance
    have h2 := h1.advance
    refine ⟨uint8ArrayToMPI p ++ uint8ArrayToMPI g ++ uint8ArrayToMPI y,
      by simp [serializeParams, serializeParam, excludedFields, isNative,
        algosWithNativeRepresentation], ?_⟩
    simp only [parsePublicKeyParams, ofCode_code, List.append_assoc, readMPIAt_canonical h0 hp,
      readMPIAt_canonical h1 hg, readMPIAt_canonical h2 hy]
    simp [Nat.add_assoc]
  | @eddsaLegacy Q hQ hlen =>
    have h0 := At.start
      (TypeObject.write (.oid Curve.ed25519Legacy.oid) ++ (uint8ArrayToMPI Q ++ t))
    have h1 := h0.advance
    have hr :
        readOID (TypeObject.write (.oid Curve.ed25519Legacy.oid) ++ (uint8ArrayToMPI Q ++ t)) = _ :=
      TypeObject.read_write (.oid Curve.ed25519Legacy.oid) (Curve.oid_length_lt _) _
    refine ⟨TypeObject.write (.oid Curve.ed25519Legacy.oid) ++ uint8ArrayToMPI Q,
      by simp [serializeParams, serializeParam, excludedFields, isNative,
        algosWithNativeRepresentation], ?_⟩
    simp only [parsePublicKeyParams, ofCode_code, List.append_assoc, readObjectAt_bind hr h0,
      readMPIAt_canonical h1 hQ]
    simp [checkSupportedCurve, leftPad, hlen, Nat.add_assoc]
  | @ecdh c Q hQ hash cipher hh hc =>
    have h0 := At.start (TypeObject.write (.oid c.oid) ++
      (uint8ArrayToMPI Q ++ (TypeObject.write (.kdfParams hash cipher) ++ t)))
    have h1 := h0.advance
    have h2 := h1.advance
    have hr : readOID (TypeObject.write (.oid c.oid) ++ _) = _ :=
      TypeObject.read_write (.oid c.oid) (Curve.oid_length_lt c)
        (uint8ArrayToMPI Q ++ (TypeObject.write (.kdfParams hash cipher) ++ t))
    have hk : readKDFParams (TypeObject.write (.kdfParams hash cipher) ++ t) = _ :=
      TypeObject.read_write (.kdfParams hash cipher) ⟨hh, hc⟩ t
    refine ⟨TypeObject.write (.oid c.oid) ++ uint8ArrayToMPI Q ++
        TypeObject.write (.kdfParams hash cipher),
      by simp [serializeParams, serializeParam, excludedFields, isNative,
        algosWithNativeRepresentation], ?_⟩
    simp only [parsePublicKeyParams, ofCode_code, List.append_assoc, readObjectAt_bind hr h0,
      readMPIAt_canonical h1 hQ, readObjectAt_bind hk h2]
    simp [checkSupportedCurve, Nat.add_assoc]
  | @native a ha A hA =>
    have h0 : At (A ++ t) 0 (A ++ t) := At.start _
    simp only [List.mem_cons, List.mem_singleton, List.not_mem_nil, or_false] at ha
    refine ⟨A, ?_, ?_⟩
    · rcases ha with rfl | rfl | rfl | rfl <;> simp [serializeParams, serializeParam,
        excludedFields, isNative, algosWithNativeRepresentation]
    · rcases ha with rfl | rfl | rfl | rfl <;>
        simp [parsePublicKeyParams, hA, readExactAt_bind h0 rfl]
  | @symmetric a ha cipher hc digest hd =>
    have h0 := At.start (TypeObject.write (.symAlgoEnum cipher) ++ (digest ++ t))
    have h1 := h0.advance
    have hr : readSymAlgoEnum (TypeObject.write (.symAlgoEnum cipher) ++ (digest ++ t)) = _ :=
      TypeObject.read_write (.symAlgoEnum cipher) hc _
    simp only [List.mem_cons, List.mem_singleton, List.not_mem_nil, or_false] at ha
    refine ⟨TypeObject.write (.symAlgoEnum cipher) ++ digest, ?_, ?_⟩
    · rcases ha with rfl | rfl <;> simp [serializeParams, serializeParam, excludedFields, isNative,
        algosWithNativeRepresentation]
    · rcases ha with rfl | rfl <;>
        simp only [parsePublicKeyParams, ofCode_code, List.append_assoc, readObjectAt_bind hr h0,
          getHashByteLength, Hash.sha256, ok_bind, subarrayAt_of_at h1 hd] <;>
        simp [hd]
  | @pqcMlkemX25519 ecc mlkem he hm =>
    have h0 := At.start (ecc ++ (mlkem ++ t))
    have h1 := h0.advance_of_length he
    refine ⟨ecc ++ mlkem,
      by simp [serializeParams, serializeParam, excludedFields, isNative,
        algosWithNativeRepresentation], ?_⟩
    simp only [parsePublicKeyParams, ofCode_code, List.append_assoc, getCurvePayloadSize, ok_bind,
      readExactAt_bind h0 he,
      readExactAt_bind h1 hm]
    simp [he, hm]
  | @pqcMldsaEd25519 ecc mldsa he hm =>
    have h0 := At.start (ecc ++ (mldsa ++ t))
    have h1 := h0.advance_of_length he
    refine ⟨ecc ++ mldsa,
      by simp [serializeParams, serializeParam, excludedFields, isNative,
        algosWithNativeRepresentation], ?_⟩
    simp only [parsePublicKeyParams, ofCode_code, List.append_assoc, getCurvePayloadSize, ok_bind,
      readExactAt_bind h0 he,
      readExactAt_bind h1 hm]
    simp [he, hm]
/-- **Private records come back**, the expanded secret keys re-derived from their seeds. -/
theorem parsePrivateKeyParams_serializeParams {prims : Primitives} {pub : Params}
    {a : PublicKeyAlgorithm} {priv : Params}
    (h : PrivateParamsWF prims pub a priv) (t : Bytes) :
    ∃ bytes, serializeParams a.code priv = .ok bytes ∧
      parsePrivateKeyParams prims a.code (bytes ++ t) pub = .ok (bytes.length, priv) := by
  cases h with
  | @rsa a ha d p q u hd hp hq hu =>
    have h0 := At.start
      (uint8ArrayToMPI d ++ (uint8ArrayToMPI p ++ (uint8ArrayToMPI q ++ (uint8ArrayToMPI u ++ t))))
    have h1 := h0.advance
    have h2 := h1.advance
    have h3 := h2.advance
    simp only [List.mem_cons, List.mem_singleton, List.not_mem_nil, or_false] at ha
    refine ⟨uint8ArrayToMPI d ++ uint8ArrayToMPI p ++ uint8ArrayToMPI q ++ uint8ArrayToMPI u,
      ?_, ?_⟩
    · rcases ha with rfl | rfl | rfl <;>
        simp [serializeParams, serializeParam, excludedFields, isNative,
          algosWithNativeRepresentation]
    · rcases ha with rfl | rfl | rfl <;>
        simp only [parsePrivateKeyParams, ofCode_code, List.append_assoc, readMPIAt_canonical h0 hd,
          readMPIAt_canonical h1 hp, readMPIAt_canonical h2 hq, readMPIAt_canonical h3 hu] <;>
        simp [Nat.add_assoc]
  | @discreteLog a ha x hx =>
    have h0 := At.start (uint8ArrayToMPI x ++ t)
    simp only [List.mem_cons, List.mem_singleton, List.not_mem_nil, or_false] at ha
    refine ⟨uint8ArrayToMPI x, ?_, ?_⟩
    · rcases ha with rfl | rfl <;>
        simp [serializeParams, serializeParam, excludedFields, isNative,
          algosWithNativeRepresentation]
    · rcases ha with rfl | rfl <;>
        simp only [parsePrivateKeyParams, ofCode_code, readMPIAt_canonical h0 hx] <;> simp
  | @ecc a ha c hoid d hd =>
    have h0 := At.start (uint8ArrayToMPI d ++ t)
    have hb : uint8ArrayBitLength d < 65536 :=
      uint8ArrayBitLength_lt_of_length (by have := c.payloadSize_le; omega)
    simp only [List.mem_cons, List.mem_singleton, List.not_mem_nil, or_false] at ha
    refine ⟨uint8ArrayToMPI d, ?_, ?_⟩
    · rcases ha with rfl | rfl <;>
        simp [serializeParams, serializeParam, excludedFields, isNative,
          algosWithNativeRepresentation]
    · rcases ha with rfl | rfl <;>
        simp only [parsePrivateKeyParams, ofCode_code, getCurvePayloadSize, hoid,
          checkSupportedCurve, Curve.ofOid_oid, readMPIAt_bind h0 hb] <;>
        simp [Except.map, ← hd, leftPad_stripZeros]
  | @eddsaLegacy hoid seed hs =>
    have h0 := At.start (uint8ArrayToMPI seed ++ t)
    have hb : uint8ArrayBitLength seed < 65536 := uint8ArrayBitLength_lt_of_length (by omega)
    refine ⟨uint8ArrayToMPI seed,
      by simp [serializeParams, serializeParam, excludedFields, isNative,
        algosWithNativeRepresentation], ?_⟩
    simp only [parsePrivateKeyParams, ofCode_code, getCurvePayloadSize, hoid, checkSupportedCurve,
      Curve.ofOid_oid, readMPIAt_bind h0 hb]
    simp [Except.map, Curve.payloadSize, ← hs, leftPad_stripZeros]
  | @eddsa a ha seed hs =>
    have h0 : At (seed ++ t) 0 (seed ++ t) := At.start _
    simp only [List.mem_cons, List.mem_singleton, List.not_mem_nil, or_false] at ha
    refine ⟨seed, ?_, ?_⟩
    · rcases ha with rfl | rfl <;> simp [serializeParams, serializeParam, excludedFields, isNative,
        algosWithNativeRepresentation]
    · rcases ha with rfl | rfl <;> simp [parsePrivateKeyParams, hs, readExactAt_bind h0 rfl]
  | @ecdhX a ha k hk =>
    have h0 : At (k ++ t) 0 (k ++ t) := At.start _
    simp only [List.mem_cons, List.mem_singleton, List.not_mem_nil, or_false] at ha
    refine ⟨k, ?_, ?_⟩
    · rcases ha with rfl | rfl <;> simp [serializeParams, serializeParam, excludedFields, isNative,
        algosWithNativeRepresentation]
    · rcases ha with rfl | rfl <;> simp [parsePrivateKeyParams, hk, readExactAt_bind h0 rfl]
  | @hmac hash hc hashSeed keyMaterial hs hk =>
    have h0 := At.start (hashSeed ++ (keyMaterial ++ t))
    have h1 := h0.advance_of_length hs
    refine ⟨hashSeed ++ keyMaterial,
      by simp [serializeParams, serializeParam, excludedFields, isNative,
        algosWithNativeRepresentation], ?_⟩
    simp only [parsePrivateKeyParams, ofCode_code, List.append_assoc, hc, hk, ok_bind,
      subarrayAt_of_at h0 hs, subarrayAt_of_at h1 rfl]
    simp [hs]
  | @aead cipher hc params hp hashSeed keyMaterial hs hk =>
    have h0 := At.start (hashSeed ++ (keyMaterial ++ t))
    have h1 := h0.advance_of_length hs
    refine ⟨hashSeed ++ keyMaterial,
      by simp [serializeParams, serializeParam, excludedFields, isNative,
        algosWithNativeRepresentation], ?_⟩
    simp only [parsePrivateKeyParams, ofCode_code, List.append_assoc, hc, hp, ok_bind,
      subarrayAt_of_at h0 hs, subarrayAt_of_at h1 hk]
    simp [hs, hk]
  | @pqcMlkemX25519 ecc seed he hs =>
    have h0 := At.start (ecc ++ (seed ++ t))
    have h1 := h0.advance_of_length he
    refine ⟨ecc ++ seed,
      by simp [serializeParams, serializeParam, excludedFields, isNative,
        algosWithNativeRepresentation], ?_⟩
    simp only [parsePrivateKeyParams, ofCode_code, List.append_assoc, getCurvePayloadSize, ok_bind,
      readExactAt_bind h0 he,
      readExactAt_bind h1 hs]
    simp [he, hs]
  | @pqcMldsaEd25519 ecc seed he hs =>
    have h0 := At.start (ecc ++ (seed ++ t))
    have h1 := h0.advance_of_length he
    refine ⟨ecc ++ seed,
      by simp [serializeParams, serializeParam, excludedFields, isNative,
        algosWithNativeRepresentation], ?_⟩
    simp only [parsePrivateKeyParams, ofCode_code, List.append_assoc, getCurvePayloadSize, ok_bind,
      readExactAt_bind h0 he,
      readExactAt_bind h1 hs]
    simp [he, hs]
/-- **Encrypted session-key records come back.** -/
theorem parseEncSessionKeyParams_serializeParams {a : PublicKeyAlgorithm} {enc : Params}
    (h : EncParamsWF a enc) (t : Bytes) :
    ∃ bytes, serializeParams a.code enc = .ok bytes ∧
      parseEncSessionKeyParams a.code (bytes ++ t) = .ok enc := by
  cases h with
  | @rsa a ha c hc =>
    have h0 := At.start (uint8ArrayToMPI c ++ t)
    simp only [List.mem_cons, List.mem_singleton, List.not_mem_nil, or_false] at ha
    refine ⟨uint8ArrayToMPI c, ?_, ?_⟩
    · rcases ha with rfl | rfl <;>
        simp [serializeParams, serializeParam, excludedFields, isNative,
          algosWithNativeRepresentation]
    · rcases ha with rfl | rfl <;>
        simp only [parseEncSessionKeyParams, ofCode_code, readMPIAt_canonical h0 hc] <;> rfl
  | @elgamal c1 c2 h1 h2 =>
    have a0 := At.start (uint8ArrayToMPI c1 ++ (uint8ArrayToMPI c2 ++ t))
    have a1 := a0.advance
    refine ⟨uint8ArrayToMPI c1 ++ uint8ArrayToMPI c2,
      by simp [serializeParams, serializeParam, excludedFields, isNative,
        algosWithNativeRepresentation], ?_⟩
    simp only [parseEncSessionKeyParams, ofCode_code, List.append_assoc, readMPIAt_canonical a0 h1,
      readMPIAt_canonical a1 h2]
    rfl
  | @ecdh V C hV hC =>
    have a0 := At.start (uint8ArrayToMPI V ++ (TypeObject.write (.ecdhSymkey C) ++ t))
    have a1 := a0.advance
    have hr : readECDHSymkey (TypeObject.write (.ecdhSymkey C) ++ t) = _ :=
      TypeObject.read_write (.ecdhSymkey C) hC t
    refine ⟨uint8ArrayToMPI V ++ TypeObject.write (.ecdhSymkey C),
      by simp [serializeParams, serializeParam, excludedFields, isNative,
        algosWithNativeRepresentation], ?_⟩
    simp only [parseEncSessionKeyParams, ofCode_code, List.append_assoc, readMPIAt_canonical a0 hV,
      readObjectAt_bind hr a1]
    rfl
  | @ecdhX a ha e he alg wk hC =>
    have a0 := At.start (e ++ (TypeObject.write (.ecdhXSymmetricKey alg wk) ++ t))
    have a1 := a0.advance
    have hr : readECDHXSymmetricKey (TypeObject.write (.ecdhXSymmetricKey alg wk) ++ t) = _ :=
      TypeObject.read_write (.ecdhXSymmetricKey alg wk) hC t
    simp only [List.mem_cons, List.mem_singleton, List.not_mem_nil, or_false] at ha
    refine ⟨e ++ TypeObject.write (.ecdhXSymmetricKey alg wk), ?_, ?_⟩
    · rcases ha with rfl | rfl <;>
        simp [serializeParams, serializeParam, excludedFields, isNative,
          algosWithNativeRepresentation]
    · rcases ha with rfl | rfl <;>
        simp only [parseEncSessionKeyParams, ofCode_code, List.append_assoc, he, ok_bind,
          readExactAt_bind a0 rfl, readObjectAt_bind hr a1] <;> rfl
  | @aead mode iv c hm hc =>
    have hmode : mode ∈ aeadCodes := by
      unfold getAEADMode at hm; split at hm <;> simp_all [aeadCodes]
    have a0 := At.start
      (TypeObject.write (.aeadEnum mode) ++ (iv ++ (TypeObject.write (.shortByteString c) ++ t)))
    have a1 := a0.advance
    have a2 := a1.advance
    have hr : readAEADEnum (TypeObject.write (.aeadEnum mode) ++
        (iv ++ (TypeObject.write (.shortByteString c) ++ t))) = _ :=
      TypeObject.read_write (.aeadEnum mode) hmode
        (iv ++ (TypeObject.write (.shortByteString c) ++ t))
    have hs : readShortByteString (TypeObject.write (.shortByteString c) ++ t) = _ :=
      TypeObject.read_write (.shortByteString c) hc t
    refine ⟨TypeObject.write (.aeadEnum mode) ++ iv ++ TypeObject.write (.shortByteString c),
      by simp [serializeParams, serializeParam, excludedFields, isNative,
        algosWithNativeRepresentation], ?_⟩
    simp only [parseEncSessionKeyParams, ofCode_code, List.append_assoc, readObjectAt_bind hr a0,
      enumValue, hm, ok_bind, subarrayAt_of_at a1 rfl, readObjectAt_bind hs a2]
    rfl
  | @pqcMlkemX25519 e m he hm alg wk hC =>
    have a0 := At.start (e ++ (m ++ (TypeObject.write (.ecdhXSymmetricKey alg wk) ++ t)))
    have a1 := a0.advance_of_length he
    have a2 := a1.advance_of_length hm
    have hr : readECDHXSymmetricKey (TypeObject.write (.ecdhXSymmetricKey alg wk) ++ t) = _ :=
      TypeObject.read_write (.ecdhXSymmetricKey alg wk) hC t
    refine ⟨e ++ m ++ TypeObject.write (.ecdhXSymmetricKey alg wk),
      by simp [serializeParams, serializeParam, excludedFields, isNative,
        algosWithNativeRepresentation], ?_⟩
    simp only [parseEncSessionKeyParams, ofCode_code, List.append_assoc, getCurvePayloadSize,
      ok_bind,
      readExactAt_bind a0 he,
      readExactAt_bind a1 hm, readObjectAt_bind hr a2]
    rfl

/-- **Parameter codec round trip**, for the records of `PublicParamsWF`, `PrivateParamsWF` and
`EncParamsWF`: `serializeParams` returns, and each parser reads its output back, whatever follows
it, consuming exactly the serialized octets. -/
theorem serializeParams_roundtrip (prims : Primitives) (a : PublicKeyAlgorithm) (t : Bytes) :
    (∀ pub, PublicParamsWF a pub → ∃ bytes, serializeParams a.code pub = .ok bytes ∧
      parsePublicKeyParams a.code (bytes ++ t) = .ok (bytes.length, pub)) ∧
    (∀ pub priv, PrivateParamsWF prims pub a priv → ∃ bytes,
      serializeParams a.code priv = .ok bytes ∧
      parsePrivateKeyParams prims a.code (bytes ++ t) pub = .ok (bytes.length, priv)) ∧
    (∀ enc, EncParamsWF a enc → ∃ bytes, serializeParams a.code enc = .ok bytes ∧
      parseEncSessionKeyParams a.code (bytes ++ t) = .ok enc) :=
  ⟨fun _ h => parsePublicKeyParams_serializeParams h t,
    fun _ _ h => parsePrivateKeyParams_serializeParams h t,
    fun _ h => parseEncSessionKeyParams_serializeParams h t⟩

/-- **The EdDSA-legacy parser pads `Q`.** The point `0x40`, a canonical one-octet MPI, is written
as that MPI and read back left-padded with zeros to 33 octets. -/
theorem parsePublicKeyParams_eddsaLegacy_pads :
    CanonicalMPI [0x40] ∧
      ∃ bytes, serializeParams eddsaLegacy.code
          [("oid", .object (.oid Curve.ed25519Legacy.oid)), ("Q", .bytes [0x40])] = .ok bytes ∧
        parsePublicKeyParams eddsaLegacy.code bytes =
          .ok (bytes.length, [("oid", .object (.oid Curve.ed25519Legacy.oid)),
            ("Q", .bytes (List.replicate 32 0 ++ [0x40]))]) := by
  have hQ : CanonicalMPI [0x40] := ⟨by decide, uint8ArrayBitLength_lt_of_length (by decide)⟩
  have h0 := At.start
    (TypeObject.write (.oid Curve.ed25519Legacy.oid) ++ (uint8ArrayToMPI [0x40] ++ []))
  have h1 := h0.advance
  have hr :
      readOID (TypeObject.write (.oid Curve.ed25519Legacy.oid) ++ (uint8ArrayToMPI [0x40] ++ [])) =
        _ :=
    TypeObject.read_write (.oid Curve.ed25519Legacy.oid) (Curve.oid_length_lt _) _
  refine ⟨hQ, TypeObject.write (.oid Curve.ed25519Legacy.oid) ++ uint8ArrayToMPI [0x40],
    by simp [serializeParams, serializeParam, excludedFields, isNative,
         algosWithNativeRepresentation], ?_⟩
  rw [← List.append_nil (_ ++ _), List.append_assoc]
  simp only [parsePublicKeyParams, ofCode_code, readObjectAt_bind hr h0, readMPIAt_canonical h1 hQ]
  simp [checkSupportedCurve, leftPad, Nat.add_assoc]

end OpenPgp
