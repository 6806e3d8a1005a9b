import OpenPgp.Packet.PublicKeyEncryptedSessionKey
import OpenPgp.Crypto.KeyPair

/-!
# A PKESK packet decrypts to the session key it carries

The end-to-end round trip of `src/packet/public_key_encrypted_session_key.js`: a packet built by
`fromObject`, encrypted to a key, written and read back, is decrypted with the secret key to the
session key it was built with. The proof composes three inverses:

* `decodeSessionKey_encodeSessionKey`: the payload codec, for the algorithms with a checksum;
* `read_write`: the packet codec, through `readRecipient_writeRecipient` and the parameter codec
  of `OpenPgp.Crypto.ParamsCodec`;
* `publicKeyEncrypt_inverse` (`OpenPgp.Crypto.KeyPair`): the dispatcher, under a key pair.

`encrypt_write_read_decrypt` is the round trip, and `encrypt_write_read_decrypt_transparent` runs
it for an X25519 key under `transparentPrims`.
-/

namespace OpenPgp

open PublicKeyAlgorithm

/-! ## The session-key payload -/

/-- Prefixing the cipher octet moves the checksum window by one, unless it wraps to a new block. -/
theorem drop_cons_mod {x : UInt8} {sk : Bytes} (h : sk.length % 8 ≠ 7) :
    (x :: sk).drop ((sk.length + 1) % 8) = sk.drop (sk.length % 8) := by
  rw [show (sk.length + 1) % 8 = sk.length % 8 + 1 by omega, List.drop_succ_cons]

/-- The payload of the checksum family splits back: its checksum verifies, and it holds the key
and, in v3, the cipher. A v3 key of length 7 mod 8 is excluded: the cipher octet then shifts the
checksum window to a new block. -/
theorem encodeSessionKey_split {v : Nat} {a : PublicKeyAlgorithm} {cipherAlgo : Option Nat}
    {c : Nat} {sk : Bytes} (hv : v = 3 ∨ v = 6)
    (ha : a ∈ [rsaEncrypt, rsaEncryptSign, elgamal, ecdh, aead])
    (hcipher : v = 3 → cipherAlgo = some c) (hc : c < 256) (hsk : v = 3 → sk.length % 8 ≠ 7) :
    ∃ E, encodeSessionKey v a.code cipherAlgo sk = .ok E ∧ isValidChecksum E = true ∧
      decryptedSessionKey v E = (sk, if v = 6 then none else some c) := by
  simp only [List.mem_cons, List.mem_singleton, List.not_mem_nil, or_false] at ha
  have henc : encodeSessionKey v a.code cipherAlgo sk =
      .ok ((if v = 6 then [] else [UInt8.ofNat (cipherAlgo.getD 0)]) ++ sk ++
        writeChecksum (sk.drop (sk.length % 8))) := by
    rcases ha with rfl | rfl | rfl | rfl | rfl <;> rfl
  refine ⟨_, henc, ?_⟩
  rcases hv with rfl | rfl
  · rw [hcipher rfl]
    have hdrop := @drop_cons_mod (UInt8.ofNat c) sk (hsk rfl)
    have hbyte : (UInt8.ofNat c).toNat = c := UInt8.toNat_ofNat_of_lt hc
    simp [isValidChecksum, decryptedSessionKey, hdrop, byteAt, hbyte]
  · simp [isValidChecksum, decryptedSessionKey]

/-- **The checksum codec inverts.** For the algorithms that checksum their payload, decoding an
encoded session key without a fallback returns the key and, in v3, its cipher. -/
theorem decodeSessionKey_encodeSessionKey {v : Nat} {a : PublicKeyAlgorithm}
    {cipherAlgo : Option Nat} {c : Nat} {sk : Bytes} (hv : v = 3 ∨ v = 6)
    (ha : a ∈ [rsaEncrypt, rsaEncryptSign, elgamal, ecdh, aead])
    (hcipher : v = 3 → cipherAlgo = some c) (hc : c ∈ symmetricCodes)
    (hsk : v = 3 → sk.length % 8 ≠ 7) :
    ∃ E, encodeSessionKey v a.code cipherAlgo sk = .ok E ∧
      decodeSessionKey v a.code E none = .ok (sk, if v = 6 then none else some c) := by
  have hc256 : c < 256 := by simp [symmetricCodes] at hc; omega
  obtain ⟨E, hE, hvalid, hsplit⟩ := encodeSessionKey_split hv ha hcipher hc256 hsk
  refine ⟨E, hE, ?_⟩
  simp only [List.mem_cons, List.mem_singleton, List.not_mem_nil, or_false] at ha
  rcases hv with rfl | rfl <;> rcases ha with rfl | rfl | rfl | rfl | rfl <;>
    simp [decodeSessionKey, hvalid, hsplit, enumsReadSymmetric, hc, Except.map]

theorem hasCleartextAlgorithm_code {a : PublicKeyAlgorithm} :
    hasCleartextAlgorithm a.code = true ↔ a = x25519 ∨ a = x448 ∨ a = pqcMlkemX25519 := by
  simp [hasCleartextAlgorithm, algosWithV3CleartextSessionKeyAlgorithm]

/-- Decoding, without a fallback, the payload that `encodeSessionKey` made for a v3 or v6 packet
gives back the session key and, where the payload carries it, the v3 cipher. -/
theorem decodeSessionKey_of_encodeSessionKey {v c : Nat} {a : PublicKeyAlgorithm}
    {sk encoded : Bytes} (hv : v = 3 ∨ v = 6) (hc : c ∈ symmetricCodes)
    (hsk : sk.length % 8 ≠ 7)
    (henc : encodeSessionKey v a.code (if v = 3 then some c else none) sk = .ok encoded) :
    decodeSessionKey v a.code encoded none =
      .ok (sk, if hasCleartextAlgorithm a.code ∨ v = 6 then none else some c) := by
  by_cases hcl : hasCleartextAlgorithm a.code = true
  · rcases hasCleartextAlgorithm_code.1 hcl with rfl | rfl | rfl <;>
      simp [encodeSessionKey] at henc <;> subst henc <;>
      simp [decodeSessionKey, hasCleartextAlgorithm, algosWithV3CleartextSessionKeyAlgorithm]
  · have ha : a ∈ [rsaEncrypt, rsaEncryptSign, elgamal, ecdh, aead] := by
      cases a <;> simp_all [hasCleartextAlgorithm, algosWithV3CleartextSessionKeyAlgorithm] <;>
        simp [encodeSessionKey] at henc
    obtain ⟨E, hE, hD⟩ := @decodeSessionKey_encodeSessionKey v a
      (if v = 3 then some c else none) c sk hv ha (fun h => if_pos h) hc (fun _ => hsk)
    rw [henc] at hE
    cases hE
    simp [hD, hcl]

/-- **The session-key codec inverts, algorithm by algorithm.** For v3 and v6, every registered
cipher code and every session key, of a length other than 7 mod 8 in v3: the checksum family
decodes the encoded key to the key and, in v3, the cipher; X25519, X448 and ML-KEM pass the key
through both functions unchanged. -/
theorem sessionKeyCodec_roundtrip {v c : Nat} {sk : Bytes} (hv : v = 3 ∨ v = 6)
    (hc : c ∈ symmetricCodes) (hsk : v = 3 → sk.length % 8 ≠ 7) (a : PublicKeyAlgorithm) :
    (a ∈ [rsaEncrypt, rsaEncryptSign, elgamal, ecdh, aead] →
      ∃ E, encodeSessionKey v a.code (some c) sk = .ok E ∧
        decodeSessionKey v a.code E none = .ok (sk, if v = 6 then none else some c)) ∧
    (a ∈ [x25519, x448, pqcMlkemX25519] →
      encodeSessionKey v a.code (some c) sk = .ok sk ∧
        ∀ d, decodeSessionKey v a.code d none = .ok (d, none)) := by
  refine ⟨fun ha => decodeSessionKey_encodeSessionKey hv ha (fun _ => rfl) hc hsk, fun ha => ?_⟩
  simp only [List.mem_cons, List.mem_singleton, List.not_mem_nil, or_false] at ha
  rcases ha with rfl | rfl | rfl <;> exact ⟨rfl, fun _ => rfl⟩

/-- An AES-256 key of 32 octets in a v3 RSA payload decodes back. -/
theorem sessionKeyCodec_roundtrip_aes256 :
    (3 = 3 ∨ 3 = 6) ∧ Symmetric.aes256 ∈ symmetricCodes ∧
      (3 = 3 → (List.replicate 32 (1 : UInt8)).length % 8 ≠ 7) ∧
      ∃ E, encodeSessionKey 3 rsaEncrypt.code (some Symmetric.aes256) (List.replicate 32 1) =
          .ok E ∧
        decodeSessionKey 3 rsaEncrypt.code E none =
          .ok (List.replicate 32 1, if 3 = 6 then none else some Symmetric.aes256) :=
  ⟨.inl rfl, by decide, by decide,
    (sessionKeyCodec_roundtrip (.inl rfl) (by decide) (by decide) rsaEncrypt).1 (by simp)⟩

namespace PublicKeyEncryptedSessionKeyPacket

/-! ## The packet codec -/

/-- The recipient fields of a packet that `write` can emit and `read` gives back: a v3 Key ID of 8
octets, or a v6 recipient that is anonymous or names a key by version and fingerprint, its Key ID
derived from them as `fromObject` derives it. -/
inductive RecipientWF : PublicKeyEncryptedSessionKeyPacket → Prop
  | v3 {pkt : PublicKeyEncryptedSessionKeyPacket} (hv : pkt.version = some 3)
      (hid : pkt.publicKeyID.length = 8) (hkv : pkt.publicKeyVersion = none)
      (hfp : pkt.publicKeyFingerprint = none) : RecipientWF pkt
  | anonymous {pkt : PublicKeyEncryptedSessionKeyPacket} (hv : pkt.version = some 6)
      (hid : pkt.publicKeyID = KeyID.wildcard) (hkv : pkt.publicKeyVersion = none)
      (hfp : pkt.publicKeyFingerprint = none) : RecipientWF pkt
  | named {pkt : PublicKeyEncryptedSessionKeyPacket} {keyVersion : Nat} {fingerprint : Bytes}
      (hv : pkt.version = some 6) (hkv : pkt.publicKeyVersion = some keyVersion)
      (hfp : pkt.publicKeyFingerprint = some fingerprint) (hkv256 : keyVersion < 256)
      (hlen : fingerprint.length < 255)
      (hid : pkt.publicKeyID = if 5 ≤ keyVersion then KeyID.read fingerprint
        else KeyID.read (fingerprint.drop (fingerprint.length - 8))) : RecipientWF pkt

/-- Reading the recipient fields back from the version octet and `writeRecipient`. -/
theorem readRecipient_writeRecipient {pkt : PublicKeyEncryptedSessionKeyPacket}
    (h : RecipientWF pkt) (rest : Bytes) :
    readRecipient { version := pkt.version } pkt.version
        ([UInt8.ofNat (pkt.version.getD 0)] ++ writeRecipient pkt ++ rest) =
      ({ version := pkt.version, publicKeyID := pkt.publicKeyID,
         publicKeyVersion := pkt.publicKeyVersion,
         publicKeyFingerprint := pkt.publicKeyFingerprint }, (writeRecipient pkt).length + 1) := by
  cases h with
  | v3 hv hid hkv hfp =>
    simp [readRecipient, writeRecipient, hv, hkv, hfp, slice, KeyID.read,
      List.take_append_eq_append_take, hid]
  | anonymous hv hid hkv hfp =>
    simp [readRecipient, writeRecipient, hv, hkv, hfp, byteAt, hid]
  | @named keyVersion fingerprint hv hkv hfp hkv256 hlen hid =>
    have h1 : (UInt8.ofNat (fingerprint.length + 1)).toNat = fingerprint.length + 1 :=
      UInt8.toNat_ofNat_of_lt (show fingerprint.length + 1 < 256 by omega)
    have h2 : (UInt8.ofNat keyVersion).toNat = keyVersion := UInt8.toNat_ofNat_of_lt hkv256
    have hs : ∀ x y z : UInt8,
        slice (x :: y :: z :: (fingerprint ++ rest)) 3 (3 + fingerprint.length) = fingerprint :=
      fun x y z => slice_append_of_length [x, y, z] fingerprint rest rfl
    simp [readRecipient, writeRecipient, hv, hkv, hfp, byteAt, h1, h2, hs, hid]
    omega

/-- The recipient fields are those of a v3 or a v6 packet. -/
theorem RecipientWF.version {pkt : PublicKeyEncryptedSessionKeyPacket} (h : RecipientWF pkt) :
    pkt.version = some 3 ∨ pkt.version = some 6 := by
  cases h <;> simp_all

/-- **`read` inverts `write`.** A packet with well-formed recipient fields, whose encrypted record
the parameter codec gives back as `enc`, is read back with its header fields and `enc`; the
cleartext cipher of X25519, X448 and ML-KEM is read back in v3 only. -/
theorem read_write {pkt : PublicKeyEncryptedSessionKeyPacket} {a : PublicKeyAlgorithm}
    {encBytes : Bytes} {enc : Params} {alg : Option Nat}
    (hr : RecipientWF pkt) (ha : pkt.publicKeyAlgorithm = some a.code)
    (hs : serializeParams a.code pkt.encrypted = .ok encBytes)
    (hp : parseEncSessionKeyParams a.code encBytes = .ok enc)
    (hclear : hasCleartextAlgorithm a.code = true → cleartextAlgorithm enc = .ok alg ∧
      (pkt.version = some 3 → ∃ c, alg = some c ∧ c ∈ symmetricCodes) ∧
      (pkt.version = some 6 → alg = none)) :
    ∃ bytes, write pkt = .ok bytes ∧ read {} bytes = .ok
      { version := pkt.version, publicKeyID := pkt.publicKeyID,
        publicKeyVersion := pkt.publicKeyVersion,
        publicKeyFingerprint := pkt.publicKeyFingerprint,
        publicKeyAlgorithm := some a.code, encrypted := enc,
        sessionKeyAlgorithm :=
          if hasCleartextAlgorithm a.code ∧ pkt.version = some 3 then alg else none } := by
  have hv := hr.version
  have hb0 : byteAt ([UInt8.ofNat (pkt.version.getD 0)] ++ writeRecipient pkt ++
      ([UInt8.ofNat a.code] ++ encBytes)) 0 = pkt.version := by
    rcases hv with h | h <;> simp [byteAt, h]
  have halg : byteAt ([UInt8.ofNat (pkt.version.getD 0)] ++ writeRecipient pkt ++
      ([UInt8.ofNat a.code] ++ encBytes)) ((writeRecipient pkt).length + 1) = some a.code := by
    have h := byteAt_append_length ([UInt8.ofNat (pkt.version.getD 0)] ++ writeRecipient pkt)
      encBytes (UInt8.ofNat a.code)
    rw [UInt8.toNat_ofNat_of_lt (show a.code < 256 from a.code_lt)] at h
    simpa [Nat.add_comm] using h
  refine ⟨[UInt8.ofNat (pkt.version.getD 0)] ++ writeRecipient pkt ++
    ([UInt8.ofNat a.code] ++ encBytes), by simp [write, ha, hs], ?_⟩
  have hrest : List.drop ((writeRecipient pkt).length + 1 + 1)
      ([UInt8.ofNat (pkt.version.getD 0)] ++ writeRecipient pkt ++
        ([UInt8.ofNat a.code] ++ encBytes)) = encBytes := by
    rw [← List.append_assoc]
    exact List.drop_left' (by simp)
  simp only [read, hb0, readRecipient_writeRecipient hr, halg, hrest, hp, ok_bind]
  by_cases hcl : hasCleartextAlgorithm a.code = true
  · obtain ⟨hC, h3, h6⟩ := hclear hcl
    rcases hv with hv | hv
    · obtain ⟨c, rfl, hc⟩ := h3 hv
      simp [hv, hcl, hC, enumsWriteSymmetric, hc]
    · simp [hv, hcl, hC, h6 hv]
  · rcases hv with hv | hv <;> simp [hv, hcl]

/-- The payload adds at most three octets to the session key. -/
theorem encodeSessionKey_length_le {version algo : Nat} {cipherAlgo : Option Nat} {sk E : Bytes}
    (h : encodeSessionKey version algo cipherAlgo sk = .ok E) : E.length ≤ sk.length + 3 := by
  unfold encodeSessionKey at h
  split at h <;> cases h <;> (try split) <;> simp

/-- A Key ID has 8 octets. -/
theorem getKeyID_length {key : KeyPacket} (h : 8 ≤ key.fingerprint.length) :
    key.getKeyID.length = 8 := by
  unfold KeyPacket.getKeyID
  split <;> simp <;> omega

/-! ## The round trip -/

section
variable {prims : Primitives} {config : Config} {random : Random}

/-- The pipeline `fromObject`, `encrypt`, `write`, `read`: the packet read back has the header
fields of the encrypted one, and its record decrypts, whatever the fallback, to the encoded
session key. -/
theorem encrypt_write_read {v : Nat} (hv : v = 3 ∨ v = 6) {a : PublicKeyAlgorithm}
    {secretKey : KeyPacket} {priv : Params} {publicPrivateParams : Option Params}
    (haead : a = aead → publicPrivateParams = secretKey.privateParams)
    (hpriv : secretKey.privateParams = some priv) (halgo : secretKey.algorithm = a.code)
    (hk : KeyPair prims secretKey.publicParams priv secretKey.kdfFingerprint a)
    (hfp : 8 ≤ secretKey.fingerprint.length ∧ secretKey.fingerprint.length < 255)
    (hver : secretKey.version < 256) {anonymousRecipient : Bool} {sk : Bytes} {c : Nat}
    {params : CipherParams} (hc : getCipherParams c = .ok params)
    (hsk : sk.length = params.keySize) (haes : a = x25519 ∨ a = x448 → isAES c = true)
    {P P' : PublicKeyEncryptedSessionKeyPacket}
    (hP : fromObject v { secretKey with privateParams := publicPrivateParams } anonymousRecipient
      sk (some c) = .ok P)
    (hP' : P.encrypt prims config random { secretKey with privateParams := publicPrivateParams } =
      .ok P') :
    ∃ bytes Q encoded, P'.write = .ok bytes ∧ read {} bytes = .ok Q ∧
      Q.version = some v ∧ Q.publicKeyAlgorithm = some a.code ∧
      Q.version = P'.version ∧ Q.publicKeyID = P'.publicKeyID ∧
      Q.publicKeyVersion = P'.publicKeyVersion ∧
      Q.publicKeyFingerprint = P'.publicKeyFingerprint ∧
      Q.publicKeyAlgorithm = P'.publicKeyAlgorithm ∧
      Q.sessionKeyAlgorithm = (if hasCleartextAlgorithm a.code ∧ v = 3 then some c else none) ∧
      encodeSessionKey v a.code (if v = 3 then some c else none) sk = .ok encoded ∧
      ∀ r, publicKeyDecrypt prims a.code secretKey.publicParams (some priv) Q.encrypted
        secretKey.kdfFingerprint r = .ok encoded := by
  have hcr := getCipherParams_code hc
  have hks := getCipherParams_keySize hc
  obtain ⟨kv, algo, fp, pubParams, spriv⟩ := secretKey
  simp only at *
  subst halgo hpriv
  have hP0 : P =
      { version := some v
        publicKeyVersion :=
          if v = 6 ∧ anonymousRecipient = false then some kv else none
        publicKeyFingerprint :=
          if v = 6 ∧ anonymousRecipient = false then some fp else none
        publicKeyID := if anonymousRecipient then KeyID.wildcard
          else KeyPacket.getKeyID ⟨kv, a.code, fp, pubParams, publicPrivateParams⟩
        publicKeyAlgorithm := some a.code
        sessionKey := some sk
        sessionKeyAlgorithm := some c } := by
    rcases hv with rfl | rfl <;> simp [fromObject] at hP ⊢ <;> exact hP.symm
  subst hP0
  simp only [encrypt, enumsWritePublicKey_code, ok_bind] at hP'
  obtain ⟨encoded, henc, hP'⟩ := bind_eq_ok.1 hP'
  obtain ⟨enc, hpke, hP'⟩ := bind_eq_ok.1 hP'
  simp only [pure_eq_ok, Except.ok.injEq] at hP'
  simp only [Option.getD_some, Option.some.injEq] at henc hpke
  have hkdf : KeyPacket.kdfFingerprint ⟨kv, a.code, fp, pubParams, publicPrivateParams⟩ =
      KeyPacket.kdfFingerprint ⟨kv, a.code, fp, pubParams, some priv⟩ := rfl
  rw [hkdf] at hpke
  have hE : encoded.length < 239 := by
    have := encodeSessionKey_length_le henc
    omega
  have hsym : ∀ s, (if v = 3 then some c else none) = some s → 0 < s ∧ s < 256 := by
    intro s hs
    split at hs <;> cases hs
    exact hcr
  have hpriv' : a = aead →
      (if a.code = aead.code then publicPrivateParams else none) = some priv := by
    rintro rfl
    simp [haead rfl]
  obtain ⟨enc', hser, hwf, hdec, hC⟩ := publicKeyEncrypt_inverse hk hpriv' hE hsym hpke
  obtain ⟨eb, hseb, hpeb⟩ := parseEncSessionKeyParams_serializeParams hwf []
  rw [List.append_nil] at hpeb
  have hrec : RecipientWF P' := by
    subst hP'
    rcases hv with rfl | rfl
    · have hid := @getKeyID_length ⟨kv, a.code, fp, pubParams, publicPrivateParams⟩ hfp.1
      exact .v3 rfl (by cases anonymousRecipient <;> simp [KeyID.wildcard, hid]) (by simp) (by simp)
    · cases anonymousRecipient
      · refine .named rfl (by simp) (by simp) hver hfp.2 ?_
        have h8 : (fp.drop (fp.length - 8)).take 8 = fp.drop (fp.length - 8) :=
          List.take_of_length_le (by simp; omega)
        simp [KeyPacket.getKeyID, KeyID.read, h8]
      · exact .anonymous rfl (by simp) (by simp) (by simp)
  have hv' : P'.version = some v := by subst hP'; rfl
  have hcl : hasCleartextAlgorithm a.code = true →
      cleartextAlgorithm enc' = .ok (if v = 3 then some c else none) ∧
      (P'.version = some 3 → ∃ c', (if v = 3 then some c else none) = some c' ∧
        c' ∈ symmetricCodes) ∧
      (P'.version = some 6 → (if v = 3 then some c else none) = none) := by
    intro hcl
    obtain ⟨wk, hwk⟩ := hC (hasCleartextAlgorithm_code.1 hcl)
    rw [hv']
    refine ⟨by simp [cleartextAlgorithm, Params.getObject, hwk, TypeObject.ecdhX, Except.map],
      ?_, ?_⟩
    · intro h
      cases h
      exact ⟨c, by simp, mem_symmetricCodes_of_getCipherParams hc⟩
    · intro h
      cases h
      simp
  have hPa : P'.publicKeyAlgorithm = some a.code := by subst hP'; rfl
  have hPs : serializeParams a.code P'.encrypted = .ok eb := by subst hP'; rw [hser]; exact hseb
  obtain ⟨bytes, hw, hr⟩ := read_write hrec hPa hPs hpeb hcl
  refine ⟨bytes, _, encoded, hw, hr, hv', rfl, rfl, rfl, rfl, rfl, hPa.symm, ?_, henc, hdec⟩
  simp only [hv', Option.some.injEq]
  by_cases hv3 : v = 3 <;> simp [hv3]

/-- **A PKESK decrypts to the session key it was built with.** A v3 or v6 packet built by
`fromObject` and `encrypt` for a key pair, written and read back, has the header fields it was
written with, and `decrypt` with the secret key and no fallback recovers the session key and, in
v3, its cipher. The encryption key may omit its private parameters except for AEAD, whose key
material they are. -/
theorem encrypt_write_read_decrypt {v : Nat} (hv : v = 3 ∨ v = 6) {a : PublicKeyAlgorithm}
    {secretKey : KeyPacket} {priv : Params} {publicPrivateParams : Option Params}
    (haead : a = aead → publicPrivateParams = secretKey.privateParams)
    (hpriv : secretKey.privateParams = some priv) (halgo : secretKey.algorithm = a.code)
    (hk : KeyPair prims secretKey.publicParams priv secretKey.kdfFingerprint a)
    (hfp : 8 ≤ secretKey.fingerprint.length ∧ secretKey.fingerprint.length < 255)
    (hver : secretKey.version < 256) {anonymousRecipient : Bool} {sk : Bytes} {c : Nat}
    {params : CipherParams} (hc : getCipherParams c = .ok params)
    (hsk : sk.length = params.keySize) (haes : a = x25519 ∨ a = x448 → isAES c = true)
    {P P' : PublicKeyEncryptedSessionKeyPacket}
    (hP : fromObject v { secretKey with privateParams := publicPrivateParams } anonymousRecipient
      sk (some c) = .ok P)
    (hP' : P.encrypt prims config random { secretKey with privateParams := publicPrivateParams } =
      .ok P') :
    ∃ bytes Q, P'.write = .ok bytes ∧ read {} bytes = .ok Q ∧
      Q.version = P'.version ∧ Q.publicKeyID = P'.publicKeyID ∧
      Q.publicKeyVersion = P'.publicKeyVersion ∧
      Q.publicKeyFingerprint = P'.publicKeyFingerprint ∧
      Q.publicKeyAlgorithm = P'.publicKeyAlgorithm ∧
      ∃ Q', Q.decrypt prims secretKey none = .ok Q' ∧ Q'.sessionKey = some sk ∧
        (v = 3 → Q'.sessionKeyAlgorithm = some c) := by
  obtain ⟨bytes, Q, encoded, hw, hr, hQv, hQa, h1, h2, h3, h4, h5, hQs, henc, hdec⟩ :=
    encrypt_write_read hv haead hpriv halgo hk hfp hver hc hsk haes hP hP'
  refine ⟨bytes, Q, hw, hr, h1, h2, h3, h4, h5, ?_⟩
  have hks := getCipherParams_keySize hc
  have hdecode := decodeSessionKey_of_encodeSessionKey hv
    (mem_symmetricCodes_of_getCipherParams hc) (by omega) henc
  have hpk := hdec none
  rw [← halgo, ← hpriv] at hpk
  rw [← halgo] at hQa hdecode hQs
  simp only [decrypt, hQa, hQv, Option.getD_some, ne_eq, not_true_eq_false, if_false,
    pure_eq_ok, ok_bind, hpk, hdecode]
  rcases hv with rfl | rfl
  · by_cases hcl : hasCleartextAlgorithm secretKey.algorithm = true
    · simp only [hcl, true_and, if_true] at hQs
      simp [hcl, hQs, hc, hsk]
    · simp [hcl, hc, hsk]
  · simp

end

/-- A v6 X25519 key with a 32-octet fingerprint and one-octet `A` and `k`. -/
def transparentX25519Key : KeyPacket :=
  ⟨6, x25519.code, List.replicate 32 7, [("A", .bytes [1])], some [("k", .bytes [2])]⟩

/-- A configuration that prefers OCB and leaves the other settings at their usual values. -/
def sampleConfig : Config :=
  { aeadProtect := false, preferredAEADAlgorithm := 2, parseAEADEncryptedV4KeysAsLegacy := false
    s2kType := 3, s2kIterationCountByte := 224, s2kArgon2Params := (1, 4, 21)
    enforceGrammar := true, hasGrammarErrorReporter := false }

/-- A v3 packet for an AES-128 key of sixteen octets, encrypted to `transparentX25519Key` under
`transparentPrims`, written, read and decrypted. -/
theorem encrypt_write_read_decrypt_transparent :
    ∃ P P', fromObject 3 { transparentX25519Key with privateParams := none } false
        (List.replicate 16 1) (some Symmetric.aes128) = .ok P ∧
      P.encrypt transparentPrims sampleConfig zeroRandom
        { transparentX25519Key with privateParams := none } = .ok P' ∧
      ∃ bytes Q, P'.write = .ok bytes ∧ read {} bytes = .ok Q ∧
        Q.version = P'.version ∧ Q.publicKeyID = P'.publicKeyID ∧
        Q.publicKeyVersion = P'.publicKeyVersion ∧
        Q.publicKeyFingerprint = P'.publicKeyFingerprint ∧
        Q.publicKeyAlgorithm = P'.publicKeyAlgorithm ∧
        ∃ Q', Q.decrypt transparentPrims transparentX25519Key none = .ok Q' ∧
          Q'.sessionKey = some (List.replicate 16 1) ∧
          (3 = 3 → Q'.sessionKeyAlgorithm = some Symmetric.aes128) :=
  ⟨_, _, rfl, rfl, @encrypt_write_read_decrypt transparentPrims sampleConfig zeroRandom 3
    (Or.inl rfl) x25519 transparentX25519Key [("k", .bytes [2])] none (fun h => by cases h) rfl rfl
    (.ecdhX (by simp) rfl rfl (transparentPrims_ecdhXCorrect _ _)) (by decide) (by decide) false
    (List.replicate 16 1) Symmetric.aes128 ⟨16, 16⟩ rfl rfl (fun _ => rfl) _ _ rfl rfl⟩

end PublicKeyEncryptedSessionKeyPacket

end OpenPgp
