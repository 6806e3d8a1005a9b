import OpenPgp.Packet.SessionKeyRoundTrip

/-!
# The constant-time fallback of PKESK decryption

`decrypt(key, randomSessionKey)` of `src/packet/public_key_encrypted_session_key.js` decrypts
without an exception whatever the ciphertext: the public-key primitive falls back to the encoded
`randomSessionKey`, and `decodeSessionKey` selects between the decrypted key and the random one
by `isValidPayload`, without branching.

* `decrypt_randomSessionKey`: for RSA and ElGamal, `decrypt` with a fallback of a registered
  cipher returns, and its session key is the fallback's or a decrypted one whose checksum verifies
  and whose cipher and length are the fallback's. Its length, and in v3 its cipher, are the
  fallback's whatever the ciphertext.
* `encrypt_write_read_decrypt_random`: for a packet that `encrypt` produced, the genuine key
  survives the fallback in v3 only. A v6 payload carries no cipher, and `isValidPayload` compares
  that `null` with the fallback's cipher, so a v6 packet always decrypts to the fallback key.

Without a fallback, `decrypt` throws on an invalid payload, and the error says which check failed:

* `decrypt_failures_distinct`: for a v3 packet of the checksum family, a bad checksum throws
  'Decryption error', but an unregistered cipher octet, the plaintext cipher and a key of the
  wrong size each throw an error of their own.
-/

namespace OpenPgp

open PublicKeyAlgorithm

/-- With a fallback, the checksum family decodes without an exception, selecting by
`isValidPayload`. -/
theorem decodeSessionKey_some {v : Nat} {a : PublicKeyAlgorithm}
    (ha : a ∈ [rsaEncrypt, rsaEncryptSign, elgamal, ecdh, aead]) (d : Bytes)
    (r : RandomSessionKey) :
    decodeSessionKey v a.code d (some r) =
      .ok (selectUint8Array (isValidPayload v d r) (decryptedSessionKey v d).1 r.sessionKey,
        if v = 6 then none
        else selectUint8 (isValidPayload v d r) (decryptedSessionKey v d).2
          (some r.sessionKeyAlgorithm)) := by
  simp only [List.mem_cons, List.mem_singleton, List.not_mem_nil, or_false] at ha
  rcases ha with rfl | rfl | rfl | rfl | rfl <;> rfl

/-- Without a fallback, the checksum family decodes a payload whose checksum verifies and, in v3,
whose cipher octet the enum lookup accepts; the lookup's own error stands for an unregistered
cipher, and only a bad checksum throws 'Decryption error'. -/
theorem decodeSessionKey_none {v : Nat} {a : PublicKeyAlgorithm}
    (ha : a ∈ [rsaEncrypt, rsaEncryptSign, elgamal, ecdh, aead]) (d : Bytes) :
    decodeSessionKey v a.code d none =
      if isValidChecksum d then
        if v = 6 then .ok (decryptedSessionKey v d)
        else (enumsReadSymmetric (decryptedSessionKey v d).2).map fun _ => decryptedSessionKey v d
      else .error (.error "Decryption error") := by
  simp only [List.mem_cons, List.mem_singleton, List.not_mem_nil, or_false] at ha
  rcases ha with rfl | rfl | rfl | rfl | rfl <;>
  · simp only [decodeSessionKey, ofCode_code]
    cases isValidChecksum d
    · rfl
    · simp only [if_true]
      split
      · rfl
      · cases enumsReadSymmetric (decryptedSessionKey v d).2 <;> rfl

namespace PublicKeyEncryptedSessionKeyPacket

/-! ## Soundness of the fallback -/

section
variable {prims : Primitives}

/-- **The fallback never throws and never leaks the payload's shape.** For an RSA or ElGamal
packet of v3 or v6 and a fallback `r` of a registered cipher with a key of its size, if
`publicKeyDecrypt` returns for every fallback payload, then `decrypt` returns. Its session key is
`r`'s, or the decrypted key when the checksum verifies and the decrypted cipher and length are
`r`'s; either way it has `r`'s length and, in v3, `r`'s cipher. -/
theorem decrypt_randomSessionKey {pkt : PublicKeyEncryptedSessionKeyPacket} {key : KeyPacket}
    {r : RandomSessionKey} {v : Nat} {a : PublicKeyAlgorithm} {params : CipherParams}
    (hv : pkt.version = some v) (hv36 : v = 3 ∨ v = 6)
    (hpa : pkt.publicKeyAlgorithm = some key.algorithm) (halgo : key.algorithm = a.code)
    (ha : a ∈ [rsaEncryptSign, rsaEncrypt, elgamal])
    (hr : getCipherParams r.sessionKeyAlgorithm = .ok params)
    (hrs : r.sessionKey.length = params.keySize)
    (hdec : ∀ randomPayload, ∃ d, publicKeyDecrypt prims key.algorithm key.publicParams
      key.privateParams pkt.encrypted key.kdfFingerprint (some randomPayload) = .ok d) :
    ∃ randomPayload d,
      encodeSessionKey v key.algorithm (some r.sessionKeyAlgorithm) r.sessionKey =
        .ok randomPayload ∧
      publicKeyDecrypt prims key.algorithm key.publicParams key.privateParams pkt.encrypted
        key.kdfFingerprint (some randomPayload) = .ok d ∧
      ∃ Q, pkt.decrypt prims key (some r) = .ok Q ∧
        (Q.sessionKey = some r.sessionKey ∨
          Q.sessionKey = some (decryptedSessionKey v d).1 ∧ isValidChecksum d = true ∧
            (decryptedSessionKey v d).1.length = r.sessionKey.length ∧
            (decryptedSessionKey v d).2 = some r.sessionKeyAlgorithm) ∧
        (∃ k, Q.sessionKey = some k ∧ k.length = r.sessionKey.length) ∧
        (v = 3 → Q.sessionKeyAlgorithm = some r.sessionKeyAlgorithm) ∧
        (v = 6 → Q.sessionKeyAlgorithm = pkt.sessionKeyAlgorithm) := by
  simp only [List.mem_cons, List.mem_singleton, List.not_mem_nil, or_false] at ha
  have hfam : a ∈ [rsaEncrypt, rsaEncryptSign, elgamal, ecdh, aead] := by
    rcases ha with rfl | rfl | rfl <;> simp
  have hcl : hasCleartextAlgorithm a.code = false := by
    rcases ha with rfl | rfl | rfl <;> rfl
  obtain ⟨randomPayload, hrp⟩ : ∃ rp,
      encodeSessionKey v a.code (some r.sessionKeyAlgorithm) r.sessionKey = .ok rp := by
    rcases ha with rfl | rfl | rfl <;> exact ⟨_, rfl⟩
  rw [← halgo] at hrp hcl
  obtain ⟨d, hd⟩ := hdec randomPayload
  refine ⟨randomPayload, d, hrp, hd, ?_⟩
  have hdecode := @decodeSessionKey_some v a hfam d r
  rw [← halgo] at hdecode
  simp only [decrypt, hpa, hv, ne_eq, not_true_eq_false, if_false, ok_bind, hrp, hd, hdecode,
    Except.map, Functor.map, Option.getD_some]
  by_cases hvalid : isValidPayload v d r = true
  · have hvalid' := hvalid
    simp only [isValidPayload, Bool.and_eq_true, beq_iff_eq] at hvalid'
    obtain ⟨⟨hck, halg⟩, hlen⟩ := hvalid'
    rcases hv36 with rfl | rfl
    · simp [selectUint8Array, selectUint8, hvalid, hcl, halg, hr, hlen, hrs, hck]
    · simp [selectUint8Array, selectUint8, hvalid, hcl, halg, hr, hlen, hrs, hck]
  · rcases hv36 with rfl | rfl <;> simp [selectUint8Array, selectUint8, hvalid, hcl, hr, hrs]

end

/-- A v6 RSA key with a 32-octet fingerprint and one-octet parameters. -/
def transparentRSAKey : KeyPacket :=
  ⟨6, rsaEncryptSign.code, List.replicate 32 7, [("n", .bytes [1]), ("e", .bytes [1])],
    some [("d", .bytes [1]), ("p", .bytes [1]), ("q", .bytes [1]), ("u", .bytes [1])]⟩

/-- A v6 RSA packet whose ciphertext is three arbitrary octets. -/
def garbledPacket : PublicKeyEncryptedSessionKeyPacket :=
  { version := some 6, publicKeyAlgorithm := some rsaEncryptSign.code
    encrypted := [("c", .bytes [1, 5, 5])] }

/-- A fallback AES-128 key of sixteen octets `2`. -/
def aes128Fallback : RandomSessionKey := ⟨List.replicate 16 2, Symmetric.aes128⟩

/-- `garbledPacket` decrypted with `transparentRSAKey` and the fallback `aes128Fallback`. -/
theorem decrypt_randomSessionKey_garbled :
    ∃ randomPayload d,
      encodeSessionKey 6 transparentRSAKey.algorithm (some aes128Fallback.sessionKeyAlgorithm)
        aes128Fallback.sessionKey = .ok randomPayload ∧
      publicKeyDecrypt transparentPrims transparentRSAKey.algorithm transparentRSAKey.publicParams
        transparentRSAKey.privateParams garbledPacket.encrypted transparentRSAKey.kdfFingerprint
        (some randomPayload) = .ok d ∧
      ∃ Q, garbledPacket.decrypt transparentPrims transparentRSAKey (some aes128Fallback) = .ok Q ∧
        (Q.sessionKey = some aes128Fallback.sessionKey ∨
          Q.sessionKey = some (decryptedSessionKey 6 d).1 ∧ isValidChecksum d = true ∧
            (decryptedSessionKey 6 d).1.length = aes128Fallback.sessionKey.length ∧
            (decryptedSessionKey 6 d).2 = some aes128Fallback.sessionKeyAlgorithm) ∧
        (∃ k, Q.sessionKey = some k ∧ k.length = aes128Fallback.sessionKey.length) ∧
        (6 = 3 → Q.sessionKeyAlgorithm = some aes128Fallback.sessionKeyAlgorithm) ∧
        (6 = 6 → Q.sessionKeyAlgorithm = garbledPacket.sessionKeyAlgorithm) :=
  @decrypt_randomSessionKey transparentPrims garbledPacket transparentRSAKey aes128Fallback 6
    rsaEncryptSign ⟨16, 16⟩ rfl (Or.inr rfl) rfl rfl (by simp) rfl rfl (fun _ => ⟨_, rfl⟩)

/-! ## Completeness of the fallback -/

section
variable {prims : Primitives}

/-- **The fallback discards every genuine v6 key.** For a packet that `fromObject` and `encrypt`
produced for an RSA or ElGamal key pair, written and read back, `decrypt` with a fallback `r`
whose key has the session key's length (and, in v3, whose cipher is the session key's) returns
the session key in v3, and `r`'s key in v6 whatever `r`'s cipher: the decrypted v6 cipher is
`null`, which `isValidPayload` compares with `r`'s. -/
theorem encrypt_write_read_decrypt_random {v : Nat} (hv : v = 3 ∨ v = 6) {a : PublicKeyAlgorithm}
    (ha : a ∈ [rsaEncryptSign, rsaEncrypt, elgamal]) {secretKey : KeyPacket} {priv : Params}
    (hpriv : secretKey.privateParams = some priv) (halgo : secretKey.algorithm = a.code)
    (hk : KeyPair prims secretKey.publicParams priv secretKey.kdfFingerprint a)
    (hfp : 8 ≤ secretKey.fingerprint.length ∧ secretKey.fingerprint.length < 255)
    (hver : secretKey.version < 256) {anonymousRecipient : Bool} {sk : Bytes} {c : Nat}
    {params : CipherParams} (hc : getCipherParams c = .ok params)
    (hsk : sk.length = params.keySize) {config : Config} {random : Random}
    {P P' : PublicKeyEncryptedSessionKeyPacket}
    (hP : fromObject v secretKey anonymousRecipient sk (some c) = .ok P)
    (hP' : P.encrypt prims config random secretKey = .ok P')
    {r : RandomSessionKey} (hrs : r.sessionKey.length = sk.length)
    (hrc : v = 3 → r.sessionKeyAlgorithm = c) :
    ∃ bytes Q, P'.write = .ok bytes ∧ read {} bytes = .ok Q ∧
      ∃ Q', Q.decrypt prims secretKey (some r) = .ok Q' ∧
        Q'.sessionKey = some (if v = 3 then sk else r.sessionKey) := by
  simp only [List.mem_cons, List.mem_singleton, List.not_mem_nil, or_false] at ha
  have hfam : a ∈ [rsaEncrypt, rsaEncryptSign, elgamal, ecdh, aead] := by
    rcases ha with rfl | rfl | rfl <;> simp
  have hcl : hasCleartextAlgorithm a.code = false := by
    rcases ha with rfl | rfl | rfl <;> rfl
  have hP0 : { secretKey with privateParams := secretKey.privateParams } = secretKey := rfl
  obtain ⟨bytes, Q, encoded, hw, hr, hQv, hQa, -, -, -, -, -, -, henc, hdec⟩ :=
    encrypt_write_read hv (fun h => by subst h; simp at ha) hpriv halgo hk hfp hver hc hsk
      (fun h => by rcases h with rfl | rfl <;> simp at ha) (hP0 ▸ hP) (hP0 ▸ hP')
  refine ⟨bytes, Q, hw, hr, ?_⟩
  have hks := getCipherParams_keySize hc
  obtain ⟨E, hE, hck, hsplit⟩ := @encodeSessionKey_split v a (if v = 3 then some c else none) c
    sk hv hfam (fun h => if_pos h) (getCipherParams_code hc).2 (fun _ => by omega)
  rw [henc] at hE
  cases hE
  obtain ⟨randomPayload, hrp⟩ : ∃ rp,
      encodeSessionKey v a.code (some r.sessionKeyAlgorithm) r.sessionKey = .ok rp := by
    rcases ha with rfl | rfl | rfl <;> exact ⟨_, rfl⟩
  have hd := hdec (some randomPayload)
  have hdecode := @decodeSessionKey_some v a hfam encoded r
  rw [← halgo] at hrp hdecode hcl hQa hd
  rw [← hpriv] at hd
  simp only [decrypt, hQa, hQv, ne_eq, not_true_eq_false, if_false, ok_bind, hrp, hd, hdecode,
    Except.map, Functor.map, Option.getD_some]
  rcases hv with rfl | rfl
  · have hvalid : isValidPayload 3 encoded r = true := by
      simp [isValidPayload, hck, hsplit, hrc, hrs]
    simp [selectUint8Array, selectUint8, hvalid, hcl, hsplit, hc, hsk]
  · have hvalid : isValidPayload 6 encoded r = false := by
      simp [isValidPayload, hsplit]
    simp [selectUint8Array, hvalid]

end

/-- A v6 packet for the AES-128 key of sixteen octets `1`, encrypted to `transparentRSAKey`,
decrypts with the fallback `aes128Fallback` to the fallback's key, not to its own. -/
theorem encrypt_write_read_decrypt_random_v6 :
    ∃ P P', fromObject 6 transparentRSAKey false (List.replicate 16 1) (some Symmetric.aes128) =
        .ok P ∧
      P.encrypt transparentPrims sampleConfig zeroRandom transparentRSAKey = .ok P' ∧
      ∃ bytes Q, P'.write = .ok bytes ∧ read {} bytes = .ok Q ∧
        ∃ Q', Q.decrypt transparentPrims transparentRSAKey (some aes128Fallback) = .ok Q' ∧
          Q'.sessionKey = some (List.replicate 16 2) ∧
          Q'.sessionKey ≠ some (List.replicate 16 1) := by
  refine ⟨_, _, rfl, rfl, ?_⟩
  obtain ⟨bytes, Q, hw, hr, Q', hd, hs⟩ := @encrypt_write_read_decrypt_random transparentPrims 6
    (Or.inr rfl) rsaEncryptSign (by simp) transparentRSAKey _ rfl rfl
    (.rsa (by simp) rfl rfl rfl rfl rfl rfl (transparentPrims_rsaCorrect _ _ _ _ _ _))
    (by decide) (by decide) false (List.replicate 16 1) Symmetric.aes128 ⟨16, 16⟩ rfl rfl
    sampleConfig zeroRandom _ _ rfl rfl aes128Fallback rfl (fun h => by cases h)
  simp only [if_neg (show (6 : Nat) ≠ 3 by decide)] at hs
  exact ⟨bytes, Q, hw, hr, Q', hd, hs, by rw [hs]; decide⟩

/-! ## Without a fallback -/

section
variable {prims : Primitives}

/-- **Without a fallback, the failures after decryption are told apart.** For a v3 packet of the
checksum family and a payload `d` that `publicKeyDecrypt` returns, only a bad checksum throws
'Decryption error'. When the checksum verifies, with cipher octet `c` and key `sk`: an
unregistered `c` throws the enum lookup's 'Invalid enum value.', the registered `c = 0`
(plaintext) throws 'Unsupported symmetric algorithm', and a cipher with a key of another size
throws 'Unexpected session key size'. -/
theorem decrypt_failures_distinct {pkt : PublicKeyEncryptedSessionKeyPacket} {key : KeyPacket}
    {a : PublicKeyAlgorithm} {d : Bytes} (hv : pkt.version = some 3)
    (hpa : pkt.publicKeyAlgorithm = some key.algorithm) (halgo : key.algorithm = a.code)
    (ha : a ∈ [rsaEncrypt, rsaEncryptSign, elgamal, ecdh, aead])
    (hd : publicKeyDecrypt prims key.algorithm key.publicParams key.privateParams pkt.encrypted
      key.kdfFingerprint none = .ok d) :
    (isValidChecksum d = false → pkt.decrypt prims key none = .error (.error "Decryption error")) ∧
    ∀ sk c, isValidChecksum d = true → decryptedSessionKey 3 d = (sk, some c) →
      (c ∉ symmetricCodes → pkt.decrypt prims key none = .error (.error "Invalid enum value.")) ∧
      (c = 0 → pkt.decrypt prims key none = .error (.error "Unsupported symmetric algorithm")) ∧
      (∀ params, getCipherParams c = .ok params → sk.length ≠ params.keySize →
        pkt.decrypt prims key none = .error (.error "Unexpected session key size")) := by
  have hcl : hasCleartextAlgorithm key.algorithm = false := by
    rw [halgo, Bool.eq_false_iff, ne_eq, hasCleartextAlgorithm_code]
    simp only [List.mem_cons, List.mem_singleton, List.not_mem_nil, or_false] at ha
    rcases ha with rfl | rfl | rfl | rfl | rfl <;> simp
  have hdecode := @decodeSessionKey_none 3 a ha d
  rw [← halgo] at hdecode
  refine ⟨fun hck => ?_,
    fun sk c hck hsplit => ⟨fun hc => ?_, fun hc0 => ?_, fun params hp hlen => ?_⟩⟩
  · simp [decrypt, hpa, hv, hd, hdecode, hck]
  · simp [decrypt, hpa, hv, hd, hdecode, hck, hsplit, enumsReadSymmetric, hc, Except.map]
  · subst hc0
    simp [decrypt, hpa, hv, hd, hdecode, hck, hsplit, enumsReadSymmetric, symmetricCodes,
      Except.map, hcl, getCipherParams]
  · simp [decrypt, hpa, hv, hd, hdecode, hck, hsplit, enumsReadSymmetric, Except.map, hcl, hp,
      hlen, mem_symmetricCodes_of_getCipherParams hp]

end

/-- A v3 RSA packet whose ciphertext `transparentPrims` decrypts to `payload`. -/
def v3TransparentPacket (payload : Bytes) : PublicKeyEncryptedSessionKeyPacket :=
  { version := some 3, publicKeyAlgorithm := some rsaEncryptSign.code
    encrypted := [("c", .bytes (1 :: payload))] }

/-- Three payloads with a good checksum, decrypted with `transparentRSAKey`: the cipher octet 14
is unregistered, 0 is plaintext, and AES-128 comes with a 24-octet key. -/
theorem decrypt_failures_distinct_rsa :
    (v3TransparentPacket ([14] ++ List.replicate 16 1 ++ writeChecksum (List.replicate 16 1))).decrypt
        transparentPrims transparentRSAKey none = .error (.error "Invalid enum value.") ∧
    (v3TransparentPacket ([0] ++ List.replicate 16 1 ++ writeChecksum (List.replicate 16 1))).decrypt
        transparentPrims transparentRSAKey none =
      .error (.error "Unsupported symmetric algorithm") ∧
    (v3TransparentPacket ([7] ++ List.replicate 24 1 ++ writeChecksum (List.replicate 24 1))).decrypt
        transparentPrims transparentRSAKey none = .error (.error "Unexpected session key size") :=
  ⟨((@decrypt_failures_distinct transparentPrims (v3TransparentPacket
      ([14] ++ List.replicate 16 1 ++ writeChecksum (List.replicate 16 1))) transparentRSAKey
      rsaEncryptSign _ rfl rfl rfl (by simp) rfl).2 _ _ (by decide) rfl).1 (by decide),
    ((@decrypt_failures_distinct transparentPrims (v3TransparentPacket
      ([0] ++ List.replicate 16 1 ++ writeChecksum (List.replicate 16 1))) transparentRSAKey
      rsaEncryptSign _ rfl rfl rfl (by simp) rfl).2 _ _ (by decide) rfl).2.1 rfl,
    ((@decrypt_failures_distinct transparentPrims (v3TransparentPacket
      ([7] ++ List.replicate 24 1 ++ writeChecksum (List.replicate 24 1))) transparentRSAKey
      rsaEncryptSign _ rfl rfl rfl (by simp) rfl).2 _ 7 (by decide) rfl).2.2 ⟨16, 16⟩ rfl
      (by decide)⟩

end PublicKeyEncryptedSessionKeyPacket

end OpenPgp
