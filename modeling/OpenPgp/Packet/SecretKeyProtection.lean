import OpenPgp.Packet.SecretKeyLifecycle

/-!
# Passphrase protection of a Secret-Key packet

What a returning `encrypt`, `clearPrivateParams` and `read` do to a packet, one lemma each, and
three consequences for packets that the laws of spec §4.5 do not foresee:

* `write_read_legacyUsage`: a protected key read with a legacy usage (a cipher code, which stands
  for the cipher with no specifier) is left without a specifier, so `write` throws on it.
* `decrypt_after_aead_then_cfb`: a CFB `encrypt` after an AEAD one leaves the AEAD mode in the
  packet, so `decrypt` takes the HKDF expansion of the S2K key where the CFB key material was
  encrypted under the S2K key itself, and refuses the passphrase.
* `validate_after_aead_encrypt`: an AEAD `encrypt` of a decrypted v4 or v6 key sets
  `usedModernAEAD` although the parameters were never authenticated, so `validate` returns
  without checking them.

Each is run on a concrete key under `keyedPrims`, primitives in which the passphrase and the key
matter.
-/

namespace OpenPgp

namespace SecretKeyPacket

/-! ## What `encrypt` and `clearPrivateParams` do -/

section Encrypt

variable {prims : Primitives} {config : Config} {random : Random} {passphrase : String}
  {p : SecretKeyPacket}

/-- A returning CFB `encrypt` of a packet that is no dummy: the packet was decrypted, and it gets a
fresh specifier, usage 254, a fresh IV and its cleartext with the SHA-1 digest encrypted under the
S2K key. The AEAD mode and the legacy flag stay as they were. -/
theorem encrypt_cfb (hcfb : config.aeadProtect = false) (hd : p.isDummy = false) :
    wp (encrypt prims config random passphrase)
      (fun _ q => p.isDecrypted = true ∧ ∃ s2k privateParams cleartext key,
        newS2KFromConfig config random = .ok s2k ∧ p.privateParams = some privateParams ∧
        serializeParams p.algorithm privateParams = .ok cleartext ∧
        produceEncryptionKey prims p.version (some s2k) passphrase (some Symmetric.aes256) none []
          none = .ok key ∧
        q = { p with
          s2k := some s2k, symmetric := some Symmetric.aes256, s2kUsage := some 254,
          usedModernAEAD := some false, iv := some (random.getRandomBytes 16),
          keyMaterial := some (prims.cfbEncrypt Symmetric.aes256 key
            (cleartext ++ prims.computeDigest Hash.sha1 cleartext) (random.getRandomBytes 16)),
          keyMaterialViews := [] })
      (fun _ _ => True) p := by
  simp only [encrypt, ↓wp_bind, ↓wp_get, ↓wp_ite, ↓wp_throw, ↓wp_pure, ↓wp_modify,
    ↓wp_liftExcept, hd, hcfb, Bool.false_eq_true, if_false, getCipherParams_aes256]
  by_cases hdec : p.isDecrypted
  · simp only [hdec, Bool.not_true, Bool.false_eq_true, if_false]
    repeat' first
      | split
      | simp only [↓wp_bind, ↓wp_get, ↓wp_ite, ↓wp_throw, ↓wp_pure, ↓wp_modify, ↓wp_liftExcept]
    all_goals first
      | trivial
      | exact ⟨trivial, _, _, _, _, ‹_›, ‹_›, ‹_›, ‹_›, rfl⟩
  · simp [hdec]

/-- A returning AEAD `encrypt` of a packet that is no dummy: the packet was decrypted, and it gets
a fresh specifier, usage 253, the configured mode, the legacy flag of a v5 key, `usedModernAEAD`
otherwise, a fresh IV and its cleartext encrypted under the derived key, with the packet tag and
public key as associated data outside the legacy format. -/
theorem encrypt_aead (haead : config.aeadProtect = true) (hd : p.isDummy = false) :
    wp (encrypt prims config random passphrase)
      (fun _ q => p.isDecrypted = true ∧
        ∃ s2k privateParams cleartext ivLength key associateData keyMaterial,
        newS2KFromConfig config random = .ok s2k ∧ p.privateParams = some privateParams ∧
        serializeParams p.algorithm privateParams = .ok cleartext ∧
        getAEADMode config.preferredAEADAlgorithm false = .ok ivLength ∧
        produceEncryptionKey prims p.version (some s2k) passphrase (some Symmetric.aes256)
          (some config.preferredAEADAlgorithm) (writeTag p.tag) (some (decide (p.version = 5))) =
          .ok key ∧
        prims.aeadEncrypt config.preferredAEADAlgorithm Symmetric.aes256 key cleartext
          ((random.getRandomBytes (if p.version = 5 then 16 else ivLength)).take ivLength)
          associateData = .ok keyMaterial ∧
        (p.version = 5 ∧ associateData = [] ∨ p.version ≠ 5 ∧
          ∃ publicKey, p.writePublicKey = .ok publicKey ∧
            associateData = writeTag p.tag ++ publicKey) ∧
        q = { p with
          s2k := some s2k, symmetric := some Symmetric.aes256, s2kUsage := some 253,
          aead := some config.preferredAEADAlgorithm, isLegacyAEAD := some (decide (p.version = 5)),
          usedModernAEAD := some !(decide (p.version = 5)),
          iv := some (random.getRandomBytes (if p.version = 5 then 16 else ivLength)),
          keyMaterial := some keyMaterial, keyMaterialViews := [] })
      (fun _ _ => True) p := by
  simp only [encrypt, ↓wp_bind, ↓wp_get, ↓wp_ite, ↓wp_throw, ↓wp_pure, ↓wp_modify,
    ↓wp_liftExcept, hd, haead, Bool.false_eq_true, if_false, if_true, getCipherParams_aes256]
  by_cases hdec : p.isDecrypted
  · simp only [hdec, Bool.not_true, Bool.false_eq_true, if_false]
    repeat' first
      | split
      | simp only [↓wp_bind, ↓wp_get, ↓wp_ite, ↓wp_throw, ↓wp_pure, ↓wp_modify, ↓wp_liftExcept]
    all_goals first
      | trivial
      | exact ⟨trivial, _, _, _, _, _, _, _, ‹_›, ‹_›, ‹_›, ‹_›, ‹_›, ‹_›, by simp_all, rfl⟩
  · simp [hdec]

end Encrypt

/-- A returning `clearPrivateParams` found the secret missing and did nothing, or zeroed the
private parameters of a packet that had some, with the key material they share, dropped them and
marked the packet encrypted. -/
theorem clearPrivateParams_ok (p : SecretKeyPacket) :
    wp clearPrivateParams
      (fun _ q => p.isMissingSecretKeyMaterial = true ∧ q = p ∨
        p.isMissingSecretKeyMaterial = false ∧ ∃ privateParams,
          p.privateParams = some privateParams ∧ q = { p with
            keyMaterial := p.keyMaterial.map (fillAll p.keyMaterialViews privateParams),
            privateParams := none, isEncrypted := some true })
      (fun _ _ => True) p := by
  simp only [clearPrivateParams, ↓wp_bind, ↓wp_get, ↓wp_ite, ↓wp_throw, ↓wp_pure, ↓wp_modify]
  by_cases hm : p.isMissingSecretKeyMaterial
  · simp [hm]
  simp only [hm, Bool.false_eq_true, if_false]
  split
  · rw [wp_bind]
    refine wp_mono (clearFields_privateParams _ p) ?_ fun _ _ _ => trivial
    rintro _ q ⟨rest, rfl⟩
    exact .inr ⟨trivial, _, ‹_›, rfl⟩
  · trivial

/-- The loop of `clearPrivateParams` returns when every field has `fill`. -/
theorem clearFields_run {l : Params} (h : ∀ f ∈ l, f.2.fill = .ok ()) (p : SecretKeyPacket) :
    ∃ rest, (clearFields l).run p = .ok () { p with
      keyMaterial := p.keyMaterial.map (fillAll p.keyMaterialViews l), privateParams := rest } := by
  induction l generalizing p with
  | nil =>
    refine ⟨p.privateParams, ?_⟩
    rw [fillAll_nil, Option.map_id]
    rfl
  | cons field l ih =>
    obtain ⟨name, param⟩ := field
    obtain ⟨rest, hrest⟩ := ih (fun f hf => h f (List.mem_cons_of_mem _ hf)) { p with
      keyMaterial := p.keyMaterial.map (fillShared p.keyMaterialViews name param),
      privateParams := some l }
    refine ⟨rest, run_eq_ok_of_wp ?_⟩
    simp only [clearFields, ↓wp_bind, ↓wp_liftExcept, h _ (List.mem_cons_self _ _), ↓wp_modify]
    rw [wp_eq_of_run hrest, Option.map_map]
    exact ⟨trivial, rfl⟩

/-- `clearPrivateParams` of a packet with secret material whose fields all have `fill`. -/
theorem clearPrivateParams_run {p : SecretKeyPacket} {l : Params}
    (hm : p.isMissingSecretKeyMaterial = false) (hpp : p.privateParams = some l)
    (h : ∀ f ∈ l, f.2.fill = .ok ()) :
    clearPrivateParams.run p = .ok () { p with
      keyMaterial := p.keyMaterial.map (fillAll p.keyMaterialViews l), privateParams := none,
      isEncrypted := some true } := by
  obtain ⟨rest, hrest⟩ := clearFields_run h p
  refine run_eq_ok_of_wp ?_
  simp only [clearPrivateParams, ↓wp_bind, ↓wp_get, ↓wp_ite, ↓wp_pure, hm, hpp,
    Bool.false_eq_true, if_false]
  rw [wp_eq_of_run hrest]
  exact ⟨trivial, rfl⟩

/-! ## A legacy usage cannot be written back -/

/-- `readPublicKey` assigns neither the usage nor the specifier. -/
theorem readPublicKey_s2k (bytes : Bytes) (p : SecretKeyPacket) :
    wp (readPublicKey bytes) (fun _ q => q.s2k = p.s2k) (fun _ _ => True) p :=
  wp_mono (readPublicKey_frame bytes p) (fun _ _ ⟨_, _, _, _, h⟩ => h ▸ rfl) fun _ _ h => h

/-- The `try` block of `read` keeps the usage, and for a usage other than 253 to 255 it reads no
specifier. -/
theorem readS2KFields_s2k (config : Config) (bytes : Bytes) (p : SecretKeyPacket) (i : Nat) :
    wp (readS2KFields config bytes)
      (fun _ q => q.1.s2kUsage = p.s2kUsage ∧
        (p.s2kUsage ≠ some 255 → p.s2kUsage ≠ some 254 → p.s2kUsage ≠ some 253 → q.1.s2k = p.s2k))
      (fun _ q => q.1.s2kUsage = p.s2kUsage ∧
        (p.s2kUsage ≠ some 255 → p.s2kUsage ≠ some 254 → p.s2kUsage ≠ some 253 → q.1.s2k = p.s2k))
      (p, i) := by
  have key : ∀ s2k, (s2k = p.s2k ∨ (p.s2kUsage = some 255 ∨ p.s2kUsage = some 254 ∨
      p.s2kUsage = some 253) ∧ ∃ s, s2k = some s) →
      p.s2kUsage ≠ some 255 → p.s2kUsage ≠ some 254 → p.s2kUsage ≠ some 253 → s2k = p.s2k := by
    rintro s2k (rfl | ⟨hu | hu | hu, -⟩) h₁ h₂ h₃ <;> first | rfl | contradiction
  refine wp_mono (readS2KFields_spec config bytes p i) ?_ ?_
  · rintro _ ⟨q, j⟩ ⟨_, _, s2k, _, _, _, rfl, ⟨rfl, -⟩ | ⟨hu, s, rfl, -⟩⟩
    · exact ⟨rfl, fun _ _ _ => rfl⟩
    · exact ⟨rfl, key _ (.inr ⟨hu, s, rfl⟩)⟩
  · rintro _ ⟨q, j⟩ ⟨_, _, s2k, _, _, _, rfl, hs⟩
    exact ⟨rfl, key s2k (hs.imp_right fun ⟨hu, s, hs, _⟩ => ⟨hu, s, hs⟩)⟩

/-- The rest of `read` keeps the usage and the specifier. -/
theorem readKeyMaterial_s2k (prims : Primitives) (bytes : Bytes) (i : Nat) (p : SecretKeyPacket) :
    wp (readKeyMaterial prims bytes i) (fun _ q => q.s2kUsage = p.s2kUsage ∧ q.s2k = p.s2k)
      (fun _ _ => True) p := by
  refine wp_mono (readKeyMaterial_spec prims bytes i p) ?_ fun _ _ _ => trivial
  rintro _ q ⟨_, ⟨-, rfl⟩ | ⟨-, _, rfl⟩⟩ <;> exact ⟨rfl, rfl⟩

/-- A `read` that returns assigns a specifier only for the usages 253 to 255. -/
theorem read_s2k (prims : Primitives) (config : Config) (bytes : Bytes) (p : SecretKeyPacket) :
    wp (read prims config bytes)
      (fun _ q => q.s2kUsage ≠ some 255 → q.s2kUsage ≠ some 254 → q.s2kUsage ≠ some 253 →
        q.s2k = p.s2k)
      (fun _ _ => True) p := by
  simp only [read, wp_bind]
  refine wp_mono (readPublicKey_s2k bytes p) (fun i q hq => ?_) (fun _ _ _ => trivial)
  simp only [wp_modify, wp_get, wp_bind]
  have hb := readS2KFields_s2k config bytes { q with s2kUsage := byteAt bytes i }
    (i + 1 + (if q.version = 5 then 1 else 0) +
      (if q.version = 6 ∧ truthy (byteAt bytes i) = true then 1 else 0))
  unfold wp at hb
  split <;> rename_i q' j hrun <;> rw [hrun] at hb <;> obtain ⟨hu, hs⟩ := hb
  · exact fun h₁ h₂ h₃ => (hs (hu ▸ h₁) (hu ▸ h₂) (hu ▸ h₃)).trans hq
  all_goals simp only [wp_bind, wp_set, wp_ite, wp_throw, wp_pure, wp_modify]
  · exact wp_mono (readKeyMaterial_s2k prims bytes j q')
      (fun _ r ⟨hru, hrs⟩ h₁ h₂ h₃ => hrs.trans ((hs (hu ▸ hru ▸ h₁) (hu ▸ hru ▸ h₂)
        (hu ▸ hru ▸ h₃)).trans hq)) fun _ _ _ => trivial
  · split
    · trivial
    · exact wp_mono (readKeyMaterial_s2k prims bytes j _)
        (fun _ r ⟨hru, hrs⟩ h₁ h₂ h₃ => hrs.trans ((hs (hu ▸ hru ▸ h₁) (hu ▸ hru ▸ h₂)
          (hu ▸ hru ▸ h₃)).trans hq)) fun _ _ _ => trivial

/-- `write` throws on a packet with a usage other than 0 and 253 to 255, no specifier and no
unparseable material, once its public part is written. -/
theorem write_of_s2k_none {p : SecretKeyPacket} {u : Nat} {publicKey : Bytes}
    (hu : p.s2kUsage = some u) (h0 : u ≠ 0) (hs : u ≠ 253 ∧ u ≠ 254 ∧ u ≠ 255)
    (hs2k : p.s2k = none) (hunp : p.unparseableKeyMaterial = none)
    (hpub : p.writePublicKey = .ok publicKey) :
    write.run p = .error (.typeError "Cannot read properties of null (reading 'type')") p := by
  have hopt : p.writeOptionalFields =
      .error (.typeError "Cannot read properties of null (reading 'type')") := by
    simp [writeOptionalFields, hu, hs, hs2k, truthy, h0]
  refine run_eq_error_of_wp ?_
  simp [write, hpub, hunp, hopt]

/-- **A legacy usage is not written back.** A protected key that `read` accepts with a cipher code
for its usage has no specifier, and `write` throws on it. -/
theorem write_read_legacyUsage {prims : Primitives} {config : Config} {bytes : Bytes}
    {tag version : Nat} {created : Bytes} {algorithm : Nat} {p : SecretKeyPacket} {u : Nat}
    (hr : (read prims config bytes).run (new tag version created algorithm) = .ok () p)
    (hu : p.s2kUsage = some u) (h0 : u ≠ 0) (hs : u ≠ 253 ∧ u ≠ 254 ∧ u ≠ 255)
    (hunp : p.unparseableKeyMaterial = none)
    (hpub : ∃ publicKey, p.writePublicKey = .ok publicKey) :
    p.s2k = none ∧
      write.run p = .error (.typeError "Cannot read properties of null (reading 'type')") p := by
  have hs2k : p.s2k = none :=
    wp_of_run_ok (read_s2k prims config bytes _) hr (by simp [hu, hs.2.2]) (by simp [hu, hs.2.1])
      (by simp [hu, hs.1])
  obtain ⟨publicKey, hpub⟩ := hpub
  exact ⟨hs2k, write_of_s2k_none hu h0 hs hs2k hunp hpub⟩

/-- A v4 X25519 key under the legacy usage 7, AES-128: the public point, the usage, an IV of
sixteen octets and three octets of key material. -/
def legacyX25519Key : Bytes :=
  [4, 0, 0, 0, 0, 25] ++ List.replicate 32 9 ++ [7] ++ List.replicate 16 3 ++ [1, 2, 3]

theorem write_read_legacyUsage_x25519 :
    ∃ p, (read transparentPrims PublicKeyEncryptedSessionKeyPacket.sampleConfig legacyX25519Key).run
        (new 5 4 [0, 0, 0, 0] 25) = .ok () p ∧ p.s2kUsage = some 7 ∧ p.s2k = none ∧
      write.run p = .error (.typeError "Cannot read properties of null (reading 'type')") p :=
  ⟨_, rfl, rfl, @write_read_legacyUsage transparentPrims
    PublicKeyEncryptedSessionKeyPacket.sampleConfig legacyX25519Key 5 4 [0, 0, 0, 0] 25 _ 7 rfl rfl
    (by decide) (by decide) rfl ⟨_, rfl⟩⟩

/-! ## A CFB re-encryption after an AEAD one -/

/-- On a v4 or v6 key, the key that `produceEncryptionKey` derives for an AEAD mode outside the
legacy format is the HKDF expansion of the one it derives for CFB from the same specifier and
passphrase. -/
theorem produceEncryptionKey_aead {prims : Primitives} {version : Nat} {s2k : S2K}
    {passphrase : String} {aead : Nat} {key : Bytes} (tag : Bytes) (ha : aead ≠ 0)
    (hv : version ≠ 5)
    (h : produceEncryptionKey prims version (some s2k) passphrase (some Symmetric.aes256) none []
      none = .ok key) :
    produceEncryptionKey prims version (some s2k) passphrase (some Symmetric.aes256) (some aead)
      tag (some false) =
      .ok (prims.computeHKDF Hash.sha256 key []
        (tag ++ [UInt8.ofNat version, octetOf (some Symmetric.aes256), octetOf (some aead)])
        32) := by
  simp_all [produceEncryptionKey, truthy]
  split_ifs at h with h₁ h₂
  obtain ⟨derivedKey, hk, h⟩ := bind_eq_ok.1 h
  cases h
  simp [h₂, hk]

/-- CFB decryption under the HKDF expansion of the key that a cleartext and its SHA-1 digest were
encrypted under fails the SHA-1 check: the expansion is another key. -/
def HKDFKeyDiffers (prims : Primitives) : Prop :=
  ∀ key info cleartext iv,
    let cleartextWithHash := prims.cfbDecrypt Symmetric.aes256
      (prims.computeHKDF Hash.sha256 key [] info 32)
      (prims.cfbEncrypt Symmetric.aes256 key (cleartext ++ prims.computeDigest Hash.sha1 cleartext)
        iv) iv
    prims.computeDigest Hash.sha1 (cleartextWithHash.take (cleartextWithHash.length - 20)) ≠
      cleartextWithHash.drop (cleartextWithHash.length - 20)

/-- **The passphrase of a CFB re-encryption is refused.** Encrypt a decrypted v4 or v6 key with
AEAD, then with CFB, and clear its parameters: `decrypt` with the second passphrase still sees
the first encryption's AEAD mode, expands the S2K key by HKDF, and throws. -/
theorem decrypt_after_aead_then_cfb {prims : Primitives} (hkdf : HKDFKeyDiffers prims)
    {config₁ config₂ : Config} {random₁ random₂ : Random} {passphrase₁ passphrase₂ : String}
    {p q₁ q₂ q₃ : SecretKeyPacket} (hd : p.isDummy = false)
    (hu : p.unparseableKeyMaterial = none) (hv : p.version ≠ 5)
    (haead : config₁.aeadProtect = true) (hcfb : config₂.aeadProtect = false)
    (h₁ : (encrypt prims config₁ random₁ passphrase₁).run p = .ok () q₁)
    (h₂ : (encrypt prims config₂ random₂ passphrase₂).run q₁ = .ok () q₂)
    (h₃ : clearPrivateParams.run q₂ = .ok () q₃) :
    (decrypt prims passphrase₂).run q₃ = .error (.error "Incorrect key passphrase") q₃ := by
  obtain ⟨-, s2k₁, _, _, ivLength, _, _, _, hs2k₁, -, -, hiv, -, -, -, rfl⟩ :=
    wp_of_run_ok (encrypt_aead haead hd) h₁
  obtain ⟨-, s2k, _, cleartext, key, hs2k, -, -, hkey, rfl⟩ :=
    wp_of_run_ok (encrypt_cfb hcfb (by simp [isDummy, newS2KFromConfig_ne_gnuDummy hs2k₁])) h₂
  have hs2k' := newS2KFromConfig_ne_gnuDummy hs2k
  obtain ⟨hm, -⟩ | ⟨-, _, -, rfl⟩ := wp_of_run_ok (clearPrivateParams_ok _) h₃
  · simp [isMissingSecretKeyMaterial, isDummy, hu, hs2k'] at hm
  have ha : config₁.preferredAEADAlgorithm ≠ 0 := by
    rintro h
    simp [h, getAEADMode] at hiv
  refine run_eq_error_of_wp ?_
  simp only [decrypt, ↓wp_bind, ↓wp_get, ↓wp_ite, ↓wp_throw, ↓wp_pure, ↓wp_liftExcept]
  simp [isDummy, hs2k', hu, isDecrypted, hv, produceEncryptionKey_aead _ ha hv hkey,
    cfbDecryptKeyMaterial, hkdf key _ cleartext]

/-! ## `validate` after an AEAD encryption -/

/-- **`validate` trusts an AEAD encryption.** After a returning AEAD `encrypt` of a v4 or v6 key
that is no dummy, the key is still decrypted with the parameters it had, and `validate` returns
without checking them. -/
theorem validate_after_aead_encrypt {prims : Primitives} {config : Config} {random : Random}
    {passphrase : String} {p q : SecretKeyPacket} (haead : config.aeadProtect = true)
    (hd : p.isDummy = false) (hv : p.version ≠ 5)
    (h : (encrypt prims config random passphrase).run p = .ok () q) :
    q.isDecrypted = true ∧ q.isDummy = false ∧ q.algorithm = p.algorithm ∧
      q.publicParams = p.publicParams ∧ q.privateParams = p.privateParams ∧
      (validate prims).run q = .ok () q := by
  obtain ⟨hdec, s2k, _, _, _, _, _, _, hs2k, -, -, -, -, -, -, rfl⟩ :=
    wp_of_run_ok (encrypt_aead haead hd) h
  have hd' : (some s2k == some S2K.gnuDummy) = false := by
    simp [newS2KFromConfig_ne_gnuDummy hs2k]
  refine ⟨hdec, hd', rfl, rfl, rfl, run_eq_ok_of_wp ?_⟩
  have he : p.isEncrypted = some false := beq_iff_eq.1 hdec
  simp only [validate, ↓wp_bind, ↓wp_get, ↓wp_ite, ↓wp_throw, ↓wp_pure]
  simp [isDummy, hd', isDecrypted, he, hv]

/-! ## Runs under keyed primitives -/

/-- Primitives in which the passphrase and the key matter: the S2K key repeats the passphrase's
length, HKDF puts the key's first octet plus one in front of it, CFB adds the key's first octet to
every octet, SHA-1 is twenty zero octets, and the AEAD mode puts the key in front as its tag. The
others are those of `transparentPrims`. -/
def keyedPrims : Primitives :=
  { transparentPrims with
    produceKey := fun _ passphrase keySize =>
      .ok (List.replicate keySize (UInt8.ofNat passphrase.length))
    computeHKDF := fun _ key _ _ _ => (key.headD 0 + 1) :: key
    computeDigest := fun _ _ => List.replicate 20 0
    cfbEncrypt := fun _ key text _ => text.map (· + key.headD 0)
    cfbDecrypt := fun _ key text _ => text.map (· - key.headD 0)
    aeadEncrypt := fun _ _ key data _ _ => .ok (key ++ data)
    aeadDecrypt := fun _ _ key data _ _ =>
      if data.take key.length = key then .ok (data.drop key.length)
      else .error (.error "Authentication tag mismatch") }

/-- Under `keyedPrims` the HKDF expansion shifts every CFB octet by one. -/
theorem keyedPrims_hkdfKeyDiffers : HKDFKeyDiffers keyedPrims := by
  intro key info cleartext iv
  have hshift : ∀ x : UInt8, x + key.headD 0 - (key.headD 0 + 1) = x - 1 := fun x => by
    apply UInt8.eq_of_toBitVec_eq
    show x.toBitVec + (key.headD 0).toBitVec - ((key.headD 0).toBitVec + 1) = x.toBitVec - 1
    bv_omega
  simp only [keyedPrims, List.headD_cons, List.map_map, List.map_append, List.map_replicate,
    List.length_append, List.length_map, List.length_replicate, Nat.add_sub_cancel,
    List.drop_left', hshift]
  decide

/-- A configuration that protects keys with OCB and iterated and salted SHA-256. -/
def aeadConfig : Config :=
  { aeadProtect := true, preferredAEADAlgorithm := 2, parseAEADEncryptedV4KeysAsLegacy := false
    s2kType := 3, s2kIterationCountByte := 224, s2kArgon2Params := (1, 4, 21)
    enforceGrammar := true, hasGrammarErrorReporter := false }

/-- `aeadConfig` with CFB protection. -/
def cfbConfig : Config := { aeadConfig with aeadProtect := false }

/-- A random source of octets 5. -/
def fiveRandom : Random := ⟨fun n => List.replicate n 5, by simp⟩

/-- The key of `clearEd25519Key` as `read` leaves it under `keyedPrims`. -/
def keyedEd25519Packet : SecretKeyPacket :=
  resultState ((read keyedPrims cfbConfig clearEd25519Key).run (new 5 6 [0, 0, 0, 0] 27))

theorem keyedEd25519Packet_reachable : Reachable keyedPrims keyedEd25519Packet :=
  @Reachable.read keyedPrims cfbConfig clearEd25519Key 5 6 [0, 0, 0, 0] 27 _ rfl

theorem decrypt_after_aead_then_cfb_ed25519 :
    HKDFKeyDiffers keyedPrims ∧ ∃ p q₁ q₂ q₃ : SecretKeyPacket, Reachable keyedPrims p ∧
      (encrypt keyedPrims aeadConfig fiveRandom "pw1").run p = .ok () q₁ ∧
      (encrypt keyedPrims cfbConfig fiveRandom "pw2").run q₁ = .ok () q₂ ∧
      clearPrivateParams.run q₂ = .ok () q₃ ∧
      (decrypt keyedPrims "pw2").run q₃ = .error (.error "Incorrect key passphrase") q₃ := by
  let q₁ := resultState ((encrypt keyedPrims aeadConfig fiveRandom "pw1").run keyedEd25519Packet)
  let q₂ := resultState ((encrypt keyedPrims cfbConfig fiveRandom "pw2").run q₁)
  let q₃ := resultState (clearPrivateParams.run q₂)
  have h₁ : (encrypt keyedPrims aeadConfig fiveRandom "pw1").run keyedEd25519Packet = .ok () q₁ :=
    rfl
  have h₂ : (encrypt keyedPrims cfbConfig fiveRandom "pw2").run q₁ = .ok () q₂ := rfl
  have h₃ : clearPrivateParams.run q₂ = .ok () q₃ := rfl
  exact ⟨keyedPrims_hkdfKeyDiffers, keyedEd25519Packet, q₁, q₂, q₃, keyedEd25519Packet_reachable,
    h₁, h₂, h₃,
    decrypt_after_aead_then_cfb keyedPrims_hkdfKeyDiffers (by rfl) (by rfl) (by decide) rfl rfl
      h₁ h₂ h₃⟩

theorem validate_after_aead_encrypt_ed25519 :
    ∃ p q : SecretKeyPacket, Reachable keyedPrims p ∧
      (validate keyedPrims).run p = .error (.error "Key is invalid") p ∧
      (encrypt keyedPrims aeadConfig fiveRandom "pw").run p = .ok () q ∧ Reachable keyedPrims q ∧
      validateParams keyedPrims q.algorithm (some q.publicParams) q.privateParams = .ok false ∧
      q.isDecrypted = true ∧ q.isDummy = false ∧ q.algorithm = p.algorithm ∧
      q.publicParams = p.publicParams ∧ q.privateParams = p.privateParams ∧
      (validate keyedPrims).run q = .ok () q := by
  let q := resultState ((encrypt keyedPrims aeadConfig fiveRandom "pw").run keyedEd25519Packet)
  have h : (encrypt keyedPrims aeadConfig fiveRandom "pw").run keyedEd25519Packet = .ok () q := rfl
  exact ⟨keyedEd25519Packet, q, keyedEd25519Packet_reachable, rfl, h,
    .call (.encrypt aeadConfig fiveRandom "pw") keyedEd25519Packet_reachable, rfl,
    validate_after_aead_encrypt rfl rfl (by decide) h⟩

end SecretKeyPacket

end OpenPgp
