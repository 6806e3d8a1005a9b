import OpenPgp.Packet.SecretKeyProtection

/-!
# What a throwing method leaves behind

A method of a Secret-Key packet that throws keeps the assignments it made before the throw
(`OpenPgp.Packet.SecretKey`). Whether a method is atomic on failure is therefore a question of
where its assignments stand against its throws:

* `decrypt_unchanged`: `decrypt` assigns nothing before its last check, so it is atomic: a throw
  leaves the packet as it was, and `false` is returned only for a GNU dummy, left as it was.
* `encrypt_argon2_without_aead`: `encrypt` assigns the specifier, the cipher, the usage and
  `usedModernAEAD` before it derives the key, and the derivation refuses Argon2 without AEAD: the
  packet it leaves has a protected usage and a fresh specifier over its key in the clear.
* `clearPrivateParams_generated_mlkem`: `clearPrivateParams` zeroes and deletes the fields one by
  one, so on a generated ML-KEM key, whose seed `generate` leaves `undefined`, it throws with the
  X25519 secret deleted.
* `clearPrivateParams_inTheClear_stranded`: on a key stored in the clear, `clearPrivateParams`
  returns with the packet marked encrypted under usage 0, a state from which `write`, `decrypt`,
  `encrypt` and `validate` all throw, and which no run of calls without `makeDummy` leaves.
-/

namespace OpenPgp

namespace SecretKeyPacket

/-! ## `decrypt` -/

/-- **`decrypt` is atomic on failure.** Whatever the packet and the passphrase, a `decrypt` that
throws leaves every field as it was, and one that returns `false` found a GNU dummy and left it as
it was. -/
theorem decrypt_unchanged (prims : Primitives) (passphrase : String) (p : SecretKeyPacket) :
    wp (decrypt prims passphrase) (fun r q => r = some false → p.isDummy = true ∧ q = p)
      (fun _ q => q = p) p := by
  simp only [decrypt, ↓wp_bind, ↓wp_get, ↓wp_ite, ↓wp_throw, ↓wp_pure, ↓wp_modify,
    ↓wp_liftExcept]
  by_cases hd : p.isDummy
  · simp [hd]
  simp only [hd, Bool.false_eq_true, if_false]
  repeat' first
    | split
    | simp only [↓wp_bind, ↓wp_throw, ↓wp_pure, ↓wp_modify, ↓wp_liftExcept]
  all_goals first
    | rfl
    | simp

/-! ## `encrypt` -/

/-- **`encrypt` is not atomic on failure.** Under a configuration with Argon2 and without AEAD,
`encrypt` of a decrypted packet that is no dummy, with a non-empty passphrase, throws from the key
derivation after it has assigned the new specifier, AES-256, usage 254 and `usedModernAEAD`. -/
theorem encrypt_argon2_without_aead {prims : Primitives} {config : Config} {random : Random}
    {passphrase : String} {p : SecretKeyPacket} {privateParams : Params} {cleartext : Bytes}
    (hd : p.isDummy = false) (hdec : p.isDecrypted = true) (hpass : passphrase.isEmpty = false)
    (hargon2 : config.s2kType = S2KCode.argon2) (hcfb : config.aeadProtect = false)
    (hpp : p.privateParams = some privateParams)
    (hser : serializeParams p.algorithm privateParams = .ok cleartext) :
    (encrypt prims config random passphrase).run p =
      .error (.error "Using Argon2 S2K without AEAD is not allowed")
        { p with
          s2k := some (.argon2 (random.getRandomBytes 16) config.s2kArgon2Params.1
            config.s2kArgon2Params.2.1 config.s2kArgon2Params.2.2)
          symmetric := some Symmetric.aes256, s2kUsage := some 254,
          usedModernAEAD := some false } := by
  refine run_eq_error_of_wp ?_
  simp only [encrypt, ↓wp_bind, ↓wp_get, ↓wp_ite, ↓wp_throw, ↓wp_pure, ↓wp_modify,
    ↓wp_liftExcept, hd, hdec, hpass, hcfb, newS2KFromConfig, hargon2, hpp, hser,
    getCipherParams_aes256, produceEncryptionKey, S2K.isArgon2, truthy]
  simp [S2KCode.argon2, S2KCode.iterated]

/-- `cfbConfig` with Argon2 as the configured specifier. -/
def argon2Config : Config := { cfbConfig with s2kType := S2KCode.argon2 }

/-- The Ed25519 key read in the clear, encrypted under `argon2Config`: it is left with usage 254
and an Argon2 specifier, its seed still in the clear. -/
theorem encrypt_argon2_without_aead_ed25519 :
    keyedEd25519Packet.s2kUsage = some 0 ∧
      (encrypt keyedPrims argon2Config fiveRandom "pw").run keyedEd25519Packet =
        .error (.error "Using Argon2 S2K without AEAD is not allowed")
          { keyedEd25519Packet with
            s2k := some (.argon2 (List.replicate 16 5) 1 4 21)
            symmetric := some Symmetric.aes256, s2kUsage := some 254,
            usedModernAEAD := some false } :=
  ⟨rfl, encrypt_argon2_without_aead (by rfl) (by rfl) (by rfl) rfl rfl (by rfl) (by rfl)⟩

/-! ## `clearPrivateParams` -/

/-- The loop of `clearPrivateParams` over fields that all have `fill`, then one that has none:
it throws with the fields before that one zeroed and deleted. -/
theorem clearFields_error (field : String × Param) (e : Err) (hfill : field.2.fill = .error e)
    (rest : Params) :
    ∀ (zeroed : Params) (p : SecretKeyPacket), zeroed ≠ [] → (∀ f ∈ zeroed, f.2.fill = .ok ()) →
      wp (clearFields (zeroed ++ field :: rest)) (fun _ _ => False)
        (fun e' q => e' = e ∧ q = { p with
          keyMaterial := p.keyMaterial.map (fillAll p.keyMaterialViews zeroed),
          privateParams := some (field :: rest) }) p
  | [], _, h, _ => absurd rfl h
  | [(name, param)], p, _, hz => by
    simp [clearFields, hz _ (List.mem_singleton_self _), hfill, fillAll]
  | (name, param) :: g :: zeroed, p, _, hz => by
    rw [List.cons_append, clearFields]
    simp only [wp_bind, wp_liftExcept, hz _ (List.mem_cons_self _ _), wp_modify]
    refine wp_mono (clearFields_error field e hfill rest (g :: zeroed) _ (List.cons_ne_nil _ _)
      fun f' hf' => hz f' (List.mem_cons_of_mem _ hf')) (fun _ _ h => h) ?_
    rintro _ _ ⟨rfl, rfl⟩
    exact ⟨rfl, by rw [Option.map_map]; rfl⟩

/-- **`clearPrivateParams` is not atomic on failure.** `generate` of an ML-KEM-768 + X25519 key
stores `mlkemSeed` as `undefined`. `clearPrivateParams` of the key zeroes and deletes
`eccSecretKey`, then throws at the seed: the packet is left decrypted, with the ML-KEM fields
only. -/
theorem clearPrivateParams_generated_mlkem {prims : Primitives} {random : Random} {bits : Nat}
    {curve : Option Curve} {symmetric : Nat} {p q : SecretKeyPacket} (hd : p.isDummy = false)
    (hu : p.unparseableKeyMaterial = none)
    (ha : p.algorithm = PublicKeyAlgorithm.pqcMlkemX25519.code)
    (hg : (generate prims random bits curve symmetric).run p = .ok () q) :
    q.isEncrypted = some false ∧
      clearPrivateParams.run q =
        .error (.typeError "Cannot read properties of undefined (reading 'fill')")
          { q with privateParams := some [("mlkemSeed", .undefined),
            ("mlkemSecretKey", .bytes prims.mlkemKeygen.2)] } := by
  obtain ⟨priv, pub, hgen, rfl⟩ :=
    wp_of_run_ok (generate_spec prims random bits curve symmetric p) hg
  have hm : isMissingSecretKeyMaterial { p with
      privateParams := some priv, publicParams := pub, isEncrypted := some false,
      keyMaterialViews := [] } = false := by
    simpa [isMissingSecretKeyMaterial, hu] using hd
  obtain ⟨A, k, -, rfl, rfl⟩ : ∃ A k, prims.ecdhXGenerate PublicKeyAlgorithm.x25519.code =
      .ok (A, k) ∧ [("eccSecretKey", Param.bytes k), ("mlkemSeed", Param.undefined),
        ("mlkemSecretKey", Param.bytes prims.mlkemKeygen.2)] = priv ∧
      [("eccPublicKey", Param.bytes A), ("mlkemPublicKey", Param.bytes prims.mlkemKeygen.1)] =
        pub := by
    simpa [ha, generateParams, kemGenerate, eccKemGenerate, mlKemGenerate, bind_eq_ok] using hgen
  refine ⟨rfl, run_eq_error_of_wp ?_⟩
  simp only [clearPrivateParams, wp_bind, wp_get, hm, Bool.false_eq_true, if_false, wp_pure]
  refine wp_mono (clearFields_error ("mlkemSeed", .undefined) _ rfl _ [("eccSecretKey", .bytes k)]
    _ (List.cons_ne_nil _ _) (by simp [Param.fill])) (fun _ _ h => h.elim) ?_
  rintro _ _ ⟨rfl, rfl⟩
  simp

/-- An ML-KEM-768 + X25519 key generated into a new v6 packet under `kemPrims`. -/
theorem clearPrivateParams_generated_mlkem_kemPrims :
    ∃ q, (generate kemPrims zeroRandom 0 none 0).run
        (new 5 6 [0, 0, 0, 0] PublicKeyAlgorithm.pqcMlkemX25519.code) = .ok () q ∧
      q.isEncrypted = some false ∧
      clearPrivateParams.run q =
        .error (.typeError "Cannot read properties of undefined (reading 'fill')")
          { q with privateParams := some [("mlkemSeed", .undefined),
            ("mlkemSecretKey", .bytes kemPrims.mlkemKeygen.2)] } :=
  have hg : (generate kemPrims zeroRandom 0 none 0).run
      (new 5 6 [0, 0, 0, 0] PublicKeyAlgorithm.pqcMlkemX25519.code) =
      .ok () (resultState ((generate kemPrims zeroRandom 0 none 0).run
        (new 5 6 [0, 0, 0, 0] PublicKeyAlgorithm.pqcMlkemX25519.code))) := rfl
  ⟨_, hg, @clearPrivateParams_generated_mlkem kemPrims zeroRandom 0 none 0
    (new 5 6 [0, 0, 0, 0] PublicKeyAlgorithm.pqcMlkemX25519.code) _ rfl rfl rfl hg⟩

/-! ## A key stranded by `clearPrivateParams`

On a key stored in the clear, `clearPrivateParams` drops the private parameters and marks the
packet encrypted, but nothing protects the key: the usage stays 0. Every method that needs the
secret then throws and leaves the packet as it was, so the state is left only by `makeDummy`.
-/

/-- A key stranded by `clearPrivateParams`: no dummy and no unparseable material, marked
encrypted, under a usage that protects nothing, and without private parameters. -/
structure Stranded (p : SecretKeyPacket) : Prop where
  not_dummy : p.isDummy = false
  usage : truthy p.s2kUsage = false
  unparseable : p.unparseableKeyMaterial = none
  encrypted : p.isEncrypted = some true
  privateParams : p.privateParams = none

theorem Stranded.of_clearPrivateParams {p p' : SecretKeyPacket} (hd : p.isDummy = false)
    (hu : truthy p.s2kUsage = false) (hunp : p.unparseableKeyMaterial = none)
    (hclear : clearPrivateParams.run p = .ok () p') : Stranded p' := by
  obtain ⟨hm, -⟩ | ⟨-, _, -, rfl⟩ := wp_of_run_ok (clearPrivateParams_ok p) hclear
  · simp [isMissingSecretKeyMaterial, hunp, hd] at hm
  exact ⟨hd, hu, hunp, rfl, rfl⟩

theorem Stranded.s2k_ne {p : SecretKeyPacket} (hp : Stranded p) : p.s2k ≠ some .gnuDummy :=
  (isDummy_eq_false_iff p).1 hp.not_dummy

theorem Stranded.s2kUsage_ne {p : SecretKeyPacket} (hp : Stranded p) :
    p.s2kUsage ≠ some 255 ∧ p.s2kUsage ≠ some 254 ∧ p.s2kUsage ≠ some 253 := by
  rcases truthy_eq_false_iff.1 hp.usage with h | h <;> simp [h]

/-- `write` of a stranded key with a serializable public part: `serializeParams` of `null`
throws. -/
theorem Stranded.write_run {p : SecretKeyPacket} {publicKey : Bytes} (hp : Stranded p)
    (hpub : p.writePublicKey = .ok publicKey) :
    write.run p = .error (.typeError "Cannot convert undefined or null to object") p := by
  have ho : p.writeOptionalFields = .ok [] := by
    simp [writeOptionalFields, hp.s2kUsage_ne, hp.usage]
  refine run_eq_error_of_wp ?_
  simp only [write, ↓wp_bind, ↓wp_get, ↓wp_liftExcept, ↓wp_ite, ↓wp_throw, ↓wp_pure, hpub, ho,
    hp.unparseable, hp.not_dummy, hp.usage, hp.privateParams]
  exact ⟨trivial, trivial⟩

/-- `write` of a stranded key throws, at the public part or at the missing parameters. -/
theorem Stranded.write_unchanged {p : SecretKeyPacket} (hp : Stranded p) :
    wp write (fun _ _ => False) (fun _ q => q = p) p := by
  cases hpub : p.writePublicKey with
  | error e => simp only [write, ↓wp_bind, ↓wp_get, ↓wp_liftExcept, hpub]
  | ok publicKey => rw [wp, hp.write_run hpub]

theorem Stranded.decrypt_run (prims : Primitives) (passphrase : String) {p : SecretKeyPacket}
    (hp : Stranded p) :
    (decrypt prims passphrase).run p = .error
      (.error "Private key is encrypted using an insecure S2K function: unsalted MD5") p := by
  have hdec : p.isDecrypted = false := by simp [isDecrypted, hp.encrypted]
  refine run_eq_error_of_wp ?_
  simp only [decrypt, ↓wp_bind, ↓wp_get, ↓wp_ite, ↓wp_throw, hp.not_dummy, hdec, hp.unparseable,
    hp.s2kUsage_ne, Option.isSome_none, Bool.false_eq_true, if_false, or_self]
  exact ⟨trivial, rfl⟩

theorem Stranded.encrypt_run (prims : Primitives) (config : Config) (random : Random)
    (passphrase : String) {p : SecretKeyPacket} (hp : Stranded p) :
    (encrypt prims config random passphrase).run p =
      .error (.error "Key packet is already encrypted") p := by
  refine run_eq_error_of_wp ?_
  simp [encrypt, hp.s2k_ne, hp.encrypted, isDecrypted, isDummy]

theorem Stranded.validate_run (prims : Primitives) {p : SecretKeyPacket} (hp : Stranded p) :
    (validate prims).run p = .error (.error "Key is not decrypted") p := by
  refine run_eq_error_of_wp ?_
  simp [validate, hp.s2k_ne, hp.encrypted, isDecrypted, isDummy]

theorem Stranded.clearPrivateParams_run {p : SecretKeyPacket} (hp : Stranded p) :
    clearPrivateParams.run p =
      .error (.typeError "Cannot convert undefined or null to object") p := by
  refine run_eq_error_of_wp ?_
  simp [clearPrivateParams, isMissingSecretKeyMaterial, hp.unparseable, hp.not_dummy,
    hp.privateParams]

/- The Ed25519 key in the clear, after `clearPrivateParams`: `write` finds no parameters to
serialize, `decrypt` refuses the usage, and `encrypt` and `validate` find the key encrypted. -/
example :
    ∃ p', clearPrivateParams.run keyedEd25519Packet = .ok () p' ∧
      write.run p' = .error (.typeError "Cannot convert undefined or null to object") p' ∧
      (decrypt keyedPrims "pw").run p' =
        .error (.error "Private key is encrypted using an insecure S2K function: unsalted MD5") p' ∧
      (encrypt keyedPrims cfbConfig zeroRandom "pw").run p' =
        .error (.error "Key packet is already encrypted") p' ∧
      (validate keyedPrims).run p' = .error (.error "Key is not decrypted") p' :=
  have hclear : clearPrivateParams.run keyedEd25519Packet =
      .ok () (resultState (clearPrivateParams.run keyedEd25519Packet)) := rfl
  have hp := @Stranded.of_clearPrivateParams keyedEd25519Packet _ rfl rfl rfl hclear
  ⟨_, hclear, hp.write_run rfl, hp.decrypt_run keyedPrims "pw",
    hp.encrypt_run keyedPrims cfbConfig zeroRandom "pw", hp.validate_run keyedPrims⟩

/-- **Step lemma**: every call but `makeDummy` leaves a stranded key as it is. -/
theorem Call.run_of_stranded (prims : Primitives) {c : Call} {p : SecretKeyPacket}
    (hp : Stranded p) (hc : c ≠ .makeDummy) : c.run prims p = p := by
  cases c with
  | encrypt config random passphrase =>
    simp only [Call.run, hp.encrypt_run prims config random passphrase, resultState]
  | decrypt passphrase => simp only [Call.run, hp.decrypt_run prims passphrase, resultState]
  | clearPrivateParams => simp only [Call.run, hp.clearPrivateParams_run, resultState]
  | makeDummy => exact absurd rfl hc
  | validate => simp only [Call.run, hp.validate_run prims, resultState]
  | write =>
    exact resultState_of_wp (wp_mono hp.write_unchanged (fun _ _ h => h.elim) fun _ _ h => h)

/-- **Run lemma**: any calls without `makeDummy` leave a stranded key as it is. -/
theorem Stranded.foldl_run (prims : Primitives) {p : SecretKeyPacket} (hp : Stranded p) :
    ∀ calls : List Call, (∀ c ∈ calls, c ≠ .makeDummy) →
      calls.foldl (fun q c => c.run prims q) p = p
  | [], _ => rfl
  | c :: calls, h => by
    rw [List.foldl_cons, Call.run_of_stranded prims hp (h c (List.mem_cons_self c calls))]
    exact hp.foldl_run prims calls fun c' hc' => h c' (List.mem_cons_of_mem c hc')

/-- **A key stranded by `clearPrivateParams` stays stranded.** After `clearPrivateParams` returns
on a key stored in the clear, the packet is `Stranded`, and every sequence of calls without
`makeDummy`, each returning or throwing, leaves it as it is: the secret is gone for good, and only
`makeDummy` moves the packet on. -/
theorem clearPrivateParams_inTheClear_stranded (prims : Primitives) {p p' : SecretKeyPacket}
    (hd : p.isDummy = false) (hu : truthy p.s2kUsage = false)
    (hunp : p.unparseableKeyMaterial = none) (hclear : clearPrivateParams.run p = .ok () p')
    (calls : List Call) (hcalls : ∀ c ∈ calls, c ≠ .makeDummy) :
    Stranded p' ∧ calls.foldl (fun q c => c.run prims q) p' = p' :=
  have hp := Stranded.of_clearPrivateParams hd hu hunp hclear
  ⟨hp, hp.foldl_run prims calls hcalls⟩

theorem clearPrivateParams_inTheClear_stranded_ed25519 :
    ∃ p', clearPrivateParams.run keyedEd25519Packet = .ok () p' ∧ Stranded p' ∧
      ([.write, .decrypt "pw", .encrypt cfbConfig zeroRandom "pw", .validate,
          .clearPrivateParams] : List Call).foldl (fun q c => c.run keyedPrims q) p' = p' :=
  have hclear : clearPrivateParams.run keyedEd25519Packet =
      .ok () (resultState (clearPrivateParams.run keyedEd25519Packet)) := rfl
  ⟨_, hclear, @clearPrivateParams_inTheClear_stranded keyedPrims keyedEd25519Packet _ rfl rfl rfl
    hclear _ (by simp)⟩

end SecretKeyPacket

end OpenPgp
