import OpenPgp.Packet.SecretKey
import OpenPgp.Packet.SessionKeyRoundTrip

/-!
# The lifecycle of a Secret-Key packet

A Secret-Key packet starts from a successful `read` of any octets or `generate`, and then goes
through any sequence of `encrypt`, `decrypt`, `clearPrivateParams`, `makeDummy`, `validate` and
`write` calls, each of which may throw part-way (`Reachable`). The invariant of spec §3 holds in
every such state (`Lifecycle`): a packet that is not a GNU dummy is encrypted exactly when it has no
private parameters, a dummy holds no secret material, and a packet with unparseable key material is
encrypted. A dummy is moreover a fixed point of every call.

Each method gets one lemma saying what it does to the fields the invariant reads, stated as a
weakest precondition (`wp`) so that it covers the states the method throws in as well.

* `reachable_lifecycle`: the invariant holds in every reachable state, and a dummy stays one.
-/

namespace OpenPgp

@[simp] theorem S2K.isGnuDummy_eq_true_iff (s2k : S2K) :
    s2k.isGnuDummy = true ↔ s2k = .gnuDummy := by
  cases s2k <;> simp [S2K.isGnuDummy]

namespace SecretKeyPacket

/-! ## The invariant -/

/-- The lifecycle invariant of spec §3. -/
structure Lifecycle (p : SecretKeyPacket) : Prop where
  encrypted_iff : p.isDummy = false →
    ∃ b, p.isEncrypted = some b ∧ (b = true ↔ p.privateParams = none)
  dummy : p.isDummy = true →
    p.privateParams = none ∧ p.keyMaterial = none ∧ p.unparseableKeyMaterial = none
  unparseable : p.unparseableKeyMaterial.isSome →
    p.isEncrypted = some true ∧ p.privateParams = none

theorem isDummy_eq_true_iff (p : SecretKeyPacket) : p.isDummy = true ↔ p.s2k = some .gnuDummy :=
  beq_iff_eq

theorem isDummy_eq_false_iff (p : SecretKeyPacket) :
    p.isDummy = false ↔ p.s2k ≠ some .gnuDummy := by
  simp [isDummy]

/-- A packet that is not a dummy keeps the invariant through any change to fields other than its
encryption state, private parameters and unparseable material that leaves it no dummy. -/
theorem Lifecycle.congr {p p' : SecretKeyPacket} (hp : Lifecycle p) (hd : p.isDummy = false)
    (hd' : p'.isDummy = false) (he : p'.isEncrypted = p.isEncrypted)
    (hpp : p'.privateParams = p.privateParams)
    (hu : p'.unparseableKeyMaterial = p.unparseableKeyMaterial) : Lifecycle p' where
  encrypted_iff _ := he ▸ hpp ▸ hp.encrypted_iff hd
  dummy h := by simp [hd'] at h
  unparseable h := he ▸ hpp ▸ hp.unparseable (hu ▸ h)

/-- A decrypted packet: private parameters and no unparseable material. -/
theorem Lifecycle.of_decrypted {p : SecretKeyPacket} (hd : p.isDummy = false)
    (he : p.isEncrypted = some false) (hpp : p.privateParams ≠ none)
    (hu : p.unparseableKeyMaterial = none) : Lifecycle p where
  encrypted_iff _ := ⟨false, he, by simpa using hpp⟩
  dummy h := by simp [hd] at h
  unparseable h := by simp [hu] at h

/-- An encrypted packet: no private parameters. -/
theorem Lifecycle.of_encrypted {p : SecretKeyPacket} (hd : p.isDummy = false)
    (he : p.isEncrypted = some true) (hpp : p.privateParams = none) : Lifecycle p where
  encrypted_iff _ := ⟨true, he, by simpa using hpp⟩
  dummy h := by simp [hd] at h
  unparseable _ := ⟨he, hpp⟩

/-- A GNU dummy: no secret material at all. -/
theorem Lifecycle.of_dummy {p : SecretKeyPacket} (hd : p.isDummy = true)
    (hpp : p.privateParams = none) (hk : p.keyMaterial = none)
    (hu : p.unparseableKeyMaterial = none) : Lifecycle p where
  encrypted_iff h := by simp [hd] at h
  dummy _ := ⟨hpp, hk, hu⟩
  unparseable h := by simp [hu] at h

/-- A decrypted packet that is not a dummy has private parameters and no unparseable material. -/
theorem Lifecycle.privateParams_of_isDecrypted {p : SecretKeyPacket} (hp : Lifecycle p)
    (hd : p.isDummy = false) (hdec : p.isDecrypted = true) :
    p.privateParams ≠ none ∧ p.unparseableKeyMaterial = none := by
  have he : p.isEncrypted = some false := beq_iff_eq.1 hdec
  obtain ⟨b, hb, hiff⟩ := hp.encrypted_iff hd
  rw [he, Option.some.injEq] at hb
  subst hb
  refine ⟨fun h => absurd (hiff.2 h) Bool.false_ne_true, ?_⟩
  cases hu : p.unparseableKeyMaterial with
  | none => rfl
  | some _ => simpa [he] using (hp.unparseable (by simp [hu])).1

/-- An encrypted packet that is not a dummy has no private parameters. -/
theorem Lifecycle.privateParams_of_not_isDecrypted {p : SecretKeyPacket} (hp : Lifecycle p)
    (hd : p.isDummy = false) (hdec : p.isDecrypted = false) : p.privateParams = none := by
  obtain ⟨b, hb, hiff⟩ := hp.encrypted_iff hd
  cases b
  · simp [isDecrypted, hb] at hdec
  · exact hiff.1 rfl

/-! ## One lemma per method -/

theorem newS2KFromConfig_ne_gnuDummy {config : Config} {random : Random} {s2k : S2K}
    (h : newS2KFromConfig config random = .ok s2k) : s2k ≠ .gnuDummy := by
  unfold newS2KFromConfig at h
  split_ifs at h <;> cases h <;> simp

/-- `encrypt` leaves a dummy as it is, and otherwise changes no field of the invariant but the
specifier, to a fresh one. -/
theorem encrypt_lifecycle (prims : Primitives) (config : Config) (random : Random)
    (passphrase : String) {p : SecretKeyPacket} (hp : Lifecycle p) :
    wp (encrypt prims config random passphrase) (fun _ => Lifecycle) (fun _ => Lifecycle) p := by
  simp only [encrypt, ↓wp_bind, ↓wp_get, ↓wp_ite, ↓wp_throw, ↓wp_pure, ↓wp_modify,
    ↓wp_liftExcept]
  by_cases hd : p.isDummy
  · simpa [hd] using hp
  by_cases hdec : p.isDecrypted
  swap
  · simpa [hd, hdec] using hp
  by_cases hpass : passphrase.isEmpty
  · simpa [hd, hdec, hpass] using hp
  simp only [hd, hdec, hpass, Bool.false_eq_true, if_false, Bool.not_true]
  split
  rotate_left
  · exact hp
  rename_i s2k hs2k
  have hd' : ∀ q : SecretKeyPacket, q.s2k = some s2k → q.isDummy = false := by
    intro q hq
    simp [isDummy, hq, newS2KFromConfig_ne_gnuDummy hs2k]
  simp only [Bool.not_eq_true] at hd
  split
  all_goals simp only [↓wp_bind, ↓wp_get, ↓wp_ite, ↓wp_throw, ↓wp_pure, ↓wp_modify,
    ↓wp_liftExcept]
  repeat' split
  all_goals exact hp.congr hd (hd' _ rfl) rfl rfl rfl

/-- `decrypt` ends decrypted, or throws without any assignment. -/
theorem decrypt_lifecycle (prims : Primitives) (passphrase : String) {p : SecretKeyPacket}
    (hp : Lifecycle p) :
    wp (decrypt prims passphrase) (fun _ => Lifecycle) (fun _ => Lifecycle) p := by
  simp only [decrypt, ↓wp_bind, ↓wp_get, ↓wp_ite, ↓wp_throw, ↓wp_pure, ↓wp_modify,
    ↓wp_liftExcept]
  by_cases hd : p.isDummy
  · simpa [hd] using hp
  cases hu : p.unparseableKeyMaterial with
  | some _ => simpa [hd, hu] using hp
  | none =>
    by_cases hdec : p.isDecrypted
    · simpa [hd, hu, hdec] using hp
    simp only [hd, hu, hdec, Bool.false_eq_true, if_false, Option.isSome_none]
    repeat' first
      | split
      | simp only [↓wp_bind, ↓wp_throw, ↓wp_pure, ↓wp_modify, ↓wp_liftExcept]
    all_goals first
      | exact hp
      | exact Lifecycle.of_decrypted (by simpa using hd) rfl (by simp) hu

/-- The key material after `fill(0)` of each field in turn, through the same views. -/
def fillAll (views : List (String × Nat)) : Params → Bytes → Bytes
  | [], keyMaterial => keyMaterial
  | (name, param) :: rest, keyMaterial =>
    fillAll views rest (fillShared views name param keyMaterial)

@[simp] theorem fillAll_nil (views : List (String × Nat)) : fillAll views [] = id := rfl

/-- Without views, `fill(0)` leaves the key material alone. -/
@[simp] theorem fillShared_nil_views (name : String) (param : Param) :
    fillShared [] name param = id := rfl

@[simp] theorem fillAll_nil_views (l : Params) : fillAll [] l = id := by
  induction l with
  | nil => rfl
  | cons field l ih => funext keyMaterial; simp [fillAll, ih]

/-- The loop of `clearPrivateParams` changes nothing but the private parameters, which stay a
record until the loop is over, and the key material they share. -/
theorem clearFields_privateParams (l : Params) (p : SecretKeyPacket) :
    wp (clearFields l)
      (fun _ q => ∃ rest, q = { p with
        keyMaterial := p.keyMaterial.map (fillAll p.keyMaterialViews l), privateParams := rest })
      (fun _ q => q = p ∨ ∃ keyMaterial rest,
        q = { p with keyMaterial, privateParams := some rest }) p := by
  induction l generalizing p with
  | nil =>
    refine ⟨p.privateParams, ?_⟩
    rw [fillAll_nil, Option.map_id]
    rfl
  | cons field l ih =>
    obtain ⟨name, param⟩ := field
    simp only [clearFields, wp_bind, wp_liftExcept, wp_modify]
    split
    · refine wp_mono (ih _) (fun _ _ ⟨rest, h⟩ => ⟨rest, by rw [h, Option.map_map]; rfl⟩)
        fun _ _ h => ?_
      rcases h with rfl | ⟨_, _, rfl⟩ <;> exact .inr ⟨_, _, rfl⟩
    · simp

/-- `clearPrivateParams` either leaves the packet as it was or, for a decrypted packet, ends with
no private parameters, encrypted; when it throws, the packet is still decrypted. -/
theorem clearPrivateParams_lifecycle {p : SecretKeyPacket} (hp : Lifecycle p) :
    wp clearPrivateParams
      (fun _ q => Lifecycle q ∧ (p.isMissingSecretKeyMaterial = false → q.privateParams = none))
      (fun _ => Lifecycle) p := by
  simp only [clearPrivateParams, ↓wp_bind, ↓wp_get, ↓wp_ite, ↓wp_pure, ↓wp_modify]
  by_cases hm : p.isMissingSecretKeyMaterial
  · simpa [hm] using hp
  simp only [isMissingSecretKeyMaterial, Bool.or_eq_true, Option.isSome_iff_exists, not_or,
    not_exists] at hm
  have hd : p.isDummy = false := by simpa using hm.2
  have hu : p.unparseableKeyMaterial = none := Option.eq_none_iff_forall_not_mem.2 hm.1
  obtain ⟨b, hb, hiff⟩ := hp.encrypted_iff hd
  have hm' : p.isMissingSecretKeyMaterial = false := by simp [isMissingSecretKeyMaterial, hu, hd]
  simp only [hm', Bool.false_eq_true, if_false]
  split
  · rename_i privateParams hpp
    have hb' : b = false := by
      cases b
      · rfl
      · simp [hiff.1 rfl] at hpp
    subst hb'
    simp only [wp_bind]
    refine wp_mono (clearFields_privateParams privateParams p) ?_ ?_
    · rintro _ q ⟨_, rfl⟩
      exact ⟨.of_encrypted hd rfl rfl, fun _ => rfl⟩
    · rintro _ q (rfl | ⟨_, _, rfl⟩)
      · exact hp
      · exact .of_decrypted hd hb (by simp) hu
  · simpa using hp

/-- `makeDummy` clears a decrypted packet's parameters before it makes it a dummy. -/
theorem makeDummy_lifecycle {p : SecretKeyPacket} (hp : Lifecycle p) :
    wp makeDummy (fun _ => Lifecycle) (fun _ => Lifecycle) p := by
  simp only [makeDummy, ↓wp_bind, ↓wp_get, ↓wp_ite, ↓wp_pure, ↓wp_modify]
  by_cases hd : p.isDummy
  · simpa [hd] using hp
  simp only [Bool.not_eq_true] at hd
  have hdummy : ∀ q : SecretKeyPacket, q.privateParams = none → Lifecycle { q with
      unparseableKeyMaterial := none, isEncrypted := none, keyMaterial := none,
      s2k := some .gnuDummy, s2kUsage := some 254, symmetric := some Symmetric.aes256,
      isLegacyAEAD := none, usedModernAEAD := none } :=
    fun q hq => .of_dummy rfl hq rfl rfl
  by_cases hdec : p.isDecrypted
  · have hu := (hp.privateParams_of_isDecrypted hd hdec).2
    have hm : p.isMissingSecretKeyMaterial = false := by simp [isMissingSecretKeyMaterial, hu, hd]
    simp only [hd, hdec, Bool.false_eq_true, if_false, if_true, wp_bind]
    exact wp_mono (clearPrivateParams_lifecycle hp) (fun _ q h => hdummy q (h.2 hm))
      (fun _ _ h => h)
  · simp only [Bool.not_eq_true] at hdec
    simpa [hd, hdec] using hdummy p (hp.privateParams_of_not_isDecrypted hd hdec)

/-- `validate` assigns nothing. -/
theorem validate_unchanged (prims : Primitives) (p : SecretKeyPacket) :
    wp (validate prims) (fun _ q => q = p) (fun _ q => q = p) p := by
  simp only [validate, ↓wp_bind, ↓wp_get, ↓wp_ite, ↓wp_throw, ↓wp_pure]
  split_ifs

/-- `write` assigns at most the key material of a packet that is not a dummy, a buffer of its
own. -/
theorem write_keyMaterial (p : SecretKeyPacket) :
    wp write
      (fun _ q => q = p ∨ p.isDummy = false ∧
        ∃ keyMaterial, q = { p with keyMaterial, keyMaterialViews := [] })
      (fun _ q => q = p ∨ p.isDummy = false ∧
        ∃ keyMaterial, q = { p with keyMaterial, keyMaterialViews := [] }) p := by
  simp only [write, ↓wp_bind, ↓wp_get, ↓wp_ite, ↓wp_throw, ↓wp_pure, ↓wp_modify,
    ↓wp_liftExcept]
  repeat' first
    | split
    | simp only [↓wp_bind, ↓wp_get, ↓wp_ite, ↓wp_throw, ↓wp_pure, ↓wp_modify, ↓wp_liftExcept]
  all_goals first
    | exact .inl trivial
    | exact .inr ⟨by simp_all, _, rfl⟩

/-! ## What the steps of `read` do -/

/-- The IV step of `read` assigns the legacy flag, the IV and the modern-AEAD flag, and nothing
else, whether it returns or throws. -/
theorem readIV_spec (config : Config) (bytes : Bytes) (p : SecretKeyPacket) (i : Nat) :
    wp (readIV config bytes)
      (fun _ q => ∃ isLegacyAEAD iv usedModernAEAD,
        q.1 = { p with isLegacyAEAD, iv, usedModernAEAD })
      (fun _ q => ∃ isLegacyAEAD iv usedModernAEAD,
        q.1 = { p with isLegacyAEAD, iv, usedModernAEAD }) (p, i) := by
  simp only [readIV, assign, advance, ↓wp_bind, ↓wp_get, ↓wp_ite, ↓wp_pure, ↓wp_modify,
    ↓wp_liftExcept]
  repeat' first
    | split
    | simp only [↓wp_bind, ↓wp_get, ↓wp_ite, ↓wp_pure, ↓wp_modify, ↓wp_liftExcept]
  all_goals exact ⟨_, _, _, rfl⟩

/-- The specifier step of `read` assigns the cipher, the AEAD mode and, once it is read, the
specifier, and returns whether that is a GNU dummy. -/
theorem readS2KSpecifier_spec (bytes : Bytes) (p : SecretKeyPacket) (i : Nat) :
    wp (readS2KSpecifier bytes)
      (fun b q => ∃ symmetric aead s2k, q.1 = { p with symmetric, aead, s2k := some s2k } ∧
        b = s2k.isGnuDummy)
      (fun _ q => ∃ symmetric aead, q.1 = { p with symmetric, aead }) (p, i) := by
  simp only [readS2KSpecifier, nextOctet, assign, advance, ↓wp_bind, ↓wp_get, ↓wp_ite, ↓wp_pure,
    ↓wp_modify, ↓wp_modifyGet, ↓wp_liftExcept]
  repeat' first
    | split
    | simp only [↓wp_bind, ↓wp_get, ↓wp_ite, ↓wp_pure, ↓wp_modify, ↓wp_modifyGet, ↓wp_liftExcept]
  all_goals first
    | exact ⟨_, _, rfl⟩
    | exact ⟨_, _, _, rfl, rfl⟩

/-- The `try` block of `read` assigns only the S2K fields and the IV. It reads a specifier only for
the usages 253 to 255, and it returns `true` only on a GNU dummy; when it throws after reading
one, the specifier is no dummy. -/
theorem readS2KFields_spec (config : Config) (bytes : Bytes) (p : SecretKeyPacket) (i : Nat) :
    wp (readS2KFields config bytes)
      (fun b q => ∃ symmetric aead s2k isLegacyAEAD iv usedModernAEAD,
        q.1 = { p with symmetric, aead, s2k, isLegacyAEAD, iv, usedModernAEAD } ∧
        (s2k = p.s2k ∧ b = false ∨
          (p.s2kUsage = some 255 ∨ p.s2kUsage = some 254 ∨ p.s2kUsage = some 253) ∧
            ∃ s, s2k = some s ∧ b = s.isGnuDummy))
      (fun _ q => ∃ symmetric aead s2k isLegacyAEAD iv usedModernAEAD,
        q.1 = { p with symmetric, aead, s2k, isLegacyAEAD, iv, usedModernAEAD } ∧
        (s2k = p.s2k ∨
          (p.s2kUsage = some 255 ∨ p.s2kUsage = some 254 ∨ p.s2kUsage = some 253) ∧
            ∃ s, s2k = some s ∧ s ≠ .gnuDummy)) (p, i) := by
  simp only [readS2KFields, assign, ↓wp_bind, ↓wp_get, ↓wp_ite, ↓wp_pure, ↓wp_modify]
  split
  · rename_i hu
    refine wp_mono (readS2KSpecifier_spec bytes p i) ?_
      fun _ _ ⟨_, _, hq⟩ => ⟨_, _, _, _, _, _, hq, .inl rfl⟩
    rintro b ⟨q, j⟩ ⟨symmetric, aead, s2k, rfl, rfl⟩
    split
    · exact ⟨_, _, _, _, _, _, rfl, .inr ⟨hu, _, rfl, (‹_› : s2k.isGnuDummy = true).symm⟩⟩
    · rename_i hdummy
      have hs : s2k ≠ .gnuDummy := fun h => hdummy (h ▸ rfl)
      split
      · refine wp_mono (readIV_spec config bytes _ j) ?_ ?_ <;>
          rintro _ ⟨q, k⟩ ⟨isLegacyAEAD, iv, usedModernAEAD, rfl⟩
        · exact ⟨_, _, _, _, _, _, rfl, .inr ⟨hu, _, rfl, (Bool.eq_false_iff.2 hdummy).symm⟩⟩
        · exact ⟨_, _, _, _, _, _, rfl, .inr ⟨hu, _, rfl, hs⟩⟩
      · exact ⟨_, _, _, _, _, _, rfl, .inr ⟨hu, _, rfl, (Bool.eq_false_iff.2 hdummy).symm⟩⟩
  · split
    · refine wp_mono (readIV_spec config bytes _ i) ?_ ?_ <;>
        rintro _ ⟨q, k⟩ ⟨isLegacyAEAD, iv, usedModernAEAD, rfl⟩
      · exact ⟨_, _, _, _, _, _, rfl, .inl ⟨rfl, trivial⟩⟩
      · exact ⟨_, _, _, _, _, _, rfl, .inl rfl⟩
    · exact ⟨_, _, _, _, _, _, rfl, .inl ⟨rfl, trivial⟩⟩

/-- The rest of `read` assigns the key material and the encryption flag, and for a key in the
clear the private parameters, which share the key material. -/
theorem readKeyMaterial_spec (prims : Primitives) (bytes : Bytes) (i : Nat) (p : SecretKeyPacket) :
    wp (readKeyMaterial prims bytes i)
      (fun _ q => ∃ keyMaterial,
        truthy p.s2kUsage = true ∧
          q = { p with keyMaterial, isEncrypted := some true, keyMaterialViews := [] } ∨
        truthy p.s2kUsage = false ∧
          ∃ privateParams,
            q = { p with
              keyMaterial, isEncrypted := some false, privateParams := some privateParams,
              keyMaterialViews := privateParamViews p.algorithm privateParams })
      (fun _ _ => True) p := by
  simp only [readKeyMaterial, ↓wp_bind, ↓wp_get, ↓wp_set, ↓wp_ite, ↓wp_throw, ↓wp_pure,
    ↓wp_modify]
  cases ht : truthy p.s2kUsage
  · simp only [Bool.not_false, if_true]
    repeat' first
      | split
      | simp only [↓wp_bind, ↓wp_ite, ↓wp_throw, ↓wp_pure, ↓wp_modify]
    all_goals first
      | trivial
      | exact ⟨_, .inr ⟨trivial, _, rfl⟩⟩
  · exact ⟨_, .inl ⟨rfl, rfl⟩⟩

/-! ## The initial states -/

/-- No field of the secret part that the invariant reads is set, as in a new packet. -/
def Blank (p : SecretKeyPacket) : Prop :=
  p.keyMaterial = none ∧ p.isEncrypted = none ∧ p.privateParams = none ∧
    p.unparseableKeyMaterial = none

theorem blank_new (tag version : Nat) (created : Bytes) (algorithm : Nat) :
    Blank (new tag version created algorithm) := ⟨rfl, rfl, rfl, rfl⟩

/-- A returning `readPublicKey` assigns the public part and nothing else. -/
theorem readPublicKey_frame (bytes : Bytes) (p : SecretKeyPacket) :
    wp (readPublicKey bytes)
      (fun _ q => ∃ version created algorithm publicParams,
        q = { p with version, created, algorithm, publicParams })
      (fun _ _ => True) p := by
  simp only [readPublicKey, ↓wp_bind, ↓wp_ite, ↓wp_throw, ↓wp_pure, ↓wp_modify, ↓wp_liftExcept]
  repeat' first
    | split
    | simp only [↓wp_bind, ↓wp_ite, ↓wp_throw, ↓wp_pure, ↓wp_modify, ↓wp_liftExcept]
  all_goals first
    | trivial
    | exact ⟨_, _, _, _, rfl⟩

/-- `readPublicKey` assigns public fields only. -/
theorem readPublicKey_blank (bytes : Bytes) {p : SecretKeyPacket} (hp : Blank p)
    (hs : p.s2k = none) :
    wp (readPublicKey bytes) (fun _ q => Blank q ∧ q.s2k = none) (fun _ _ => True) p :=
  wp_mono (readPublicKey_frame bytes p) (fun _ _ ⟨_, _, _, _, h⟩ => h ▸ ⟨hp, hs⟩) fun _ _ h => h

/-- The `try` block of `read` assigns S2K fields only; the specifier it reads, if any, is a GNU
dummy exactly when the block says so. -/
theorem readS2KFields_blank (config : Config) (bytes : Bytes) {p : SecretKeyPacket} (i : Nat)
    (hp : Blank p) (hs : p.s2k = none) :
    wp (readS2KFields config bytes)
      (fun b q => Blank q.1 ∧ q.1.isDummy = b ∧ q.1.s2kUsage = p.s2kUsage)
      (fun _ q => Blank q.1 ∧ q.1.isDummy = false ∧ q.1.s2kUsage = p.s2kUsage) (p, i) := by
  refine wp_mono (readS2KFields_spec config bytes p i) ?_ ?_
  · rintro b ⟨q, j⟩ ⟨_, _, _, _, _, _, rfl, ⟨rfl, rfl⟩ | ⟨-, s2k, rfl, rfl⟩⟩
    · exact ⟨hp, by simp [isDummy, hs], rfl⟩
    · exact ⟨hp, by cases s2k <;> rfl, rfl⟩
  · rintro _ ⟨q, j⟩ ⟨_, _, _, _, _, _, rfl, rfl | ⟨-, s2k, rfl, hs'⟩⟩
    · exact ⟨hp, by simp [isDummy, hs], rfl⟩
    · exact ⟨hp, by simpa [isDummy] using hs', rfl⟩

/-- The rest of `read` ends encrypted for a protected key and decrypted for a key in the clear. -/
theorem readKeyMaterial_lifecycle (prims : Primitives) (bytes : Bytes) (i : Nat)
    {p : SecretKeyPacket} (hd : p.isDummy = false) (hpp : p.privateParams = none)
    (hu : p.unparseableKeyMaterial.isSome → truthy p.s2kUsage = true) :
    wp (readKeyMaterial prims bytes i) (fun _ => Lifecycle) (fun _ _ => True) p := by
  refine wp_mono (readKeyMaterial_spec prims bytes i p) ?_ fun _ _ _ => trivial
  rintro _ q ⟨_, ⟨-, rfl⟩ | ⟨ht, _, rfl⟩⟩
  · exact .of_encrypted hd rfl hpp
  · have hu' : p.unparseableKeyMaterial = none := by
      cases h : p.unparseableKeyMaterial
      · rfl
      · simp [h, ht] at hu
    exact .of_decrypted hd rfl (by simp) hu'

/-- A successful `read` into a new packet ends in the invariant. -/
theorem read_lifecycle (prims : Primitives) (config : Config) (bytes : Bytes)
    {p : SecretKeyPacket} (hp : Blank p) (hs : p.s2k = none) :
    wp (read prims config bytes) (fun _ => Lifecycle) (fun _ _ => True) p := by
  simp only [read, wp_bind]
  refine wp_mono (readPublicKey_blank bytes hp hs) (fun i q hq => ?_) (fun _ _ _ => trivial)
  simp only [wp_modify, wp_get, wp_bind]
  obtain ⟨⟨hk, he, hpp, hu⟩, hqs⟩ := hq
  have hb := readS2KFields_blank config bytes
    (i + 1 + (if q.version = 5 then 1 else 0) +
      (if q.version = 6 ∧ truthy (byteAt bytes i) = true then 1 else 0))
    (show Blank { q with s2kUsage := byteAt bytes i } from ⟨hk, he, hpp, hu⟩) hqs
  unfold wp at hb
  split <;> rename_i q' j hrun <;> rw [hrun] at hb <;>
    obtain ⟨⟨hk', -, hpp', hu'⟩, hd', -⟩ := hb
  · exact Lifecycle.of_dummy hd' hpp' hk' hu'
  · rw [wp_bind, wp_set]
    exact readKeyMaterial_lifecycle prims bytes j hd' hpp' (fun h => by simp_all)
  · simp only [wp_bind, wp_set, wp_ite, wp_throw, wp_modify]
    split
    · trivial
    · rename_i ht
      exact readKeyMaterial_lifecycle prims bytes j hd' hpp' (fun _ => by simpa using ht)

/-- A returning `generate` stores the records `generateParams` returns, decrypted, in buffers of
their own. -/
theorem generate_spec (prims : Primitives) (random : Random) (bits : Nat) (curve : Option Curve)
    (symmetric : Nat) (p : SecretKeyPacket) :
    wp (generate prims random bits curve symmetric)
      (fun _ q => ∃ privateParams publicParams,
        generateParams prims random p.algorithm bits curve symmetric =
          .ok (privateParams, publicParams) ∧
        q = { p with
          privateParams := some privateParams, publicParams, isEncrypted := some false,
          keyMaterialViews := [] })
      (fun _ _ => True) p := by
  simp only [generate, ↓wp_bind, ↓wp_get, ↓wp_ite, ↓wp_throw, ↓wp_pure, ↓wp_modify,
    ↓wp_liftExcept]
  repeat' split
  all_goals first
    | trivial
    | exact ⟨_, _, ‹_›, rfl⟩

/-- A successful `generate` leaves a packet that is no dummy decrypted. -/
theorem generate_lifecycle (prims : Primitives) (random : Random) (bits : Nat)
    (curve : Option Curve) (symmetric : Nat) {p : SecretKeyPacket} (hd : p.isDummy = false)
    (hu : p.unparseableKeyMaterial = none) :
    wp (generate prims random bits curve symmetric) (fun _ => Lifecycle) (fun _ _ => True) p := by
  refine wp_mono (generate_spec prims random bits curve symmetric p) ?_ fun _ _ _ => trivial
  rintro _ q ⟨_, _, -, rfl⟩
  exact .of_decrypted hd rfl (by simp) hu

/-! ## Calls -/

/-- A call of a method of the packet, with its arguments. -/
inductive Call
  | encrypt (config : Config) (random : Random) (passphrase : String)
  | decrypt (passphrase : String)
  | clearPrivateParams
  | makeDummy
  | validate
  | write

/-- The packet after a call, which returned or threw. -/
def Call.run (prims : Primitives) : Call → SecretKeyPacket → SecretKeyPacket
  | .encrypt config random passphrase, p =>
    resultState ((SecretKeyPacket.encrypt prims config random passphrase).run p)
  | .decrypt passphrase, p => resultState ((SecretKeyPacket.decrypt prims passphrase).run p)
  | .clearPrivateParams, p => resultState (SecretKeyPacket.clearPrivateParams.run p)
  | .makeDummy, p => resultState (SecretKeyPacket.makeDummy.run p)
  | .validate, p => resultState ((SecretKeyPacket.validate prims).run p)
  | .write, p => resultState (SecretKeyPacket.write.run p)

/-- **Step lemma**: every call keeps the invariant, returning or throwing. -/
theorem Call.run_lifecycle (prims : Primitives) (c : Call) {p : SecretKeyPacket}
    (hp : Lifecycle p) : Lifecycle (c.run prims p) := by
  cases c with
  | encrypt config random passphrase =>
    exact resultState_of_wp (encrypt_lifecycle prims config random passphrase hp)
  | decrypt passphrase => exact resultState_of_wp (decrypt_lifecycle prims passphrase hp)
  | clearPrivateParams =>
    exact resultState_of_wp (wp_mono (clearPrivateParams_lifecycle hp) (fun _ _ h => h.1)
      (fun _ _ h => h))
  | makeDummy => exact resultState_of_wp (makeDummy_lifecycle hp)
  | validate =>
    exact resultState_of_wp (wp_mono (validate_unchanged prims p) (fun _ _ h => h ▸ hp)
      (fun _ _ h => h ▸ hp))
  | write =>
    have key : ∀ q : SecretKeyPacket, (q = p ∨ p.isDummy = false ∧
        ∃ keyMaterial, q = { p with keyMaterial, keyMaterialViews := [] }) → Lifecycle q := by
      rintro q (rfl | ⟨hd, keyMaterial, rfl⟩)
      · exact hp
      · exact hp.congr hd hd rfl rfl rfl
    exact resultState_of_wp (wp_mono (write_keyMaterial p) (fun _ => key) (fun _ => key))

/-- A GNU dummy is a fixed point of every call. -/
theorem Call.run_of_isDummy (prims : Primitives) (c : Call) {p : SecretKeyPacket}
    (hd : p.isDummy = true) : c.run prims p = p := by
  have hm : p.isMissingSecretKeyMaterial = true := by simp [isMissingSecretKeyMaterial, hd]
  cases c with
  | validate => exact resultState_of_wp (validate_unchanged prims p)
  | write =>
    have key : ∀ q : SecretKeyPacket, (q = p ∨ p.isDummy = false ∧
        ∃ keyMaterial, q = { p with keyMaterial, keyMaterialViews := [] }) → q = p := by
      rintro q (h | ⟨hd', -⟩)
      · exact h
      · simp [hd] at hd'
    exact resultState_of_wp (wp_mono (write_keyMaterial p) (fun _ => key) (fun _ => key))
  | _ =>
    refine resultState_eq_of_wp ?_
    simp only [SecretKeyPacket.encrypt, SecretKeyPacket.decrypt, SecretKeyPacket.clearPrivateParams,
      SecretKeyPacket.makeDummy, ↓wp_bind, ↓wp_get, ↓wp_ite, ↓wp_pure, hd, hm, ↓reduceIte]

/-! ## Reachable states -/

/-- The packets a successful `read` or `generate` into a new packet leads to, followed by any
calls, each returning or throwing. -/
inductive Reachable (prims : Primitives) : SecretKeyPacket → Prop
  | read {config : Config} {bytes : Bytes} {tag version : Nat} {created : Bytes}
      {algorithm : Nat} {p : SecretKeyPacket} :
      (read prims config bytes).run (new tag version created algorithm) = .ok () p →
      Reachable prims p
  | generate {random : Random} {bits : Nat} {curve : Option Curve} {symmetric tag version : Nat}
      {created : Bytes} {algorithm : Nat} {p : SecretKeyPacket} :
      (generate prims random bits curve symmetric).run (new tag version created algorithm) =
        .ok () p →
      Reachable prims p
  | call {p : SecretKeyPacket} (c : Call) : Reachable prims p → Reachable prims (c.run prims p)

/-- **The lifecycle invariant.** Every reachable packet is in one of the states of spec §3, and a
GNU dummy stays as it is whatever is called on it. -/
theorem reachable_lifecycle {prims : Primitives} {p : SecretKeyPacket} (h : Reachable prims p) :
    Lifecycle p ∧ (p.isDummy = true → ∀ c : Call, c.run prims p = p) := by
  refine ⟨?_, fun hd c => Call.run_of_isDummy prims c hd⟩
  induction h with
  | read hrun => exact wp_of_run_ok (read_lifecycle prims _ _ (blank_new ..) rfl) hrun
  | generate hrun =>
    exact wp_of_run_ok (@generate_lifecycle prims _ _ _ _ (new ..) rfl rfl) hrun
  | call c _ ih => exact Call.run_lifecycle prims c ih

/-- A v6 Ed25519 key in the clear: the public point, usage 0 and the seed. -/
def clearEd25519Key : Bytes :=
  [6, 0, 0, 0, 0, 27, 0, 0, 0, 32] ++ List.replicate 32 9 ++ [0] ++ List.replicate 32 4

/-- The key read under `transparentPrims` and made a GNU dummy. -/
theorem reachable_lifecycle_makeDummy :
    ∃ p, Reachable transparentPrims p ∧ p.isDummy = true ∧ Lifecycle p ∧
      ∀ c : Call, c.run transparentPrims p = p :=
  have h := Reachable.call .makeDummy
    (@Reachable.read transparentPrims PublicKeyEncryptedSessionKeyPacket.sampleConfig
      clearEd25519Key 5 6 [0, 0, 0, 0] 27 _ rfl)
  ⟨_, h, rfl, (reachable_lifecycle h).1, (reachable_lifecycle h).2 rfl⟩

end SecretKeyPacket

end OpenPgp
