import OpenPgp.Crypto.Validate

/-!
# The Secret-Key packet

`SecretKeyPacket` of `src/packet/secret_key.js`: a key packet's public part followed by its
secret-key material, in the clear or protected under a passphrase by CFB with a SHA-1 check or by
an AEAD mode (spec §4.5). The packet is a mutable object: every method reads and assigns fields of
`this`, and a method that throws keeps the assignments it made before the throw. So a method is an
`EStateM Err SecretKeyPacket` computation, and the state its run ends in, returned or thrown
(`resultState`), is the packet afterwards.

`readPublicKey` and `writePublicKey` are inherited from `PublicKeyPacket`
(`src/packet/public_key.js`, absent) and are modelled from RFC 9580 §5.5.2 and spec §4.3, which
forbids v6 keys under the deprecated Curve25519 OIDs. The S2K key derivation, the CFB and AEAD
modes, SHA-1 and HKDF are primitives.

`clearPrivateParams` zeroes each private buffer before deleting it. The buffers `read` parses from
a key in the clear are subarrays of `keyMaterial`, so the zeros land there too: the packet carries
which parameters share `keyMaterial`, and where (`keyMaterialViews`). One thing of the source is
not modelled: a specifier whose `read` throws is left in `this.s2k` half read, where the model
keeps the previous value; only `isDummy` looks at it on the paths that follow, and a half-read
specifier is never a GNU dummy.
-/

namespace OpenPgp

open PublicKeyAlgorithm

/-! ## Running a method

`wp x Q E s` is the weakest precondition of a method: run from `s`, `x` returns a value and a state
that satisfy `Q`, or throws an exception and a state that satisfy `E`. Its equations below compute
it through the method's body, statement by statement. -/

section Run

variable {ε σ α β : Type}

/-- The state a run ends in, whether it returns or throws. -/
def resultState : EStateM.Result ε σ α → σ
  | .ok _ s => s
  | .error _ s => s

/-- The weakest precondition of `x` for the postcondition `Q` and the exceptional one `E`. -/
def wp (x : EStateM ε σ α) (Q : α → σ → Prop) (E : ε → σ → Prop) (s : σ) : Prop :=
  match x.run s with
  | .ok a s' => Q a s'
  | .error e s' => E e s'

theorem resultState_of_wp {x : EStateM ε σ α} {P : σ → Prop} {s : σ}
    (h : wp x (fun _ => P) (fun _ => P) s) : P (resultState (x.run s)) := by
  unfold wp at h
  split at h <;> simp_all [resultState]

theorem resultState_eq_of_wp {x : EStateM ε σ α} {s s' : σ}
    (h : wp x (fun _ q => q = s') (fun _ q => q = s') s) : resultState (x.run s) = s' :=
  resultState_of_wp h

theorem wp_of_run_ok {x : EStateM ε σ α} {Q : α → σ → Prop} {E : ε → σ → Prop} {s s' : σ} {a : α}
    (h : wp x Q E s) (hrun : x.run s = .ok a s') : Q a s' := by
  unfold wp at h
  rwa [hrun] at h

/-- A method that cannot return, and can only throw `e` in `s'`, throws `e` in `s'`. -/
theorem run_eq_error_of_wp {x : EStateM ε σ α} {e : ε} {s s' : σ}
    (h : wp x (fun _ _ => False) (fun e' q => e' = e ∧ q = s') s) : x.run s = .error e s' := by
  unfold wp at h
  split at h
  · exact h.elim
  · obtain ⟨rfl, rfl⟩ := h
    assumption

theorem wp_eq_of_run {x : EStateM ε σ α} {s s' : σ} {a : α} (h : x.run s = .ok a s')
    (Q : α → σ → Prop) (E : ε → σ → Prop) : wp x Q E s = Q a s' := by
  unfold wp
  rw [h]

/-- A method that cannot throw, and can only return `a` in `s'`, returns `a` in `s'`. -/
theorem run_eq_ok_of_wp {x : EStateM ε σ α} {a : α} {s s' : σ}
    (h : wp x (fun a' q => a' = a ∧ q = s') (fun _ _ => False) s) : x.run s = .ok a s' := by
  unfold wp at h
  split at h
  · obtain ⟨rfl, rfl⟩ := h
    assumption
  · exact h.elim

theorem wp_mono {x : EStateM ε σ α} {Q Q' : α → σ → Prop} {E E' : ε → σ → Prop} {s : σ}
    (h : wp x Q E s) (hQ : ∀ a s', Q a s' → Q' a s') (hE : ∀ e s', E e s' → E' e s') :
    wp x Q' E' s := by
  unfold wp at *
  split at h <;> simp_all

@[simp] theorem wp_pure (a : α) (Q : α → σ → Prop) (E : ε → σ → Prop) (s : σ) :
    wp (pure a : EStateM ε σ α) Q E s = Q a s := rfl

@[simp] theorem wp_get (Q : σ → σ → Prop) (E : ε → σ → Prop) (s : σ) :
    wp (get : EStateM ε σ σ) Q E s = Q s s := rfl

@[simp] theorem wp_set (s' : σ) (Q : PUnit → σ → Prop) (E : ε → σ → Prop) (s : σ) :
    wp (set s' : EStateM ε σ PUnit) Q E s = Q ⟨⟩ s' := rfl

@[simp] theorem wp_modify (f : σ → σ) (Q : PUnit → σ → Prop) (E : ε → σ → Prop) (s : σ) :
    wp (modify f : EStateM ε σ PUnit) Q E s = Q ⟨⟩ (f s) := rfl

@[simp] theorem wp_modifyGet (f : σ → α × σ) (Q : α → σ → Prop) (E : ε → σ → Prop) (s : σ) :
    wp (modifyGet f : EStateM ε σ α) Q E s = Q (f s).1 (f s).2 := rfl

@[simp] theorem wp_throw (e : ε) (Q : α → σ → Prop) (E : ε → σ → Prop) (s : σ) :
    wp (throw e : EStateM ε σ α) Q E s = E e s := rfl

@[simp] theorem wp_liftExcept (x : Except ε α) (Q : α → σ → Prop) (E : ε → σ → Prop) (s : σ) :
    wp (liftExcept x : EStateM ε σ α) Q E s = match x with
      | .ok a => Q a s
      | .error e => E e s := by
  cases x <;> rfl

/-- A statement followed by the rest of the method: the rest's precondition is the statement's
postcondition. -/
@[simp] theorem wp_bind (x : EStateM ε σ α) (f : α → EStateM ε σ β) (Q : β → σ → Prop)
    (E : ε → σ → Prop) (s : σ) : wp (x >>= f) Q E s = wp x (fun a s' => wp (f a) Q E s') E s := by
  unfold wp
  show (match EStateM.bind x f s with | .ok a s' => Q a s' | .error e s' => E e s') =
    match x s with | .ok a s' => _ | .error e s' => _
  simp only [EStateM.bind]
  cases x s <;> rfl

/-- A statement whose value is mapped, as a method's last `return` after a statement is. -/
@[simp] theorem wp_map (f : α → β) (x : EStateM ε σ α) (Q : β → σ → Prop) (E : ε → σ → Prop)
    (s : σ) : wp (f <$> x) Q E s = wp x (fun a s' => Q (f a) s') E s := by
  unfold wp
  show (match EStateM.map f x s with | .ok a s' => Q a s' | .error e s' => E e s') =
    match x s with | .ok a s' => _ | .error e s' => _
  simp only [EStateM.map]
  cases x s <;> rfl

@[simp] theorem wp_ite (c : Prop) [Decidable c] (x y : EStateM ε σ α) (Q : α → σ → Prop)
    (E : ε → σ → Prop) (s : σ) :
    wp (if c then x else y) Q E s = if c then wp x Q E s else wp y Q E s := by
  split <;> rfl

/-! Runs of a method composed from the runs of its statements, for proofs that follow one path
through a method to an exact result. -/

theorem run_bind_of_ok {x : EStateM ε σ α} {f : α → EStateM ε σ β} {s s' : σ} {a : α}
    (h : x.run s = .ok a s') : (x >>= f).run s = (f a).run s' := by
  show EStateM.bind x f s = f a s'
  rw [EStateM.bind, show x s = .ok a s' from h]

theorem run_modify_bind (f : σ → σ) (k : PUnit → EStateM ε σ β) (s : σ) :
    (modify f >>= k).run s = (k ⟨⟩).run (f s) := rfl

theorem run_get_bind (k : σ → EStateM ε σ β) (s : σ) : (get >>= k).run s = (k s).run s := rfl

theorem run_set_bind (s' : σ) (k : PUnit → EStateM ε σ β) (s : σ) :
    (set s' >>= k).run s = (k ⟨⟩).run s' := rfl

end Run

/-! ## The packet -/

/-- The fields of a `SecretKeyPacket` its methods read or assign; `none` stands for both
`undefined` and `null`. A lookup keyed by an absent cipher or AEAD mode fails as it does for the
unregistered code 0. -/
structure SecretKeyPacket where
  /-- `this.constructor.tag`: `enums.packet.secretKey`, or 7 for a `SecretSubkeyPacket`. -/
  tag : Nat
  version : Nat
  /-- The creation time, as the four octets `util.writeDate` writes. -/
  created : Bytes
  algorithm : Nat
  publicParams : Params
  keyMaterial : Option Bytes
  isEncrypted : Option Bool
  s2kUsage : Option Nat
  s2k : Option S2K
  symmetric : Option Nat
  aead : Option Nat
  isLegacyAEAD : Option Bool
  privateParams : Option Params
  usedModernAEAD : Option Bool
  iv : Option Bytes
  unparseableKeyMaterial : Option Bytes
  /-- Not a field of the object: the private parameters that are subarrays of `keyMaterial`, by
  name, each with its offset there. `read` of a key in the clear leaves them so, and `fill(0)` on
  one of them zeroes those octets of `keyMaterial` too. Storing another buffer as `keyMaterial`, or
  other parameters beside it, ends the sharing. -/
  keyMaterialViews : List (String × Nat)

/-- `!!x` of a number that may be `undefined` or `null`. -/
def truthy : Option Nat → Bool
  | some n => n != 0
  | none => false

theorem truthy_eq_false_iff {x : Option Nat} : truthy x = false ↔ x = none ∨ x = some 0 := by
  cases x <;> simp [truthy]

/-- `new Uint8Array([x])` of a number that may be `undefined` or `null`, which convert to 0. -/
def octetOf (x : Option Nat) : UInt8 := UInt8.ofNat (x.getD 0)

/-- `${curve}` of a name of `enums.curve`, `undefined` for none. -/
def curveName : Option Curve → String
  | some .p256 => "nistP256"
  | some .p384 => "nistP384"
  | some .p521 => "nistP521"
  | some .secp256k1 => "secp256k1"
  | some .ed25519Legacy => "ed25519Legacy"
  | some .curve25519Legacy => "curve25519Legacy"
  | some .brainpoolP256r1 => "brainpoolP256r1"
  | some .brainpoolP384r1 => "brainpoolP384r1"
  | some .brainpoolP512r1 => "brainpoolP512r1"
  | none => "undefined"

/-- Modelled from the spec: `newS2KFromConfig(config)` followed by `s2k.generateSalt()`
(`src/type/s2k` is absent): an iterated and salted SHA-256 specifier with the configured count, or
an Argon2 specifier with the configured parameters, each with a fresh salt. Any other configured
type is unsupported. -/
def newS2KFromConfig (config : Config) (random : Random) : Except Err S2K :=
  if config.s2kType = S2KCode.iterated then
    .ok (.iterated Hash.sha256 (random.getRandomBytes 8) config.s2kIterationCountByte)
  else if config.s2kType = S2KCode.argon2 then
    .ok (.argon2 (random.getRandomBytes 16) config.s2kArgon2Params.1 config.s2kArgon2Params.2.1
      config.s2kArgon2Params.2.2)
  else .error (.unsupported "The S2K type set in the config is not supported.")

/-- `produceEncryptionKey(keyVersion, s2k, passphrase, cipherAlgo, aeadMode, serializedPacketTag,
isLegacyAEAD)`: the S2K key, and for modern AEAD on a v4 or v6 key its HKDF-SHA-256 expansion
bound to the packet tag, version, cipher and mode. -/
def produceEncryptionKey (prims : Primitives) (keyVersion : Nat) (s2k : Option S2K)
    (passphrase : String) (cipherAlgo aeadMode : Option Nat) (serializedPacketTag : Bytes)
    (isLegacyAEAD : Option Bool) : Except Err Bytes := do
  let some s2k := s2k | throw (.typeError "Cannot read properties of null (reading 'type')")
  if s2k.isArgon2 && !truthy aeadMode then
    throw (.error "Using Argon2 S2K without AEAD is not allowed")
  if s2k.isSimple && keyVersion == 6 then
    throw (.error "Using Simple S2K with version 6 keys is not allowed")
  let { keySize, .. } ← getCipherParams (cipherAlgo.getD 0)
  let derivedKey ← prims.produceKey s2k passphrase keySize
  if !truthy aeadMode || keyVersion == 5 || isLegacyAEAD == some true then
    return derivedKey
  let info := serializedPacketTag ++ [UInt8.ofNat keyVersion, octetOf cipherAlgo, octetOf aeadMode]
  return prims.computeHKDF Hash.sha256 derivedKey [] info keySize

/-- `param.fill(0)` of a private parameter: only a `Uint8Array` has `fill`. -/
def Param.fill : Param → Except Err Unit
  | .bytes _ => .ok ()
  | .object _ => .error (.typeError "param.fill is not a function")
  | .undefined => .error (.typeError "Cannot read properties of undefined (reading 'fill')")

namespace SecretKeyPacket

/-- `new SecretKeyPacket(date)` (a `SecretSubkeyPacket` for tag 7) of the given version, with the
algorithm its caller assigns before `generate`. -/
def new (tag version : Nat) (created : Bytes) (algorithm : Nat) : SecretKeyPacket where
  tag := tag
  version := version
  created := created
  algorithm := algorithm
  publicParams := []
  keyMaterial := none
  isEncrypted := none
  s2kUsage := some 0
  s2k := none
  symmetric := none
  aead := none
  isLegacyAEAD := none
  privateParams := none
  usedModernAEAD := none
  iv := none
  unparseableKeyMaterial := none
  keyMaterialViews := []

/-- `isDecrypted()`: `this.isEncrypted === false`. -/
def isDecrypted (p : SecretKeyPacket) : Bool := p.isEncrypted == some false

/-- `isDummy()`: the S2K specifier is a GNU dummy. -/
def isDummy (p : SecretKeyPacket) : Bool := p.s2k == some .gnuDummy

/-- `isMissingSecretKeyMaterial()`. -/
def isMissingSecretKeyMaterial (p : SecretKeyPacket) : Bool :=
  p.unparseableKeyMaterial.isSome || p.isDummy

/-! ## The public part -/

/-- Modelled from RFC 9580 §5.5.2 (`src/packet/public_key.js` is absent): `writePublicKey()`, the
version, creation time and algorithm, for v5 and v6 the four-octet length of the public
parameters, and the parameters. -/
def writePublicKey (p : SecretKeyPacket) : Except Err Bytes := do
  let params ← serializeParams p.algorithm p.publicParams
  pure ([UInt8.ofNat p.version] ++ p.created ++ [UInt8.ofNat p.algorithm] ++
    (if 5 ≤ p.version then writeNumber params.length 4 else []) ++ params)

/-- Whether a public record names the deprecated Ed25519Legacy or Curve25519Legacy OID. -/
def usesLegacyCurve25519 (publicParams : Params) : Bool :=
  match publicParams.get "oid" with
  | .object (.oid der) =>
    Curve.ofOid der == some .ed25519Legacy || Curve.ofOid der == some .curve25519Legacy
  | _ => false

/-- Modelled from RFC 9580 §5.5.2 (`src/packet/public_key.js` is absent): `readPublicKey(bytes)`
assigns the version, creation time, algorithm and public parameters, and returns the offset after
them. Versions other than 4, 5 and 6 are unsupported, and a v6 key under a deprecated Curve25519
OID is refused (spec §4.3, in the words of the published reader). -/
def readPublicKey (bytes : Bytes) : EStateM Err SecretKeyPacket Nat := do
  let some version := byteAt bytes 0
    | throw (.unsupported "Version undefined of the key packet is unsupported.")
  if version = 4 ∨ version = 5 ∨ version = 6 then
    let algorithm := (byteAt bytes 5).getD 0
    modify fun p => { p with version, created := slice bytes 1 5, algorithm }
    let pos := if 5 ≤ version then 10 else 6
    let (read, publicParams) ← liftExcept (parsePublicKeyParams algorithm (bytes.drop pos))
    if version = 6 ∧ usesLegacyCurve25519 publicParams then
      throw (.error "Legacy curve25519 cannot be used with v6 keys")
    modify fun p => { p with publicParams }
    return pos + read
  else throw (.unsupported ("Version " ++ toString version ++ " of the key packet is unsupported."))

/-! ## `read` -/

/-- `bytes[i++]` in `read`'s `try` block, whose state is the packet and the offset `i`. -/
def nextOctet (bytes : Bytes) : EStateM Err (SecretKeyPacket × Nat) (Option Nat) :=
  modifyGet fun (p, i) => (byteAt bytes i, (p, i + 1))

/-- An assignment to `this` in `read`'s `try` block. -/
def assign (f : SecretKeyPacket → SecretKeyPacket) : EStateM Err (SecretKeyPacket × Nat) Unit :=
  modify fun (p, i) => (f p, i)

/-- `i += n` in `read`'s `try` block. -/
def advance (n : Nat) : EStateM Err (SecretKeyPacket × Nat) Unit :=
  modify fun (p, i) => (p, i + n)

/-- The S2K fields of usages 255, 254 and 253 in `read`'s `try` block: the cipher, for 253 the AEAD
mode, for v6 the specifier's length octet, and the specifier. Returns whether it is a GNU dummy. -/
def readS2KSpecifier (bytes : Bytes) : EStateM Err (SecretKeyPacket × Nat) Bool := do
  let (p, _) ← get
  let symmetric ← nextOctet bytes
  assign fun p => { p with symmetric }
  if p.s2kUsage = some 253 then
    let aead ← nextOctet bytes
    assign fun p => { p with aead }
  advance (if p.version = 6 then 1 else 0)
  let s2kType ← nextOctet bytes
  let (_, i) ← get
  let (s2k, read) ← liftExcept (S2K.read s2kType (bytes.drop i))
  assign fun p => { p with s2k := some s2k }
  advance read
  return s2k.isGnuDummy

/-- The IV of a protected key in `read`'s `try` block: a cipher block, or for modern AEAD a nonce
of the mode, which also tells that the public key is authenticated. -/
def readIV (config : Config) (bytes : Bytes) : EStateM Err (SecretKeyPacket × Nat) Unit := do
  let (p, i) ← get
  let isLegacyAEAD := p.s2kUsage = some 253 ∧
    (p.version = 5 ∨ p.version = 4 ∧ config.parseAEADEncryptedV4KeysAsLegacy)
  assign fun p => { p with isLegacyAEAD := some isLegacyAEAD }
  if p.s2kUsage ≠ some 253 ∨ isLegacyAEAD then
    let { blockSize, .. } ← liftExcept (getCipherParams (p.symmetric.getD 0))
    let iv := slice bytes i (i + blockSize)
    assign fun p => { p with iv, usedModernAEAD := some false }
    advance iv.length
  else
    let ivLength ← liftExcept (getAEADMode (p.aead.getD 0) false)
    let iv := slice bytes i (i + ivLength)
    assign fun p => { p with iv, usedModernAEAD := some true }
    advance iv.length

/-- The `try` block of `read`: the S2K fields, a legacy usage standing for its cipher, and the IV.
Returns `true` on a GNU dummy, for which `read` returns at once. -/
def readS2KFields (config : Config) (bytes : Bytes) :
    EStateM Err (SecretKeyPacket × Nat) Bool := do
  let (p, _) ← get
  if p.s2kUsage = some 255 ∨ p.s2kUsage = some 254 ∨ p.s2kUsage = some 253 then
    if ← readS2KSpecifier bytes then return true
  else if truthy p.s2kUsage then
    assign fun p => { p with symmetric := p.s2kUsage }
  if truthy p.s2kUsage then readIV config bytes
  return false

/-- The offsets of consecutive MPIs from `offset`: `readMPI` returns the octets after the
two-octet length as a subarray. -/
def mpiViews : Nat → Params → List (String × Nat)
  | _, [] => []
  | offset, (name, param) :: rest =>
    let length := match param with
      | .bytes b => b.length
      | _ => 0
    (name, offset + 2) :: mpiViews (offset + 2 + length) rest

/-- The offsets of consecutive fields cut by `readExactSubarray` or a bare `subarray`. -/
def exactViews : Nat → Params → List (String × Nat)
  | _, [] => []
  | offset, (name, param) :: rest =>
    let length := match param with
      | .bytes b => b.length
      | _ => 0
    (name, offset) :: exactViews (offset + length) rest

/-- The fields `parsePrivateKeyParams` returns as subarrays of its input, with their offsets. The
ECDSA and ECDH scalar and the EdDSA-legacy seed are copies (`leftPad`), and the ML-KEM and ML-DSA
secret keys are expanded from their seeds, which follow the 32-octet elliptic secret. -/
def privateParamViews (algo : Nat) (privateParams : Params) : List (String × Nat) :=
  match ofCode algo with
  | some rsaEncrypt | some rsaEncryptSign | some rsaSign | some dsa | some elgamal =>
    mpiViews 0 privateParams
  | some ed25519 | some ed448 | some x25519 | some x448 | some hmac | some .aead =>
    exactViews 0 privateParams
  | some pqcMlkemX25519 => [("eccSecretKey", 0), ("mlkemSeed", 32)]
  | some pqcMldsaEd25519 => [("eccSecretKey", 0), ("mldsaSeed", 32)]
  | _ => []

/-- The rest of `read` from offset `i`: the key material, and for a key in the clear its checksum
(before v6) and its private parameters, which must take all of it. The parameters are subarrays
of the key material. -/
def readKeyMaterial (prims : Primitives) (bytes : Bytes) (i : Nat) :
    EStateM Err SecretKeyPacket Unit := do
  let p ← get
  let keyMaterial := bytes.drop (if p.version = 5 then i + 4 else i)
  let isEncrypted := truthy p.s2kUsage
  set { p with
    keyMaterial := some keyMaterial, isEncrypted := some isEncrypted, keyMaterialViews := [] }
  if !isEncrypted then
    let cleartext :=
      if p.version = 6 then keyMaterial else keyMaterial.take (keyMaterial.length - 2)
    if p.version ≠ 6 ∧ writeChecksum cleartext ≠ keyMaterial.drop (keyMaterial.length - 2) then
      throw (.error "Key checksum mismatch")
    match parsePrivateKeyParams prims p.algorithm cleartext p.publicParams with
    | .ok (read, privateParams) =>
      if read < cleartext.length then throw (.error "Error reading MPIs")
      modify fun p => { p with
        privateParams := some privateParams,
        keyMaterialViews := privateParamViews p.algorithm privateParams }
    | .error err =>
      throw (if err.kind = .unsupported then err else .error "Error reading MPIs")

/-- `read(bytes, config)`. When the `try` block throws on a protected key, the secret part is kept
verbatim as `unparseableKeyMaterial` and reading goes on from where the block stopped. -/
def read (prims : Primitives) (config : Config) (bytes : Bytes) :
    EStateM Err SecretKeyPacket Unit := do
  let i ← readPublicKey bytes
  let startOfSecretKeyData := i
  modify fun p => { p with s2kUsage := byteAt bytes i }
  let p ← get
  let i := i + 1 + (if p.version = 5 then 1 else 0) +
    (if p.version = 6 ∧ truthy p.s2kUsage then 1 else 0)
  match (readS2KFields config bytes).run (p, i) with
  | .ok true (p, _) => set p
  | .ok false (p, i) =>
    set p
    readKeyMaterial prims bytes i
  | .error e (p, i) =>
    set p
    if !truthy p.s2kUsage then throw e
    modify fun p => { p with
      unparseableKeyMaterial := some (bytes.drop startOfSecretKeyData), isEncrypted := some true }
    readKeyMaterial prims bytes i

/-! ## `write` -/

/-- The optional fields `write` puts after the usage octet: for usages 255, 254 and 253 the cipher,
for 253 the AEAD mode, for v6 the specifier's length, and the specifier; then the IV of a
protected key that is not a GNU dummy. -/
def writeOptionalFields (p : SecretKeyPacket) : Except Err Bytes := do
  let s2kFields ← if p.s2kUsage = some 255 ∨ p.s2kUsage = some 254 ∨ p.s2kUsage = some 253 then do
      let some s2k := p.s2k | throw (.typeError "Cannot read properties of null (reading 'write')")
      pure ([octetOf p.symmetric] ++ (if p.s2kUsage = some 253 then [octetOf p.aead] else []) ++
        (if p.version = 6 then [UInt8.ofNat s2k.write.length] else []) ++ s2k.write)
    else pure []
  let ivField ← if truthy p.s2kUsage then do
      let some s2k := p.s2k | throw (.typeError "Cannot read properties of null (reading 'type')")
      if s2k.isGnuDummy then pure [] else do
        let some iv := p.iv
          | throw <|
              .typeError "Spread syntax requires ...iterable[Symbol.iterator] to be a function"
        pure iv
    else pure []
  return s2kFields ++ ivField

/-- `write()`. For a key in the clear the key material is first re-serialized from the private
parameters, an assignment that stays. -/
def write : EStateM Err SecretKeyPacket Bytes := do
  let p ← get
  let serializedPublicKey ← liftExcept p.writePublicKey
  if let some unparseableKeyMaterial := p.unparseableKeyMaterial then
    return serializedPublicKey ++ unparseableKeyMaterial
  let optionalFieldsArr ← liftExcept p.writeOptionalFields
  let arr := serializedPublicKey ++ [octetOf p.s2kUsage] ++
    (if p.version = 5 ∨ p.version = 6 ∧ truthy p.s2kUsage then
      [UInt8.ofNat optionalFieldsArr.length] else []) ++ optionalFieldsArr
  if p.isDummy then return arr
  if !truthy p.s2kUsage then
    let some privateParams := p.privateParams
      | throw (.typeError "Cannot convert undefined or null to object")
    let keyMaterial ← liftExcept (serializeParams p.algorithm privateParams)
    modify fun p => { p with keyMaterial := some keyMaterial, keyMaterialViews := [] }
  let some keyMaterial := (← get).keyMaterial
    | throw (.typeError "Cannot read properties of null (reading 'length')")
  return arr ++ (if p.version = 5 then writeNumber keyMaterial.length 4 else []) ++ keyMaterial ++
    (if !truthy p.s2kUsage ∧ p.version ≠ 6 then writeChecksum keyMaterial else [])

/-! ## Removing the secret -/

/-- `fill(0)` through a subarray of `length` octets at `offset`: those octets of the whole buffer
become zero, and the others stay. -/
def zeroRange (offset length : Nat) (bytes : Bytes) : Bytes :=
  bytes.take offset ++ ((bytes.drop offset).take length).map (fun _ => 0) ++
    bytes.drop (offset + length)

/-- What `fill(0)` of the private parameter `name` does to the key material: where the parameter
is a subarray of it, those octets become zero. -/
def fillShared (views : List (String × Nat)) (name : String) (param : Param)
    (keyMaterial : Bytes) : Bytes :=
  match views.lookup name, param with
  | some offset, .bytes b => zeroRange offset b.length keyMaterial
  | _, _ => keyMaterial

/-- The `forEach` of `clearPrivateParams`, over the record's fields in key order: each field is
zeroed, with the octets of `keyMaterial` it shares, and deleted, so one without `fill` throws with
itself and the fields after it left. -/
def clearFields : Params → EStateM Err SecretKeyPacket Unit
  | [] => pure ()
  | (name, param) :: rest => do
    liftExcept param.fill
    modify fun p => { p with
      keyMaterial := p.keyMaterial.map (fillShared p.keyMaterialViews name param),
      privateParams := some rest }
    clearFields rest

/-- `clearPrivateParams()`. -/
def clearPrivateParams : EStateM Err SecretKeyPacket Unit := do
  let p ← get
  if p.isMissingSecretKeyMaterial then return
  let some privateParams := p.privateParams
    | throw (.typeError "Cannot convert undefined or null to object")
  clearFields privateParams
  modify fun p => { p with privateParams := none, isEncrypted := some true }

/-- `makeDummy(config)`: a GNU-dummy skeleton without secret material. The configuration only
seeds fields of the specifier that the dummy overwrites. -/
def makeDummy : EStateM Err SecretKeyPacket Unit := do
  if (← get).isDummy then return
  if (← get).isDecrypted then clearPrivateParams
  modify fun p => { p with
    unparseableKeyMaterial := none, isEncrypted := none, keyMaterial := none,
    s2k := some .gnuDummy, s2kUsage := some 254, symmetric := some Symmetric.aes256,
    isLegacyAEAD := none, usedModernAEAD := none }

/-! ## Passphrase protection -/

/-- `encrypt(passphrase, config)`: AES-256 under a fresh S2K key, with the configured AEAD mode
(usage 253) or with CFB and a SHA-1 check (usage 254). The packet stays decrypted: the private
parameters are kept until `clearPrivateParams`. -/
def encrypt (prims : Primitives) (config : Config) (random : Random) (passphrase : String) :
    EStateM Err SecretKeyPacket Unit := do
  let p ← get
  if p.isDummy then return
  if !p.isDecrypted then throw (.error "Key packet is already encrypted")
  if passphrase.isEmpty then
    throw (.error "A non-empty passphrase is required for key encryption.")
  let s2k ← liftExcept (newS2KFromConfig config random)
  modify fun p => { p with s2k := some s2k }
  let some privateParams := p.privateParams
    | throw (.typeError "Cannot convert undefined or null to object")
  let cleartext ← liftExcept (serializeParams p.algorithm privateParams)
  modify fun p => { p with symmetric := some Symmetric.aes256 }
  let { blockSize, .. } ← liftExcept (getCipherParams Symmetric.aes256)
  if config.aeadProtect then
    modify fun p => { p with s2kUsage := some 253, aead := some config.preferredAEADAlgorithm }
    let ivLength ← liftExcept (getAEADMode config.preferredAEADAlgorithm false)
    let isLegacyAEAD := p.version = 5
    modify fun p => { p with
      isLegacyAEAD := some isLegacyAEAD, usedModernAEAD := some !isLegacyAEAD }
    let serializedPacketTag := writeTag p.tag
    let key ← liftExcept (produceEncryptionKey prims p.version (some s2k) passphrase
      (some Symmetric.aes256) (some config.preferredAEADAlgorithm) serializedPacketTag
      (some isLegacyAEAD))
    let iv := random.getRandomBytes (if isLegacyAEAD then blockSize else ivLength)
    modify fun p => { p with iv := some iv }
    let associateData ← if isLegacyAEAD then pure [] else do
      let publicKey ← liftExcept p.writePublicKey
      pure (serializedPacketTag ++ publicKey)
    let keyMaterial ← liftExcept (prims.aeadEncrypt config.preferredAEADAlgorithm Symmetric.aes256
      key cleartext (iv.take ivLength) associateData)
    modify fun p => { p with keyMaterial := some keyMaterial, keyMaterialViews := [] }
  else
    modify fun p => { p with s2kUsage := some 254, usedModernAEAD := some false }
    let key ← liftExcept (produceEncryptionKey prims p.version (some s2k) passphrase
      (some Symmetric.aes256) none [] none)
    let iv := random.getRandomBytes blockSize
    modify fun p => { p with iv := some iv }
    let keyMaterial := prims.cfbEncrypt Symmetric.aes256 key
      (cleartext ++ prims.computeDigest Hash.sha1 cleartext) iv
    modify fun p => { p with keyMaterial := some keyMaterial, keyMaterialViews := [] }

/-- The `try` block of `decrypt` for usage 253: AEAD decryption of the key material, with the
packet tag and public key as associated data unless the key uses the legacy format. -/
def aeadDecryptKeyMaterial (prims : Primitives) (p : SecretKeyPacket) (key : Bytes)
    (ivLength : Nat) : Except Err Bytes := do
  let associateData ← if p.isLegacyAEAD = some true then pure [] else do
    let publicKey ← p.writePublicKey
    pure (writeTag p.tag ++ publicKey)
  let some iv := p.iv
    | throw (.typeError "Cannot read properties of undefined (reading 'subarray')")
  let some keyMaterial := p.keyMaterial
    | throw (.typeError "Cannot read properties of null (reading 'length')")
  prims.aeadDecrypt (p.aead.getD 0) (p.symmetric.getD 0) key keyMaterial (iv.take ivLength)
    associateData

/-- The CFB branch of `decrypt`: the key material decrypted, less the SHA-1 digest that must end
it. -/
def cfbDecryptKeyMaterial (prims : Primitives) (p : SecretKeyPacket) (key : Bytes) :
    Except Err Bytes := do
  let some keyMaterial := p.keyMaterial
    | throw (.typeError "Cannot read properties of null (reading 'length')")
  let some iv := p.iv | throw (.typeError "Cannot read properties of undefined (reading 'length')")
  let cleartextWithHash := prims.cfbDecrypt (p.symmetric.getD 0) key keyMaterial iv
  let cleartext := cleartextWithHash.take (cleartextWithHash.length - 20)
  let hash := prims.computeDigest Hash.sha1 cleartext
  if hash ≠ cleartextWithHash.drop (cleartextWithHash.length - 20) then
    throw (.error "Incorrect key passphrase")
  return cleartext

/-- `decrypt(passphrase)`: `false` for a GNU dummy, `undefined` otherwise. Only usages 253 and 254
are decrypted; the legacy ones are refused as insecure. -/
def decrypt (prims : Primitives) (passphrase : String) :
    EStateM Err SecretKeyPacket (Option Bool) := do
  let p ← get
  if p.isDummy then return some false
  if p.unparseableKeyMaterial.isSome then
    throw (.error "Key packet cannot be decrypted: unsupported S2K or cipher algo")
  if p.isDecrypted then throw (.error "Key packet is already decrypted.")
  let serializedPacketTag := writeTag p.tag
  let key ← if p.s2kUsage = some 254 ∨ p.s2kUsage = some 253 then
      liftExcept (produceEncryptionKey prims p.version p.s2k passphrase p.symmetric p.aead
        serializedPacketTag p.isLegacyAEAD)
    else if p.s2kUsage = some 255 then
      throw (.error "Encrypted private key is authenticated using an insecure two-byte hash")
    else throw (.error "Private key is encrypted using an insecure S2K function: unsalted MD5")
  let cleartext ← if p.s2kUsage = some 253 then do
      let ivLength ← liftExcept (getAEADMode (p.aead.getD 0) true)
      match aeadDecryptKeyMaterial prims p key ivLength with
      | .ok cleartext => pure cleartext
      | .error err =>
        throw (if err.message = "Authentication tag mismatch" then
          .error ("Incorrect key passphrase: " ++ err.message) else err)
    else liftExcept (cfbDecryptKeyMaterial prims p key)
  match parsePrivateKeyParams prims p.algorithm cleartext p.publicParams with
  | .ok (_, privateParams) => modify fun p => { p with privateParams := some privateParams }
  | .error _ => throw (.error "Error reading MPIs")
  modify fun p => { p with
    isEncrypted := some false, keyMaterial := none, s2kUsage := some 0, aead := none,
    symmetric := none, isLegacyAEAD := none }
  return none

/-! ## Validation and generation -/

/-- `validate()`: nothing to check on a GNU dummy or after modern AEAD decryption; otherwise the
parameters must validate, an exception counting as invalid. -/
def validate (prims : Primitives) : EStateM Err SecretKeyPacket Unit := do
  let p ← get
  if p.isDummy then return
  if !p.isDecrypted then throw (.error "Key is not decrypted")
  if p.usedModernAEAD = some true then return
  let validParams :=
    match validateParams prims p.algorithm (some p.publicParams) p.privateParams with
    | .ok validParams => validParams
    | .error _ => false
  if !validParams then throw (.error "Key is invalid")

/-- `generate(bits, curve, symmetric)`: fresh parameters for the packet's algorithm, which leave
it decrypted. v6 keys refuse the legacy curves and older keys the ML-DSA composite. -/
def generate (prims : Primitives) (random : Random) (bits : Nat) (curve : Option Curve)
    (symmetric : Nat) : EStateM Err SecretKeyPacket Unit := do
  let p ← get
  if p.version = 6 ∧
      (p.algorithm = ecdh.code ∧ curve = some .curve25519Legacy ∨
        p.algorithm = eddsaLegacy.code) then
    throw (.error ("Cannot generate v6 keys of type 'ecc' with curve " ++ curveName curve ++
      ". Generate a key of type 'curve25519' instead"))
  if p.version ≠ 6 ∧ p.algorithm = pqcMldsaEd25519.code then
    throw (.error ("Cannot generate v" ++ toString p.version ++
      " signing keys of type 'pqc'. Generate a v6 key instead"))
  let (privateParams, publicParams) ←
    liftExcept (generateParams prims random p.algorithm bits curve symmetric)
  modify fun p => { p with
    privateParams := some privateParams, publicParams, isEncrypted := some false,
    keyMaterialViews := [] }

end SecretKeyPacket

end OpenPgp
