import OpenPgp.Packet.SecretKeyCleartext

/-!
# Round trips of the Secret-Key packet

`write` and `read` of `src/packet/secret_key.js` undo each other on the keys that `generate`,
`encrypt` and `decrypt` leave, and `decrypt` undoes `encrypt`:

* `readPublicKey_writePublicKey`: the public part reads back from its serialization;
* `read_write_inTheClear`: a decrypted key stored in the clear, written and read into a new
  packet, comes back with its public part and private parameters;
* `read_write_protected`: a protected key, written and read into any packet, comes back with its
  public part, protection fields and key material;
* `write_read_write_protected`: a packet read from the octets of a protected key writes the same
  octets again;
* `read_write_dummy`, `read_write_makeDummy`: a GNU dummy, and so any key `makeDummy` returns,
  comes back a dummy with its public part, and `read` takes neither IV nor key material;
* `decrypt_after_encrypt`: `decrypt` with the passphrase of a returning `encrypt` gives back the
  private parameters the packet had;
* `decrypt_read_write_encrypt`: the same through `write` and a `read` into a new packet of the
  same tag: the key comes back decrypted, with its public part and private parameters.

Two guards are named rather than assumed away, each because the statement is false without it. In
memory a CFB `encrypt` must find no AEAD mode in the packet (`decrypt_after_aead_then_cfb`); on
the wire usage 254 carries no mode octet, so the stale mode is gone. And a reader configured to
parse AEAD-protected v4 keys as legacy (`parseAEADEncryptedV4KeysAsLegacy`) reads a v4 key
protected with modern AEAD as a legacy one, with an IV of the wrong length.
-/

namespace OpenPgp

open PublicKeyAlgorithm

namespace SecretKeyPacket

/-! ## The public part -/

/-- The public parts `readPublicKey` reads back: a supported version, a creation time of four
octets, public parameters well formed for the algorithm, and for v6 no deprecated Curve25519
OID. -/
structure PublicPartWF (p : SecretKeyPacket) (a : PublicKeyAlgorithm) : Prop where
  version : p.version = 4 ∨ p.version = 5 ∨ p.version = 6
  created : p.created.length = 4
  algorithm : p.algorithm = a.code
  publicParams : PublicParamsWF a p.publicParams
  legacyCurve25519 : p.version = 6 → usesLegacyCurve25519 p.publicParams = false

/-- **The public part reads back.** `readPublicKey` of the serialized public part, whatever
follows it, assigns the version, creation time, algorithm and public parameters it was written
from, and returns the offset after it. -/
theorem readPublicKey_writePublicKey {p : SecretKeyPacket} {a : PublicKeyAlgorithm}
    (hp : PublicPartWF p a) (t : Bytes) (r : SecretKeyPacket) :
    ∃ publicKey, p.writePublicKey = .ok publicKey ∧
      (readPublicKey (publicKey ++ t)).run r = .ok publicKey.length
        { r with
          version := p.version, created := p.created, algorithm := p.algorithm,
          publicParams := p.publicParams } := by
  obtain ⟨params, hser, hparse⟩ := parsePublicKeyParams_serializeParams hp.publicParams t
  obtain ⟨c₀, c₁, c₂, c₃, hc⟩ : ∃ c₀ c₁ c₂ c₃, p.created = [c₀, c₁, c₂, c₃] := by
    match p.created, hp.created with
    | [c₀, c₁, c₂, c₃], _ => exact ⟨c₀, c₁, c₂, c₃, rfl⟩
  have ha := a.code_lt
  refine ⟨_, by rw [writePublicKey, hp.algorithm, hser]; rfl, ?_⟩
  refine run_eq_ok_of_wp ?_
  rcases hp.version with hv | hv | hv <;>
    simp [readPublicKey, ↓wp_bind, byteAt, hv, hc, hp.algorithm, slice,
      UInt8.toNat_ofNat_of_lt ha, UInt8.size, List.drop_append_eq_append_drop, hparse,
      hp.legacyCurve25519] <;>
    omega

/-! ## A key in the clear -/

/-- `write` of a decrypted key stored in the clear: the public part, usage 0, for v5 a zero count
of optional fields and the length of the key material, then the serialized private parameters
and, before v6, their checksum. The serialization is kept as key material, a buffer of its
own. -/
theorem write_inTheClear_run {p : SecretKeyPacket} {privateParams : Params}
    {publicKey cleartext : Bytes} (hd : p.isDummy = false) (hu : p.unparseableKeyMaterial = none)
    (hs : truthy p.s2kUsage = false) (hpp : p.privateParams = some privateParams)
    (hpub : p.writePublicKey = .ok publicKey)
    (hser : serializeParams p.algorithm privateParams = .ok cleartext) :
    write.run p = .ok (publicKey ++ ([0] ++
      (if p.version = 5 then [0] ++ writeNumber cleartext.length 4 else []) ++ cleartext ++
        if p.version = 6 then [] else writeChecksum cleartext))
      { p with keyMaterial := some cleartext, keyMaterialViews := [] } := by
  have hu0 : octetOf p.s2kUsage = 0 ∧ p.s2kUsage ≠ some 255 ∧ p.s2kUsage ≠ some 254 ∧
      p.s2kUsage ≠ some 253 := by
    rcases truthy_eq_false_iff.1 hs with h | h <;> simp [h, octetOf]
  have ho : p.writeOptionalFields = .ok [] := by
    simp [writeOptionalFields, hs, hu0]
  refine run_eq_ok_of_wp ?_
  simp only [write, ↓wp_bind, ↓wp_get, ↓wp_ite, ↓wp_throw, ↓wp_pure, ↓wp_modify,
    ↓wp_liftExcept, hd, hu, hs, hpp, hser, hpub, ho, hu0, Bool.not_false, if_true,
    Bool.false_eq_true, if_false]
  refine ⟨?_, trivial⟩
  by_cases h5 : p.version = 5 <;> by_cases h6 : p.version = 6 <;> simp [h5, h6]

/-- **A key in the clear survives the wire.** `write` of a decrypted key stored in the clear
returns, and `read` of its output, into any packet, assigns the public part, usage 0 and the
private parameters it was written from, and keeps the octets after the usage as key material,
which the parameters read are subarrays of. -/
theorem read_write_inTheClear {prims : Primitives} {config : Config} {p : SecretKeyPacket}
    {a : PublicKeyAlgorithm} {privateParams : Params} (hp : PublicPartWF p a)
    (hwf : PrivateParamsWF prims p.publicParams a privateParams) (hd : p.isDummy = false)
    (hu : p.unparseableKeyMaterial = none) (hs : truthy p.s2kUsage = false)
    (hpp : p.privateParams = some privateParams) (r : SecretKeyPacket) :
    ∃ bytes cleartext,
      write.run p = .ok bytes { p with keyMaterial := some cleartext, keyMaterialViews := [] } ∧
      (read prims config bytes).run r = .ok ()
        { r with
          version := p.version, created := p.created, algorithm := p.algorithm,
          publicParams := p.publicParams, s2kUsage := some 0, isEncrypted := some false,
          privateParams := some privateParams,
          keyMaterial := some (cleartext ++
            if p.version = 6 then [] else writeChecksum cleartext),
          keyMaterialViews := privateParamViews p.algorithm privateParams } := by
  obtain ⟨cleartext, hser, hparse⟩ := parsePrivateKeyParams_serializeParams hwf []
  rw [List.append_nil] at hparse
  obtain ⟨publicKey, hpub, hread⟩ := readPublicKey_writePublicKey hp ([0] ++
    (if p.version = 5 then [0] ++ writeNumber cleartext.length 4 else []) ++ cleartext ++
      if p.version = 6 then [] else writeChecksum cleartext) r
  refine ⟨_, cleartext, write_inTheClear_run hd hu hs hpp hpub (hp.algorithm ▸ hser), ?_⟩
  have hkm : (publicKey ++ ([0] ++
      (if p.version = 5 then [0] ++ writeNumber cleartext.length 4 else []) ++ cleartext ++
        if p.version = 6 then [] else writeChecksum cleartext)).drop
      (if p.version = 5 then publicKey.length + 6 else publicKey.length + 1) =
      cleartext ++ if p.version = 6 then [] else writeChecksum cleartext := by
    split <;> simp [*, List.drop_append_eq_append_drop]
  rw [read_inTheClear prims config hread (by simpa using byteAt_append_length publicKey _ 0) hkm,
    hkm]
  simp [hp.algorithm, hparse]

theorem keyedEd25519Packet_publicPartWF : PublicPartWF keyedEd25519Packet ed25519 :=
  ⟨.inr (.inr rfl), rfl, rfl, .native (by decide) rfl, fun _ => rfl⟩

theorem keyedEd25519Packet_privateParamsWF :
    PrivateParamsWF keyedPrims keyedEd25519Packet.publicParams ed25519
      [("seed", .bytes (List.replicate 32 4))] :=
  .eddsa (by decide) rfl

theorem read_write_inTheClear_ed25519 :
    ∃ bytes cleartext,
      write.run keyedEd25519Packet = .ok bytes
        { keyedEd25519Packet with keyMaterial := some cleartext, keyMaterialViews := [] } ∧
      (read keyedPrims cfbConfig bytes).run (new 5 0 [] 0) = .ok ()
        { new 5 0 [] 0 with
          version := keyedEd25519Packet.version, created := keyedEd25519Packet.created,
          algorithm := keyedEd25519Packet.algorithm,
          publicParams := keyedEd25519Packet.publicParams,
          s2kUsage := some 0, isEncrypted := some false,
          privateParams := some [("seed", .bytes (List.replicate 32 4))],
          keyMaterial := some (cleartext ++
            if keyedEd25519Packet.version = 6 then [] else writeChecksum cleartext),
          keyMaterialViews := [("seed", 0)] } :=
  read_write_inTheClear keyedEd25519Packet_publicPartWF keyedEd25519Packet_privateParamsWF rfl rfl
    rfl rfl (new 5 0 [] 0)

/-! ## Reading a protected key -/

@[simp] theorem byteAt_cons_zero (x : UInt8) (l : Bytes) : byteAt (x :: l) 0 = some x.toNat := rfl

@[simp] theorem byteAt_cons_succ (x : UInt8) (l : Bytes) (k : Nat) :
    byteAt (x :: l) (k + 1) = byteAt l k := rfl

theorem byteAt_add_of_drop {bytes l : Bytes} {i : Nat} (h : bytes.drop i = l) (k : Nat) :
    byteAt bytes (i + k) = byteAt l k := by
  rw [← h, byteAt, byteAt, List.get?_eq_getElem?, List.get?_eq_getElem?, List.getElem?_drop]

theorem drop_add_of_drop {bytes l : Bytes} {i : Nat} (h : bytes.drop i = l) (k : Nat) :
    bytes.drop (i + k) = l.drop k := by
  rw [← h, List.drop_drop, Nat.add_comm]

/-- The specifier step of `read` on the fields `write` puts there: the cipher, for usage 253 the
AEAD mode, for v6 the specifier's length, and a specifier that reads back. -/
theorem readS2KSpecifier_written {bytes t : Bytes} {q : SecretKeyPacket} {i c : Nat}
    {m : Option Nat} {s : S2K} (hs : s.Readable) (hc : c < 256)
    (hm : q.s2kUsage = some 253 → ∃ n, m = some n ∧ n < 256)
    (h : bytes.drop i = [UInt8.ofNat c] ++ (if q.s2kUsage = some 253 then [octetOf m] else []) ++
      (if q.version = 6 then [UInt8.ofNat s.write.length] else []) ++ s.write ++ t) :
    (readS2KSpecifier bytes).run (q, i) = .ok s.isGnuDummy
      ({ q with
          symmetric := some c, aead := if q.s2kUsage = some 253 then m else q.aead, s2k := some s },
        i + 1 + (if q.s2kUsage = some 253 then 1 else 0) + (if q.version = 6 then 1 else 0) +
          s.write.length) := by
  obtain ⟨w, ws, hw⟩ : ∃ w ws, s.write = w :: ws := by cases s <;> exact ⟨_, _, rfl⟩
  have hr := S2K.read_write s hs t
  simp only [hw, Option.map_some', List.head?_cons, List.tail_cons, List.length_cons,
    Nat.add_sub_cancel] at hr h ⊢
  refine run_eq_ok_of_wp ?_
  by_cases h253 : q.s2kUsage = some 253 <;> by_cases h6 : q.version = 6 <;>
  simp only [readS2KSpecifier, nextOctet, assign, advance, ↓wp_bind, ↓wp_get, ↓wp_ite, ↓wp_pure,
    ↓wp_modify, ↓wp_modifyGet, ↓wp_liftExcept, h253, h6, if_true, if_false] at h ⊢
  all_goals
    have hi := byteAt_add_of_drop h 0
    rw [Nat.add_zero] at hi
    simp [Nat.add_assoc, byteAt_add_of_drop h, drop_add_of_drop h, hi, hr,
      UInt8.toNat_ofNat_of_lt hc]
  all_goals first
    | omega
    | obtain ⟨n, rfl, hn⟩ := hm h253
      exact ⟨by simp [octetOf, UInt8.toNat_ofNat_of_lt hn], by omega⟩

/-- The octets `read` takes after the public part up to the end of the specifier: the usage (253,
254 or 255), for v5 and v6 a count octet, the cipher, for usage 253 the AEAD mode, for v6 the
specifier's length, and a readable specifier. `read` finds the usage, and its specifier step
assigns the rest and stops where `t` begins. -/
theorem readS2KSpecifier_afterUsage {bytes t : Bytes} {q : SecretKeyPacket} {i u n c : Nat}
    {m : Option Nat} {s : S2K} (hu : u = 253 ∨ u = 254 ∨ u = 255) (hsr : s.Readable)
    (hc : c < 256) (hm : u = 253 → ∃ n, m = some n ∧ n < 256)
    (hbytes : bytes.drop i = [UInt8.ofNat u] ++
      (if q.version = 5 ∨ q.version = 6 then [UInt8.ofNat n] else []) ++ [UInt8.ofNat c] ++
      (if u = 253 then [octetOf m] else []) ++
      (if q.version = 6 then [UInt8.ofNat s.write.length] else []) ++ s.write ++ t) :
    byteAt bytes i = some u ∧ ∃ j, bytes.drop j = t ∧
      (readS2KSpecifier bytes).run ({ q with s2kUsage := some u },
          i + 1 + (if q.version = 5 then 1 else 0) +
            (if q.version = 6 ∧ truthy (some u) = true then 1 else 0)) =
        .ok s.isGnuDummy
          ({ q with
              s2kUsage := some u, symmetric := some c, aead := if u = 253 then m else q.aead,
              s2k := some s }, j) := by
  have hu8 : u < 256 := by omega
  have htu : truthy (some u) = true := by simp [truthy]; omega
  have h₁ : bytes.drop (i + 1 + (if q.version = 5 then 1 else 0) +
      (if q.version = 6 ∧ truthy (some u) = true then 1 else 0)) =
      [UInt8.ofNat c] ++ (if some u = some 253 then [octetOf m] else []) ++
      (if q.version = 6 then [UInt8.ofNat s.write.length] else []) ++ s.write ++ t := by
    rw [htu, Nat.add_assoc, Nat.add_assoc, drop_add_of_drop hbytes]
    by_cases h5 : q.version = 5 <;> by_cases h6 : q.version = 6 <;> simp [h5, h6]
  have hspec := @readS2KSpecifier_written bytes t { q with s2kUsage := some u } _ c m s hsr hc
    (fun h => hm (Option.some_inj.1 h)) h₁
  simp only [Option.some.injEq] at hspec
  refine ⟨?_, _, ?_, hspec⟩
  · rw [← Nat.add_zero i, byteAt_add_of_drop hbytes]
    simp [UInt8.toNat_ofNat_of_lt hu8]
  · rw [Nat.add_assoc _ 1, Nat.add_assoc _ (1 + _), Nat.add_assoc _ (1 + _ + _),
      drop_add_of_drop h₁, List.drop_left']
    simp only [List.length_append, List.length_singleton]
    by_cases h253 : u = 253 <;> by_cases h6 : q.version = 6 <;> simp [h253, h6]

/-- The IV step of `read` on a cipher block: for a usage other than 253, and for a legacy AEAD
key. -/
theorem readIV_block (config : Config) {bytes iv t : Bytes} {q : SecretKeyPacket} {i : Nat}
    {params : CipherParams}
    (hb : q.s2kUsage ≠ some 253 ∨ q.version = 5 ∨
      q.version = 4 ∧ config.parseAEADEncryptedV4KeysAsLegacy = true)
    (hc : getCipherParams (q.symmetric.getD 0) = .ok params) (hl : iv.length = params.blockSize)
    (h : bytes.drop i = iv ++ t) :
    (readIV config bytes).run (q, i) = .ok ()
      ({ q with
          isLegacyAEAD := some (decide (q.s2kUsage = some 253 ∧ (q.version = 5 ∨
            q.version = 4 ∧ config.parseAEADEncryptedV4KeysAsLegacy = true))),
          iv := some iv, usedModernAEAD := some false }, i + iv.length) := by
  refine run_eq_ok_of_wp ?_
  have hcond : q.s2kUsage ≠ some 253 ∨ q.s2kUsage = some 253 ∧ (q.version = 5 ∨
      q.version = 4 ∧ config.parseAEADEncryptedV4KeysAsLegacy = true) := by
    by_cases hu : q.s2kUsage = some 253 <;> simp_all
  simp only [readIV, assign, advance, ↓wp_bind, ↓wp_get, ↓wp_ite, ↓wp_pure, ↓wp_modify,
    ↓wp_liftExcept, hcond, if_true, hc]
  rw [← hl, slice_of_drop h]
  exact ⟨trivial, rfl⟩

/-- The IV step of `read` on a nonce of the AEAD mode: for usage 253 outside the legacy format. -/
theorem readIV_nonce (config : Config) {bytes iv t : Bytes} {q : SecretKeyPacket} {i : Nat}
    (hu : q.s2kUsage = some 253) (hv : q.version ≠ 5)
    (hv4 : q.version = 4 → config.parseAEADEncryptedV4KeysAsLegacy = false)
    (hm : getAEADMode (q.aead.getD 0) false = .ok iv.length) (h : bytes.drop i = iv ++ t) :
    (readIV config bytes).run (q, i) = .ok ()
      ({ q with isLegacyAEAD := some false, iv := some iv, usedModernAEAD := some true },
        i + iv.length) := by
  refine run_eq_ok_of_wp ?_
  have hcond :
      ¬(q.version = 5 ∨ q.version = 4 ∧ config.parseAEADEncryptedV4KeysAsLegacy = true) := by
    rintro (h5 | ⟨h4, hl⟩)
    · exact hv h5
    · simp [hv4 h4] at hl
  simp only [readIV, assign, advance, ↓wp_bind, ↓wp_get, ↓wp_ite, ↓wp_pure, ↓wp_modify,
    ↓wp_liftExcept, hu, hcond, hm, ne_eq, not_true_eq_false, and_false, or_self, if_false,
    decide_False, true_and]
  rw [slice_of_drop h]

/-- The `try` block of `read` on a protected key whose specifier is no GNU dummy: the specifier
step, then the IV step. -/
theorem readS2KFields_protected (config : Config) {bytes : Bytes} {q q' : SecretKeyPacket}
    {i j : Nat} {s : S2K} {r : SecretKeyPacket × Nat}
    (hu : q.s2kUsage = some 253 ∨ q.s2kUsage = some 254) (hsd : s ≠ .gnuDummy)
    (hspec : (readS2KSpecifier bytes).run (q, i) = .ok s.isGnuDummy (q', j))
    (hiv : (readIV config bytes).run (q', j) = .ok () r) :
    (readS2KFields config bytes).run (q, i) = .ok false r := by
  have ht : truthy q.s2kUsage = true := by rcases hu with h | h <;> simp [h, truthy]
  have hc : q.s2kUsage = some 255 ∨ q.s2kUsage = some 254 ∨ q.s2kUsage = some 253 := by
    rcases hu with h | h <;> simp [h]
  have hg : s.isGnuDummy = false :=
    Bool.eq_false_iff.2 fun h => hsd ((S2K.isGnuDummy_eq_true_iff s).1 h)
  refine run_eq_ok_of_wp ?_
  simp only [readS2KFields, ↓wp_bind, ↓wp_get, ↓wp_ite, ↓wp_pure, if_pos hc]
  rw [wp_eq_of_run hspec]
  simp only [hg, Bool.false_eq_true, if_false, ↓wp_pure, ht, if_true, ↓wp_bind]
  rw [wp_eq_of_run hiv]
  exact ⟨trivial, rfl⟩

/-- The rest of `read` on a protected key: the octets after the IV, past the four-octet length of
v5, are the key material. -/
theorem readKeyMaterial_protected (prims : Primitives) {bytes rest : Bytes} {i : Nat}
    {q : SecretKeyPacket} (hu : truthy q.s2kUsage = true) (h : bytes.drop i = rest) :
    (readKeyMaterial prims bytes i).run q = .ok ()
      { q with
        keyMaterial := some (rest.drop (if q.version = 5 then 4 else 0)),
        isEncrypted := some true, keyMaterialViews := [] } := by
  refine run_eq_ok_of_wp ?_
  by_cases h5 : q.version = 5 <;> simp [readKeyMaterial, hu, h5, drop_add_of_drop h, h]

/-- **`read` of a protected key.** After the public part stand the usage (253 or 254), for v5 and
v6 a count octet, the cipher, for usage 253 the AEAD mode, for v6 the specifier's length, a
readable specifier that is no GNU dummy, the IV and the rest. `read` takes them all, the IV as the
IV step reads it, and keeps the rest past the length of v5 as key material. -/
theorem read_protected (prims : Primitives) (config : Config) {bytes iv rest : Bytes}
    {r q qiv : SecretKeyPacket} {i u n c : Nat} {m : Option Nat} {s : S2K}
    (hpub : (readPublicKey bytes).run r = .ok i q) (hu : u = 253 ∨ u = 254) (hsr : s.Readable)
    (hsd : s ≠ .gnuDummy) (hc : c < 256) (hm : u = 253 → ∃ n, m = some n ∧ n < 256)
    (hbytes : bytes.drop i = [UInt8.ofNat u] ++
      (if q.version = 5 ∨ q.version = 6 then [UInt8.ofNat n] else []) ++ [UInt8.ofNat c] ++
      (if u = 253 then [octetOf m] else []) ++
      (if q.version = 6 then [UInt8.ofNat s.write.length] else []) ++ s.write ++ (iv ++ rest))
    (hiv : ∀ j, bytes.drop j = iv ++ rest →
      (readIV config bytes).run
        ({ q with
            s2kUsage := some u, symmetric := some c, aead := if u = 253 then m else q.aead,
            s2k := some s }, j) = .ok () (qiv, j + iv.length))
    (hv : qiv.version = q.version) (hut : truthy qiv.s2kUsage = true) :
    (read prims config bytes).run r = .ok ()
      { qiv with
        keyMaterial := some (rest.drop (if q.version = 5 then 4 else 0)),
        isEncrypted := some true, keyMaterialViews := [] } := by
  obtain ⟨hby, j, hj, hspec⟩ := readS2KSpecifier_afterUsage (hu.imp_right .inl) hsr hc hm hbytes
  have hu' : some u = some 253 ∨ some u = some 254 := by simpa using hu
  have hfields := readS2KFields_protected config hu' hsd hspec (hiv _ hj)
  rw [read, run_bind_of_ok hpub]
  dsimp only
  rw [run_modify_bind, run_get_bind]
  simp only [hby, hfields, run_set_bind]
  have h₃ := drop_add_of_drop hj iv.length
  rw [List.drop_left] at h₃
  rw [readKeyMaterial_protected prims hut h₃, hv]

/-! ## Writing a protected key -/

/-- The optional fields of a protected key that is no GNU dummy: the cipher, for usage 253 the
AEAD mode, for v6 the specifier's length, the specifier and the IV. -/
theorem writeOptionalFields_protected {p : SecretKeyPacket} {s : S2K} {iv : Bytes}
    (hu : p.s2kUsage = some 253 ∨ p.s2kUsage = some 254) (hs : p.s2k = some s)
    (hsd : s ≠ .gnuDummy) (hiv : p.iv = some iv) :
    p.writeOptionalFields = .ok ([octetOf p.symmetric] ++
      (if p.s2kUsage = some 253 then [octetOf p.aead] else []) ++
      (if p.version = 6 then [UInt8.ofNat s.write.length] else []) ++ s.write ++ iv) := by
  have hg : s.isGnuDummy = false :=
    Bool.eq_false_iff.2 fun h => hsd ((S2K.isGnuDummy_eq_true_iff s).1 h)
  rcases hu with hu | hu <;> simp [writeOptionalFields, hu, hs, hiv, hg, truthy, hsd]

/-- `write` of a protected key that is no GNU dummy: the public part, the usage, for v5 and v6
the count of optional fields, the optional fields, for v5 the length of the key material, and the
key material. The packet is left as it was. -/
theorem write_protected {p : SecretKeyPacket} {publicKey fields keyMaterial : Bytes}
    (hd : p.isDummy = false) (hu : truthy p.s2kUsage = true)
    (hunp : p.unparseableKeyMaterial = none) (hpub : p.writePublicKey = .ok publicKey)
    (ho : p.writeOptionalFields = .ok fields) (hkm : p.keyMaterial = some keyMaterial) :
    write.run p = .ok (publicKey ++ [octetOf p.s2kUsage] ++
      (if p.version = 5 ∨ p.version = 6 then [UInt8.ofNat fields.length] else []) ++ fields ++
      (if p.version = 5 then writeNumber keyMaterial.length 4 else []) ++ keyMaterial) p := by
  refine run_eq_ok_of_wp ?_
  simp [write, hd, hu, hunp, hpub, ho, hkm]

/-- The IV of a protected key as the IV step of `read` takes it under `config`: a cipher block,
with the legacy flag `read` computes and no modern AEAD, or outside the legacy format a nonce of
the AEAD mode, with modern AEAD. -/
def IVReadsBack (config : Config) (q : SecretKeyPacket) (iv : Bytes)
    (isLegacyAEAD usedModernAEAD : Bool) : Prop :=
  (q.s2kUsage ≠ some 253 ∨ q.version = 5 ∨
      q.version = 4 ∧ config.parseAEADEncryptedV4KeysAsLegacy = true) ∧
    (∃ params, getCipherParams (q.symmetric.getD 0) = .ok params ∧
      iv.length = params.blockSize) ∧
    isLegacyAEAD = decide (q.s2kUsage = some 253 ∧ (q.version = 5 ∨
      q.version = 4 ∧ config.parseAEADEncryptedV4KeysAsLegacy = true)) ∧
    usedModernAEAD = false ∨
  q.s2kUsage = some 253 ∧ q.version ≠ 5 ∧
    (q.version = 4 → config.parseAEADEncryptedV4KeysAsLegacy = false) ∧
    getAEADMode (q.aead.getD 0) false = .ok iv.length ∧ isLegacyAEAD = false ∧
    usedModernAEAD = true

/-- The packet `read` leaves in `r` after reading the octets `write` produced for the protected
packet `q`: the public part, the protection fields and the key material of `q`, and the two flags
the IV tells. The AEAD mode is written only under usage 253. -/
def readBack (q r : SecretKeyPacket) (isLegacyAEAD usedModernAEAD : Bool) : SecretKeyPacket :=
  { r with
    version := q.version, created := q.created, algorithm := q.algorithm,
    publicParams := q.publicParams, s2kUsage := q.s2kUsage, symmetric := q.symmetric,
    aead := if q.s2kUsage = some 253 then q.aead else r.aead, s2k := q.s2k,
    isLegacyAEAD := some isLegacyAEAD, iv := q.iv, usedModernAEAD := some usedModernAEAD,
    keyMaterial := q.keyMaterial, isEncrypted := some true, keyMaterialViews := [] }

/-- **A protected key survives the wire.** `write` of a key protected with usage 253 or 254, under
a readable specifier that is no GNU dummy, returns, and `read` of its output into any packet
assigns the public part and every protection field it was written from: the usage, cipher, AEAD
mode (for usage 253), specifier, IV and key material, with the legacy and modern-AEAD flags of
the reader's IV step. -/
theorem read_write_protected (prims : Primitives) (config : Config) {q : SecretKeyPacket}
    {a : PublicKeyAlgorithm} {s : S2K} {c : Nat} {iv keyMaterial : Bytes}
    {isLegacyAEAD usedModernAEAD : Bool} (hp : PublicPartWF q a)
    (hu : q.s2kUsage = some 253 ∨ q.s2kUsage = some 254) (hs : q.s2k = some s)
    (hsr : s.Readable) (hsd : s ≠ .gnuDummy) (hsym : q.symmetric = some c) (hc : c < 256)
    (hm : q.s2kUsage = some 253 → ∃ n, q.aead = some n ∧ n < 256) (hiv : q.iv = some iv)
    (hkm : q.keyMaterial = some keyMaterial) (hunp : q.unparseableKeyMaterial = none)
    (hread : IVReadsBack config q iv isLegacyAEAD usedModernAEAD) (r : SecretKeyPacket) :
    ∃ bytes, write.run q = .ok bytes q ∧
      (read prims config bytes).run r = .ok () (readBack q r isLegacyAEAD usedModernAEAD) := by
  obtain ⟨u, hqu, hu⟩ : ∃ u, q.s2kUsage = some u ∧ (u = 253 ∨ u = 254) := by
    rcases hu with h | h <;> exact ⟨_, h, by simp⟩
  have hd : q.isDummy = false := by simp [isDummy, hs, hsd]
  have hut : truthy q.s2kUsage = true := by simp [hqu, truthy]; omega
  have ho := writeOptionalFields_protected (by simpa [hqu] using hu) hs hsd hiv
  generalize hF : [octetOf q.symmetric] ++ _ ++ _ ++ s.write ++ iv = F at ho
  obtain ⟨publicKey, hpub, hrp⟩ := readPublicKey_writePublicKey hp
    ([octetOf q.s2kUsage] ++
      (if q.version = 5 ∨ q.version = 6 then [UInt8.ofNat F.length] else []) ++ F ++
      ((if q.version = 5 then writeNumber keyMaterial.length 4 else []) ++ keyMaterial)) r
  refine ⟨_, write_protected hd hut hunp hpub ho hkm, ?_⟩
  have hbytes : (publicKey ++ ([octetOf q.s2kUsage] ++
      ((if q.version = 5 ∨ q.version = 6 then [UInt8.ofNat F.length] else []) ++ (F ++
      ((if q.version = 5 then writeNumber keyMaterial.length 4 else []) ++ keyMaterial))))).drop
        publicKey.length =
      [UInt8.ofNat u] ++ (if q.version = 5 ∨ q.version = 6 then [UInt8.ofNat F.length] else []) ++
      [UInt8.ofNat c] ++ (if u = 253 then [octetOf q.aead] else []) ++
      (if q.version = 6 then [UInt8.ofNat s.write.length] else []) ++ s.write ++
      (iv ++ ((if q.version = 5 then writeNumber keyMaterial.length 4 else []) ++
        keyMaterial)) := by
    rw [List.drop_left, ← hF]
    simp [hqu, hsym, octetOf]
  have hm' : u = 253 → ∃ n, q.aead = some n ∧ n < 256 := fun h => hm (hqu.trans (by rw [h]))
  have hrest : ((if q.version = 5 then writeNumber keyMaterial.length 4 else []) ++
      keyMaterial).drop (if q.version = 5 then 4 else 0) = keyMaterial := by
    split <;> simp
  simp only [List.append_assoc] at hrp ⊢
  rcases hread with ⟨hb, ⟨params, hcp, hl⟩, rfl, rfl⟩ | ⟨h253, hv5, hv4, hmode, rfl, rfl⟩
  · rw [read_protected prims config hrp hu hsr hsd hc hm' hbytes
      (fun j h => readIV_block config (by simpa [hqu] using hb) (by simpa [hsym] using hcp) hl h)
      rfl (by simp [truthy]; omega)]
    simp [readBack, hrest, hqu, hsym, hiv, hkm, hs]
  · obtain rfl : u = 253 := Option.some_inj.1 (hqu.symm.trans h253)
    rw [read_protected prims config hrp hu hsr hsd hc hm' hbytes
      (fun j h => readIV_nonce config rfl hv5 hv4 (by simpa using hmode) h)
      rfl (by simp [truthy])]
    simp [readBack, hrest, hqu, hsym, hiv, hkm, hs]

theorem writeOptionalFields_readBack (q r : SecretKeyPacket) (L M : Bool) :
    (readBack q r L M).writeOptionalFields = q.writeOptionalFields := by
  by_cases h : q.s2kUsage = some 253 <;> simp [writeOptionalFields, readBack, h]

/-- **Re-serializing a protected key gives the same octets.** `write` of a key protected with
usage 253 or 254 returns, and a packet `read` from its output, into any packet without unparseable
material, writes the same octets again and is left as it was. -/
theorem write_read_write_protected (prims : Primitives) (config : Config) {q : SecretKeyPacket}
    {a : PublicKeyAlgorithm} {s : S2K} {c : Nat} {iv keyMaterial : Bytes}
    {isLegacyAEAD usedModernAEAD : Bool} (hp : PublicPartWF q a)
    (hu : q.s2kUsage = some 253 ∨ q.s2kUsage = some 254) (hs : q.s2k = some s)
    (hsr : s.Readable) (hsd : s ≠ .gnuDummy) (hsym : q.symmetric = some c) (hc : c < 256)
    (hm : q.s2kUsage = some 253 → ∃ n, q.aead = some n ∧ n < 256) (hiv : q.iv = some iv)
    (hkm : q.keyMaterial = some keyMaterial) (hunp : q.unparseableKeyMaterial = none)
    (hread : IVReadsBack config q iv isLegacyAEAD usedModernAEAD) {r : SecretKeyPacket}
    (hr : r.unparseableKeyMaterial = none) :
    ∃ bytes q', write.run q = .ok bytes q ∧ (read prims config bytes).run r = .ok () q' ∧
      write.run q' = .ok bytes q' := by
  obtain ⟨bytes, hw, hrd⟩ := read_write_protected prims config hp hu hs hsr hsd hsym hc hm hiv hkm
    hunp hread r
  refine ⟨bytes, _, hw, hrd, ?_⟩
  have hd : q.isDummy = false := by simp [isDummy, hs, hsd]
  have hut : truthy q.s2kUsage = true := by rcases hu with h | h <;> simp [h, truthy]
  obtain ⟨publicKey, hpub⟩ : ∃ publicKey, q.writePublicKey = .ok publicKey :=
    (readPublicKey_writePublicKey hp [] r).imp fun _ h => h.1
  obtain ⟨fields, hf⟩ : ∃ fields, q.writeOptionalFields = .ok fields :=
    ⟨_, writeOptionalFields_protected hu hs hsd hiv⟩
  rw [write_protected hd hut hunp hpub hf hkm, EStateM.Result.ok.injEq] at hw
  rw [← hw.1]
  exact write_protected hd hut hr hpub ((writeOptionalFields_readBack q r _ _).trans hf) hkm

/-- The Ed25519 key after a CFB `encrypt`. -/
def cfbEd25519Packet : SecretKeyPacket :=
  resultState ((encrypt keyedPrims cfbConfig fiveRandom "pw").run keyedEd25519Packet)

theorem write_read_write_protected_ed25519 :
    ∃ bytes q', write.run cfbEd25519Packet = .ok bytes cfbEd25519Packet ∧
      (read keyedPrims cfbConfig bytes).run (new 5 0 [] 0) = .ok () q' ∧
      write.run q' = .ok bytes q' :=
  write_read_write_protected keyedPrims cfbConfig
    (⟨.inr (.inr rfl), rfl, rfl, .native (by decide) rfl, fun _ => rfl⟩ :
      PublicPartWF cfbEd25519Packet ed25519)
    (.inr rfl) rfl ⟨by decide, rfl, by decide⟩ (by decide) rfl (by decide)
    (fun h => absurd h (by decide)) rfl rfl rfl (.inl ⟨.inl (by decide), ⟨_, rfl, rfl⟩, rfl, rfl⟩)
    rfl

/-! ## A GNU dummy -/

/-- The `try` block of `read` on a GNU dummy: the specifier step reports the dummy, and the block
returns before the IV. -/
theorem readS2KFields_dummy (config : Config) {bytes : Bytes} {q q' : SecretKeyPacket} {i j : Nat}
    (hu : q.s2kUsage = some 255 ∨ q.s2kUsage = some 254 ∨ q.s2kUsage = some 253)
    (hspec : (readS2KSpecifier bytes).run (q, i) = .ok true (q', j)) :
    (readS2KFields config bytes).run (q, i) = .ok true (q', j) := by
  refine run_eq_ok_of_wp ?_
  simp only [readS2KFields, ↓wp_bind, ↓wp_get, ↓wp_ite, ↓wp_pure, if_pos hu]
  rw [wp_eq_of_run hspec]
  exact ⟨trivial, rfl⟩

/-- **`read` of a GNU dummy.** After the public part stand the usage (253, 254 or 255), for v5 and
v6 a count octet, the cipher, for usage 253 the AEAD mode, for v6 the specifier's length, and the
GNU-dummy specifier. `read` takes them and stops: what follows is read as neither IV nor key
material. -/
theorem read_dummy (prims : Primitives) (config : Config) {bytes t : Bytes}
    {r q : SecretKeyPacket} {i u n c : Nat} {m : Option Nat}
    (hpub : (readPublicKey bytes).run r = .ok i q) (hu : u = 253 ∨ u = 254 ∨ u = 255)
    (hc : c < 256) (hm : u = 253 → ∃ n, m = some n ∧ n < 256)
    (hbytes : bytes.drop i = [UInt8.ofNat u] ++
      (if q.version = 5 ∨ q.version = 6 then [UInt8.ofNat n] else []) ++ [UInt8.ofNat c] ++
      (if u = 253 then [octetOf m] else []) ++
      (if q.version = 6 then [UInt8.ofNat S2K.gnuDummy.write.length] else []) ++
      S2K.gnuDummy.write ++ t) :
    (read prims config bytes).run r = .ok ()
      { q with
        s2kUsage := some u, symmetric := some c, aead := if u = 253 then m else q.aead,
        s2k := some .gnuDummy } := by
  obtain ⟨hby, j, -, hspec⟩ :=
    @readS2KSpecifier_afterUsage bytes t q i u n c m .gnuDummy hu trivial hc hm hbytes
  have hu' : some u = some 255 ∨ some u = some 254 ∨ some u = some 253 := by
    rcases hu with rfl | rfl | rfl <;> simp
  have hfields := readS2KFields_dummy config hu' hspec
  rw [read, run_bind_of_ok hpub]
  dsimp only
  rw [run_modify_bind, run_get_bind]
  simp only [hby, hfields, run_set_bind]
  rfl

/-- The optional fields of a GNU dummy: the cipher, for usage 253 the AEAD mode, for v6 the
specifier's length, and the specifier; no IV. -/
theorem writeOptionalFields_dummy {p : SecretKeyPacket}
    (hu : p.s2kUsage = some 255 ∨ p.s2kUsage = some 254 ∨ p.s2kUsage = some 253)
    (hs : p.s2k = some .gnuDummy) :
    p.writeOptionalFields = .ok ([octetOf p.symmetric] ++
      (if p.s2kUsage = some 253 then [octetOf p.aead] else []) ++
      (if p.version = 6 then [UInt8.ofNat S2K.gnuDummy.write.length] else []) ++
      S2K.gnuDummy.write) := by
  rcases hu with hu | hu | hu <;> simp [writeOptionalFields, hu, hs, truthy]

/-- `write` of a GNU dummy: the public part, the usage, for v5 and v6 the count of optional fields,
and the optional fields. No key material follows, and the packet is left as it was. -/
theorem write_dummy {p : SecretKeyPacket} {publicKey fields : Bytes} (hd : p.isDummy = true)
    (hunp : p.unparseableKeyMaterial = none) (hpub : p.writePublicKey = .ok publicKey)
    (ho : p.writeOptionalFields = .ok fields) :
    write.run p = .ok (publicKey ++ [octetOf p.s2kUsage] ++
      (if p.version = 5 ∨ p.version = 6 ∧ truthy p.s2kUsage = true then
        [UInt8.ofNat fields.length] else []) ++ fields) p := by
  refine run_eq_ok_of_wp ?_
  simp [write, hd, hunp, hpub, ho]

/-- **A GNU dummy survives the wire.** `write` of a GNU dummy under usage 253, 254 or 255 returns,
and `read` of its output into any packet assigns the public part, the usage, the cipher, the AEAD
mode (for usage 253) and the dummy specifier, and nothing else: no IV, no key material. -/
theorem read_write_dummy (prims : Primitives) (config : Config) {q : SecretKeyPacket}
    {a : PublicKeyAlgorithm} {c : Nat} (hp : PublicPartWF q a)
    (hu : q.s2kUsage = some 253 ∨ q.s2kUsage = some 254 ∨ q.s2kUsage = some 255)
    (hs : q.s2k = some .gnuDummy) (hsym : q.symmetric = some c) (hc : c < 256)
    (hm : q.s2kUsage = some 253 → ∃ n, q.aead = some n ∧ n < 256)
    (hunp : q.unparseableKeyMaterial = none) (r : SecretKeyPacket) :
    ∃ bytes, write.run q = .ok bytes q ∧
      (read prims config bytes).run r = .ok ()
        { r with
          version := q.version, created := q.created, algorithm := q.algorithm,
          publicParams := q.publicParams, s2kUsage := q.s2kUsage, symmetric := q.symmetric,
          aead := if q.s2kUsage = some 253 then q.aead else r.aead, s2k := q.s2k } := by
  obtain ⟨u, hqu, hu⟩ : ∃ u, q.s2kUsage = some u ∧ (u = 253 ∨ u = 254 ∨ u = 255) := by
    rcases hu with h | h | h <;> exact ⟨_, h, by simp⟩
  have hut : truthy q.s2kUsage = true := by simp [hqu, truthy]; omega
  have ho := writeOptionalFields_dummy (by rcases hu with rfl | rfl | rfl <;> simp [hqu]) hs
  generalize hF : [octetOf q.symmetric] ++ _ ++ _ ++ S2K.gnuDummy.write = F at ho
  obtain ⟨publicKey, hpub, hrp⟩ := readPublicKey_writePublicKey hp
    ([octetOf q.s2kUsage] ++
      (if q.version = 5 ∨ q.version = 6 then [UInt8.ofNat F.length] else []) ++ F) r
  have hw := write_dummy ((isDummy_eq_true_iff q).2 hs) hunp hpub ho
  simp only [hut, and_true, List.append_assoc] at hw
  refine ⟨_, hw, ?_⟩
  have hbytes : (publicKey ++ ([octetOf q.s2kUsage] ++
      ((if q.version = 5 ∨ q.version = 6 then [UInt8.ofNat F.length] else []) ++ F))).drop
        publicKey.length =
      [UInt8.ofNat u] ++ (if q.version = 5 ∨ q.version = 6 then [UInt8.ofNat F.length] else []) ++
      [UInt8.ofNat c] ++ (if u = 253 then [octetOf q.aead] else []) ++
      (if q.version = 6 then [UInt8.ofNat S2K.gnuDummy.write.length] else []) ++
      S2K.gnuDummy.write ++ [] := by
    rw [List.drop_left, ← hF]
    simp [hqu, hsym, octetOf]
  simp only [List.append_assoc] at hrp ⊢
  rw [read_dummy prims config hrp hu hc (fun h => hm (hqu.trans (by rw [h]))) hbytes]
  simp [hqu, hsym, hs]

/-- A returning `makeDummy` of a packet that is no dummy keeps its public part and leaves a GNU
dummy under usage 254 and AES-256, without unparseable material. -/
theorem makeDummy_ok (p : SecretKeyPacket) (hd : p.isDummy = false) :
    wp makeDummy
      (fun _ q => q.version = p.version ∧ q.created = p.created ∧ q.algorithm = p.algorithm ∧
        q.publicParams = p.publicParams ∧ q.s2kUsage = some 254 ∧
        q.symmetric = some Symmetric.aes256 ∧ q.s2k = some .gnuDummy ∧
        q.unparseableKeyMaterial = none)
      (fun _ _ => True) p := by
  simp only [makeDummy, ↓wp_bind, ↓wp_get, ↓wp_ite, ↓wp_pure, ↓wp_modify, hd,
    Bool.false_eq_true, if_false]
  split
  · refine wp_mono (clearPrivateParams_ok p) ?_ fun _ _ _ => trivial
    rintro _ q (⟨-, rfl⟩ | ⟨-, _, -, rfl⟩) <;> simp
  · simp

/-- **A key made a GNU dummy survives the wire as one.** After a returning `makeDummy` of a key
that is no dummy, `write` returns, and `read` of its output into any packet gives back the public
part and the dummy: usage 254, AES-256 and the GNU-dummy specifier, with no IV and no key
material. -/
theorem read_write_makeDummy (prims : Primitives) (config : Config) {p p' : SecretKeyPacket}
    {a : PublicKeyAlgorithm} (hp : PublicPartWF p a) (hd : p.isDummy = false)
    (hmk : makeDummy.run p = .ok () p') (r : SecretKeyPacket) :
    ∃ bytes, write.run p' = .ok bytes p' ∧
      (read prims config bytes).run r = .ok ()
        { r with
          version := p.version, created := p.created, algorithm := p.algorithm,
          publicParams := p.publicParams, s2kUsage := some 254,
          symmetric := some Symmetric.aes256, s2k := some .gnuDummy } := by
  obtain ⟨hv, hc, ha, hpp, hu, hsym, hs, hunp⟩ := wp_of_run_ok (makeDummy_ok p hd) hmk
  have hp' : PublicPartWF p' a :=
    ⟨hv ▸ hp.version, hc ▸ hp.created, ha ▸ hp.algorithm, hpp ▸ hp.publicParams,
      hv ▸ hpp ▸ hp.legacyCurve25519⟩
  obtain ⟨bytes, hw, hr⟩ := read_write_dummy prims config hp' (.inr (.inl hu)) hs hsym
    (by decide) (by simp [hu]) hunp r
  exact ⟨bytes, hw, by simpa [hv, hc, ha, hpp, hu, hsym, hs] using hr⟩

theorem read_write_makeDummy_ed25519 :
    ∃ bytes, write.run (resultState (makeDummy.run keyedEd25519Packet)) =
        .ok bytes (resultState (makeDummy.run keyedEd25519Packet)) ∧
      (read keyedPrims cfbConfig bytes).run (new keyedEd25519Packet.tag 0 [] 0) = .ok ()
        { new keyedEd25519Packet.tag 0 [] 0 with
          version := keyedEd25519Packet.version, created := keyedEd25519Packet.created,
          algorithm := keyedEd25519Packet.algorithm,
          publicParams := keyedEd25519Packet.publicParams,
          s2kUsage := some 254, symmetric := some Symmetric.aes256, s2k := some .gnuDummy } :=
  read_write_makeDummy keyedPrims cfbConfig keyedEd25519Packet_publicPartWF rfl rfl _

/-! ## What `encrypt` leaves decrypts -/

/-- The primitives a key is protected with, under AES-256 and any key: CFB decryption under the
IV of the encryption gives back the plaintext, SHA-1 digests are twenty octets, and the AEAD mode
`mode` decrypts what it encrypted under the same nonce and associated data. -/
structure ProtectionCorrect (prims : Primitives) (mode : Nat) : Prop where
  cfb : ∀ key text iv,
    prims.cfbDecrypt Symmetric.aes256 key (prims.cfbEncrypt Symmetric.aes256 key text iv) iv = text
  sha1 : ∀ data, (prims.computeDigest Hash.sha1 data).length = 20
  aead : ∀ key data iv associatedData c,
    prims.aeadEncrypt mode Symmetric.aes256 key data iv associatedData = .ok c →
      prims.aeadDecrypt mode Symmetric.aes256 key c iv associatedData = .ok data

theorem keyedPrims_protectionCorrect : ProtectionCorrect keyedPrims 2 where
  cfb key text iv := by
    have hcancel : ∀ x k : UInt8, x + k - k = x := fun x k => by
      apply UInt8.eq_of_toBitVec_eq
      show x.toBitVec + k.toBitVec - k.toBitVec = x.toBitVec
      bv_omega
    simp [keyedPrims, List.map_map, Function.comp_def, hcancel]
  sha1 := by simp [keyedPrims]
  aead key data iv ad c h := by
    simp only [keyedPrims, Except.ok.injEq] at h
    subst h
    simp [keyedPrims]

/-- A packet `r` carries the protected key material of `q`: the fields `decrypt` reads other than
the AEAD mode and the legacy flag, and no unparseable material, encrypted. -/
structure CarriesProtection (q r : SecretKeyPacket) : Prop where
  tag : r.tag = q.tag
  version : r.version = q.version
  writePublicKey : r.writePublicKey = q.writePublicKey
  s2kUsage : r.s2kUsage = q.s2kUsage
  s2k : r.s2k = q.s2k
  symmetric : r.symmetric = q.symmetric
  iv : r.iv = q.iv
  keyMaterial : r.keyMaterial = q.keyMaterial
  unparseable : r.unparseableKeyMaterial = none
  encrypted : r.isEncrypted = some true

/-- Without an AEAD mode the key is the S2K key: the packet tag and the legacy flag are not
read. -/
theorem produceEncryptionKey_of_not_truthy {prims : Primitives} {version : Nat}
    {s2k : Option S2K} {passphrase : String} {cipher aeadMode : Option Nat}
    (h : truthy aeadMode = false) (tag : Bytes) (isLegacyAEAD : Option Bool) :
    produceEncryptionKey prims version s2k passphrase cipher aeadMode tag isLegacyAEAD =
      produceEncryptionKey prims version s2k passphrase cipher none [] none := by
  simp [produceEncryptionKey, h, show truthy none = false from rfl]

theorem getAEADMode_accept {mode ivLength : Nat} (h : getAEADMode mode false = .ok ivLength) :
    getAEADMode mode true = .ok ivLength := by
  unfold getAEADMode at h ⊢
  split at h <;> first | rfl | assumption | cases h

theorem lt_of_getAEADMode {mode ivLength : Nat} (h : getAEADMode mode false = .ok ivLength) :
    mode < 256 := by
  unfold getAEADMode at h
  split at h <;> first | omega | cases h

/-- **The key material `encrypt` stores decrypts.** After a returning `encrypt`, every packet that
carries its key material, with no AEAD mode after CFB and the mode and legacy flag of `encrypt`
after AEAD, decrypts under the passphrase to the serialized private parameters. -/
theorem decryptsTo_of_encrypt {prims : Primitives} {config : Config} {random : Random}
    {passphrase : String} {p q r : SecretKeyPacket} {privateParams : Params}
    (hprot : ProtectionCorrect prims config.preferredAEADAlgorithm) (hd : p.isDummy = false)
    (hpp : p.privateParams = some privateParams)
    (he : (encrypt prims config random passphrase).run p = .ok () q) (hr : CarriesProtection q r)
    (hcfb : config.aeadProtect = false → truthy r.aead = false)
    (haead : config.aeadProtect = true → r.aead = q.aead ∧ r.isLegacyAEAD = q.isLegacyAEAD) :
    ∃ cleartext, serializeParams p.algorithm privateParams = .ok cleartext ∧
      DecryptsTo prims passphrase r cleartext := by
  obtain ⟨htag, hv, hpub, hu, hs, hsym, hiv, hkm, hunp, henc⟩ := hr
  have hdec : r.isDecrypted = false := by simp [isDecrypted, henc]
  cases hc : config.aeadProtect
  · obtain ⟨-, s2k, pp, cleartext, key, hs2k, hpp', hser, hkey, rfl⟩ :=
      wp_of_run_ok (encrypt_cfb hc hd) he
    obtain rfl : pp = privateParams := Option.some_inj.1 (hpp'.symm.trans hpp)
    refine ⟨cleartext, hser, by simp [isDummy, hs, newS2KFromConfig_ne_gnuDummy hs2k], hunp, hdec,
      key, ?_, .inl ⟨hu, ?_⟩⟩
    · rw [produceEncryptionKey_of_not_truthy (hcfb hc), hs, hsym, hv, hkey]
    · simp [cfbDecryptKeyMaterial, hkm, hiv, hsym, hprot.cfb, hprot.sha1]
  · obtain ⟨-, s2k, pp, cleartext, ivLength, key, associatedData, keyMaterial, hs2k, hpp', hser,
      hm, hkey, hc', had, rfl⟩ := wp_of_run_ok (encrypt_aead hc hd) he
    obtain rfl : pp = privateParams := Option.some_inj.1 (hpp'.symm.trans hpp)
    obtain ⟨hra, hrl⟩ := haead hc
    refine ⟨cleartext, hser, by simp [isDummy, hs, newS2KFromConfig_ne_gnuDummy hs2k], hunp, hdec,
      key, by rw [hs, hsym, hra, hrl, hv, htag]; exact hkey,
      .inr ⟨hu, ivLength, by simpa [hra] using getAEADMode_accept hm, ?_⟩⟩
    have hpub' : r.writePublicKey = p.writePublicKey := hpub
    rcases had with ⟨h5, rfl⟩ | ⟨h5, publicKey, hpk, rfl⟩ <;> simp only [h5] at hc' <;>
      simp [aeadDecryptKeyMaterial, hrl, hv, h5, hpub', htag, hiv, hkm, hsym, hra, *] <;>
      exact hprot.aead _ _ _ _ _ hc'

/-! ## Decryption in memory -/

/-- Every field of a well-formed private record is a `Uint8Array`, which `fill` zeroes. -/
theorem fill_of_privateParamsWF {prims : Primitives} {pub : Params} {a : PublicKeyAlgorithm}
    {priv : Params} (h : PrivateParamsWF prims pub a priv) : ∀ f ∈ priv, f.2.fill = .ok () := by
  cases h <;> simp [Param.fill]

/-- **`decrypt` undoes `encrypt`.** A returning `encrypt` of a key that is no dummy and holds
well-formed private parameters, then `clearPrivateParams`, which returns: `decrypt` with the same
passphrase returns and gives back the private parameters. The packet is what `encrypt` left,
with the key material, usage, cipher, AEAD mode and legacy flag reset. A CFB `encrypt` must find
no AEAD mode in the packet. -/
theorem decrypt_after_encrypt {prims : Primitives} {config : Config} {random : Random}
    {passphrase : String} {p q : SecretKeyPacket} {a : PublicKeyAlgorithm} {privateParams : Params}
    (hprot : ProtectionCorrect prims config.preferredAEADAlgorithm)
    (hwf : PrivateParamsWF prims p.publicParams a privateParams) (ha : p.algorithm = a.code)
    (hpp : p.privateParams = some privateParams) (hd : p.isDummy = false)
    (hunp : p.unparseableKeyMaterial = none) (hcfb : config.aeadProtect = false → p.aead = none)
    (he : (encrypt prims config random passphrase).run p = .ok () q) :
    ∃ q', clearPrivateParams.run q = .ok () q' ∧
      (decrypt prims passphrase).run q' = .ok none
        { q with
          keyMaterial := none, s2kUsage := some 0, aead := none, symmetric := none,
          isLegacyAEAD := none } := by
  have hq : q.algorithm = p.algorithm ∧ q.publicParams = p.publicParams ∧
      q.privateParams = some privateParams ∧ q.isEncrypted = some false ∧
      q.unparseableKeyMaterial = none ∧ q.isDummy = false ∧ q.keyMaterialViews = [] ∧
      (config.aeadProtect = false → truthy q.aead = false) := by
    cases hc : config.aeadProtect
    · obtain ⟨hdec, s2k, -, -, -, hs2k, -, -, -, rfl⟩ := wp_of_run_ok (encrypt_cfb hc hd) he
      exact ⟨rfl, rfl, hpp, beq_iff_eq.1 hdec, hunp,
        by simp [isDummy, newS2KFromConfig_ne_gnuDummy hs2k], rfl,
        fun _ => by simp [hcfb hc, truthy]⟩
    · obtain ⟨hdec, s2k, -, -, -, -, -, -, hs2k, -, -, -, -, -, -, rfl⟩ :=
        wp_of_run_ok (encrypt_aead hc hd) he
      exact ⟨rfl, rfl, hpp, beq_iff_eq.1 hdec, hunp,
        by simp [isDummy, newS2KFromConfig_ne_gnuDummy hs2k], rfl, by simp⟩
  obtain ⟨hqa', hqpub, hqpp, hqenc, hqunp, hqd, hqviews, hqa⟩ := hq
  have hclear := clearPrivateParams_run (by simp [isMissingSecretKeyMaterial, hqunp, hqd]) hqpp
    (fill_of_privateParamsWF hwf)
  rw [show q.keyMaterial.map (fillAll q.keyMaterialViews privateParams) = q.keyMaterial by
    rw [hqviews, fillAll_nil_views, Option.map_id, id_eq]] at hclear
  refine ⟨_, hclear, ?_⟩
  obtain ⟨cleartext, hser, hdec⟩ := decryptsTo_of_encrypt hprot hd hpp he
    (⟨rfl, rfl, rfl, rfl, rfl, rfl, rfl, rfl, hqunp, rfl⟩ :
      CarriesProtection q { q with privateParams := none, isEncrypted := some true })
    hqa fun _ => ⟨rfl, rfl⟩
  obtain ⟨bytes, hser', hparse⟩ := parsePrivateKeyParams_serializeParams hwf []
  obtain rfl : cleartext = bytes := by rw [ha] at hser; exact Except.ok.inj (hser.symm.trans hser')
  rw [List.append_nil] at hparse
  rw [decrypt_of_decryptsTo hdec]
  simp [hqa', hqpub, ha, hparse, hqpp, hqenc]

theorem decrypt_after_encrypt_ed25519 :
    ∃ q, (encrypt keyedPrims cfbConfig fiveRandom "pw").run keyedEd25519Packet = .ok () q ∧
      ∃ q', clearPrivateParams.run q = .ok () q' ∧
      (decrypt keyedPrims "pw").run q' = .ok none
        { q with
          keyMaterial := none, s2kUsage := some 0, aead := none, symmetric := none,
          isLegacyAEAD := none } :=
  have he : (encrypt keyedPrims cfbConfig fiveRandom "pw").run keyedEd25519Packet = .ok ()
      (resultState ((encrypt keyedPrims cfbConfig fiveRandom "pw").run keyedEd25519Packet)) := rfl
  ⟨_, he, decrypt_after_encrypt (by exact keyedPrims_protectionCorrect)
    keyedEd25519Packet_privateParamsWF rfl rfl rfl rfl (fun _ => rfl) he⟩

/-! ## Decryption after the wire -/

/-- The configured S2K parameters fit the octets `write` gives them. -/
structure S2KOctets (config : Config) : Prop where
  count : config.s2kIterationCountByte < 256
  passes : config.s2kArgon2Params.1 < 256
  parallelism : config.s2kArgon2Params.2.1 < 256
  memoryExponent : config.s2kArgon2Params.2.2 < 256

theorem readable_of_newS2KFromConfig {config : Config} {random : Random} {s : S2K}
    (hc : S2KOctets config) (h : newS2KFromConfig config random = .ok s) : s.Readable := by
  unfold newS2KFromConfig at h
  split_ifs at h <;> cases h
  · exact ⟨by decide, by simp, hc.count⟩
  · exact ⟨by simp, hc.passes, hc.parallelism, hc.memoryExponent⟩

/-- **Passphrase protection survives the wire.** A returning `encrypt` of a key that is no dummy,
with a supported public part and well-formed private parameters, under a configuration whose S2K
parameters fit in octets: `write` returns, `read` of its output into a new packet of the same tag
returns, and `decrypt` with the same passphrase gives back a new decrypted packet with the public
part and private parameters of the key, and the specifier, IV and modern-AEAD flag of its
protection. The reader must not take a v4 key protected with modern AEAD for a legacy one. -/
theorem decrypt_read_write_encrypt {prims : Primitives} {config config' : Config}
    {random : Random} {passphrase : String} {p q : SecretKeyPacket} {a : PublicKeyAlgorithm}
    {privateParams : Params} (hprot : ProtectionCorrect prims config.preferredAEADAlgorithm)
    (hs2k : S2KOctets config) (hp : PublicPartWF p a)
    (hwf : PrivateParamsWF prims p.publicParams a privateParams)
    (hpp : p.privateParams = some privateParams) (hd : p.isDummy = false)
    (hunp : p.unparseableKeyMaterial = none)
    (hlegacy : config.aeadProtect = true → p.version = 4 →
      config'.parseAEADEncryptedV4KeysAsLegacy = false)
    (he : (encrypt prims config random passphrase).run p = .ok () q)
    (version : Nat) (created : Bytes) (algorithm : Nat) :
    ∃ bytes r, write.run q = .ok bytes q ∧
      (read prims config' bytes).run (new p.tag version created algorithm) = .ok () r ∧
      (decrypt prims passphrase).run r = .ok none
        { new p.tag p.version p.created p.algorithm with
          publicParams := p.publicParams, privateParams := some privateParams,
          isEncrypted := some false, s2k := q.s2k, iv := q.iv,
          usedModernAEAD := q.usedModernAEAD } := by
  obtain ⟨s, iv, keyMaterial, L, M, hq, hs, hsr, hsd, hiv, hkm, hu, hm, hread, hcfb, haead, hM⟩ :
      ∃ s iv keyMaterial L M,
        (q.tag = p.tag ∧ q.version = p.version ∧ q.created = p.created ∧
          q.algorithm = p.algorithm ∧ q.publicParams = p.publicParams ∧
          q.symmetric = some Symmetric.aes256 ∧ q.unparseableKeyMaterial = none) ∧
        q.s2k = some s ∧ s.Readable ∧ s ≠ .gnuDummy ∧ q.iv = some iv ∧
        q.keyMaterial = some keyMaterial ∧ (q.s2kUsage = some 253 ∨ q.s2kUsage = some 254) ∧
        (q.s2kUsage = some 253 → ∃ n, q.aead = some n ∧ n < 256) ∧
        IVReadsBack config' q iv L M ∧
        (config.aeadProtect = false → q.s2kUsage = some 254) ∧
        (config.aeadProtect = true → q.s2kUsage = some 253 ∧ q.isLegacyAEAD = some L) ∧
        q.usedModernAEAD = some M := by
    cases hc : config.aeadProtect
    · obtain ⟨-, s2k, -, -, -, hnew, -, -, -, rfl⟩ := wp_of_run_ok (encrypt_cfb hc hd) he
      exact ⟨s2k, _, _, false, false, ⟨rfl, rfl, rfl, rfl, rfl, rfl, hunp⟩, rfl,
        readable_of_newS2KFromConfig hs2k hnew, newS2KFromConfig_ne_gnuDummy hnew, rfl, rfl,
        .inr rfl, by simp, .inl ⟨.inl (by simp), ⟨_, rfl, by simp⟩, by simp, rfl⟩,
        fun _ => rfl, by simp, rfl⟩
    · obtain ⟨-, s2k, -, -, ivLength, -, -, -, hnew, -, -, hmode, -, -, -, rfl⟩ :=
        wp_of_run_ok (encrypt_aead hc hd) he
      have hm : ∃ n, some config.preferredAEADAlgorithm = some n ∧ n < 256 :=
        ⟨_, rfl, lt_of_getAEADMode hmode⟩
      by_cases h5 : p.version = 5
      · exact ⟨s2k, _, _, true, false, ⟨rfl, rfl, rfl, rfl, rfl, rfl, hunp⟩, rfl,
          readable_of_newS2KFromConfig hs2k hnew, newS2KFromConfig_ne_gnuDummy hnew, rfl, rfl,
          .inl rfl, fun _ => hm, .inl ⟨.inr (.inl h5), ⟨_, rfl, by simp [h5]⟩, by simp [h5], rfl⟩,
          by simp, fun _ => ⟨rfl, by simp [h5]⟩, by simp [h5]⟩
      · exact ⟨s2k, _, _, false, true, ⟨rfl, rfl, rfl, rfl, rfl, rfl, hunp⟩, rfl,
          readable_of_newS2KFromConfig hs2k hnew, newS2KFromConfig_ne_gnuDummy hnew, rfl, rfl,
          .inl rfl, fun _ => hm,
          .inr ⟨rfl, h5, hlegacy hc, by simpa [h5] using hmode, rfl, rfl⟩,
          by simp, fun _ => ⟨rfl, by simp [h5]⟩, by simp [h5]⟩
  obtain ⟨hqtag, hqv, hqc, hqa, hqpub, hsym, hqunp⟩ := hq
  have hpq : PublicPartWF q a :=
    ⟨by rw [hqv]; exact hp.version, by rw [hqc]; exact hp.created,
      by rw [hqa]; exact hp.algorithm, by rw [hqpub]; exact hp.publicParams,
      by rw [hqv, hqpub]; exact hp.legacyCurve25519⟩
  obtain ⟨bytes, hw, hr⟩ := read_write_protected prims config' hpq hu hs hsr hsd hsym (by decide)
    hm hiv hkm hqunp hread (new p.tag version created algorithm)
  refine ⟨bytes, _, hw, hr, ?_⟩
  obtain ⟨cleartext, hser, hdec⟩ := decryptsTo_of_encrypt hprot hd hpp he
    (⟨hqtag.symm, rfl, rfl, rfl, rfl, rfl, rfl, rfl, rfl, rfl⟩ :
      CarriesProtection q (readBack q (new p.tag version created algorithm) L M))
    (fun h => by simp [readBack, hcfb h, truthy, new])
    fun h => by simp [readBack, (haead h).1, (haead h).2]
  obtain ⟨cleartext', hser', hparse⟩ := parsePrivateKeyParams_serializeParams hwf []
  obtain rfl : cleartext = cleartext' := by
    rw [hp.algorithm] at hser; exact Except.ok.inj (hser.symm.trans hser')
  rw [List.append_nil] at hparse
  rw [decrypt_of_decryptsTo hdec]
  simp [readBack, new, hqv, hqc, hqa, hqpub, hp.algorithm, hparse, hM]

theorem decrypt_read_write_encrypt_ed25519 :
    ∃ q, (encrypt keyedPrims aeadConfig fiveRandom "pw").run keyedEd25519Packet = .ok () q ∧
      ∃ bytes r, write.run q = .ok bytes q ∧
        (read keyedPrims aeadConfig bytes).run (new keyedEd25519Packet.tag 0 [] 0) = .ok () r ∧
        (decrypt keyedPrims "pw").run r = .ok none
          { new keyedEd25519Packet.tag keyedEd25519Packet.version keyedEd25519Packet.created
              keyedEd25519Packet.algorithm with
            publicParams := keyedEd25519Packet.publicParams,
            privateParams := some [("seed", .bytes (List.replicate 32 4))],
            isEncrypted := some false, s2k := q.s2k, iv := q.iv,
            usedModernAEAD := q.usedModernAEAD } :=
  have he : (encrypt keyedPrims aeadConfig fiveRandom "pw").run keyedEd25519Packet = .ok ()
      (resultState ((encrypt keyedPrims aeadConfig fiveRandom "pw").run keyedEd25519Packet)) := rfl
  ⟨_, he, decrypt_read_write_encrypt (by exact keyedPrims_protectionCorrect)
    (by exact ⟨by decide, by decide, by decide, by decide⟩) keyedEd25519Packet_publicPartWF
    keyedEd25519Packet_privateParamsWF rfl rfl rfl (fun _ _ => rfl) he 0 [] 0⟩

end SecretKeyPacket

end OpenPgp
