import OpenPgp.Packet.SecretKeyProtection
import OpenPgp.Crypto.ParamsBounds

/-!
# The secret part in the clear

The private parameters of a Secret-Key packet are decoded on two paths: `read` of a key stored in
the clear parses the octets after the usage octet, and `decrypt` of a protected key parses the
octets its key material decrypts to. Each path is said once, as a `match` on the parser's result:

* `read_inTheClear`: `read` refuses a cleartext that `parsePrivateKeyParams` did not consume to
  its end, and passes an `UnsupportedError` of the parser through;
* `decrypt_of_decryptsTo`: `decrypt` takes the parameters whatever the parser consumed.

Three consequences for keys whose secret part is in the clear:

* `decrypt_accepts_unconsumed`: on a cleartext with octets after its parameters the two paths
  disagree; `decrypt` sets the parameters and `read` throws 'Error reading MPIs';
* `read_accepts_truncated`: the HMAC and AEAD parsers cut the hash seed and the key material with
  bare slices, so `read` accepts a key whose cleartext is shorter than the two together;
* `clearPrivateParams_after_write`: `write` of a key in the clear stores the serialization of its
  private parameters as key material, and `clearPrivateParams` leaves it there;
* `clearPrivateParams_after_read_native`: `read` of an Ed25519, Ed448, X25519 or X448 key in the
  clear keeps the secret it parses as a subarray of the key material, so `clearPrivateParams`
  zeroes it there too.
-/

namespace OpenPgp

namespace SecretKeyPacket

open PublicKeyAlgorithm

/-! ## `read` of a key in the clear -/

/-- The key-material step of `read` on a packet with a falsy usage, whose key material is the
cleartext followed, before v6, by its checksum. -/
theorem readKeyMaterial_inTheClear (prims : Primitives) (bytes : Bytes) {cleartext : Bytes}
    (i : Nat) (q : SecretKeyPacket) (hu : truthy q.s2kUsage = false)
    (hkm : bytes.drop (if q.version = 5 then i + 4 else i) =
      cleartext ++ if q.version = 6 then [] else writeChecksum cleartext) :
    (readKeyMaterial prims bytes i).run q =
      match parsePrivateKeyParams prims q.algorithm cleartext q.publicParams with
      | .ok (read, privateParams) =>
        if read < cleartext.length then
          .error (.error "Error reading MPIs")
            { q with
              keyMaterial := some (bytes.drop (if q.version = 5 then i + 4 else i))
              isEncrypted := some false, keyMaterialViews := [] }
        else
          .ok ()
            { q with
              keyMaterial := some (bytes.drop (if q.version = 5 then i + 4 else i))
              isEncrypted := some false, privateParams := some privateParams
              keyMaterialViews := privateParamViews q.algorithm privateParams }
      | .error err =>
        .error (if err.kind = .unsupported then err else .error "Error reading MPIs")
          { q with
            keyMaterial := some (bytes.drop (if q.version = 5 then i + 4 else i))
            isEncrypted := some false, keyMaterialViews := [] } := by
  have hc : (if q.version = 6 then bytes.drop (if q.version = 5 then i + 4 else i)
      else (bytes.drop (if q.version = 5 then i + 4 else i)).take
        ((bytes.drop (if q.version = 5 then i + 4 else i)).length - 2)) = cleartext := by
    rw [hkm]; split <;> simp [*]
  have hsum : ¬(q.version ≠ 6 ∧ writeChecksum cleartext ≠
      (bytes.drop (if q.version = 5 then i + 4 else i)).drop
        ((bytes.drop (if q.version = 5 then i + 4 else i)).length - 2)) := by
    rw [hkm]; split <;> simp [*]
  clear hkm
  rcases hp : parsePrivateKeyParams prims q.algorithm cleartext q.publicParams with
    _ | ⟨read, privateParams⟩
  on_goal 2 => dsimp only; split
  all_goals first | refine run_eq_error_of_wp ?_ | refine run_eq_ok_of_wp ?_
  all_goals
    simp only [readKeyMaterial, ↓wp_bind, ↓wp_get, ↓wp_set, ↓wp_ite, ↓wp_throw, ↓wp_pure,
      ↓wp_modify, Bool.not_false, if_true, if_false, *]
    exact ⟨trivial, trivial⟩

/-- **`read` of a key in the clear.** After the public part, at offset `i`, stands usage 0 and
then the cleartext, followed before v6 by its checksum: `read` keeps the octets after the usage
as key material, and takes the parameters, subarrays of it, only if the parser consumed the whole
cleartext. -/
theorem read_inTheClear (prims : Primitives) (config : Config) {bytes cleartext : Bytes}
    {r q : SecretKeyPacket} {i : Nat} (hpub : (readPublicKey bytes).run r = .ok i q)
    (hu : byteAt bytes i = some 0)
    (hkm : bytes.drop (if q.version = 5 then i + 6 else i + 1) =
      cleartext ++ if q.version = 6 then [] else writeChecksum cleartext) :
    (read prims config bytes).run r =
      match parsePrivateKeyParams prims q.algorithm cleartext q.publicParams with
      | .ok (read, privateParams) =>
        if read < cleartext.length then
          .error (.error "Error reading MPIs")
            { q with
              s2kUsage := some 0, isEncrypted := some false, keyMaterialViews := []
              keyMaterial := some (bytes.drop (if q.version = 5 then i + 6 else i + 1)) }
        else
          .ok ()
            { q with
              s2kUsage := some 0, isEncrypted := some false, privateParams := some privateParams
              keyMaterial := some (bytes.drop (if q.version = 5 then i + 6 else i + 1))
              keyMaterialViews := privateParamViews q.algorithm privateParams }
      | .error err =>
        .error (if err.kind = .unsupported then err else .error "Error reading MPIs")
          { q with
            s2kUsage := some 0, isEncrypted := some false, keyMaterialViews := []
            keyMaterial := some (bytes.drop (if q.version = 5 then i + 6 else i + 1)) } := by
  have hs2k : ∀ j, (readS2KFields config bytes).run ({ q with s2kUsage := some 0 }, j) =
      .ok false ({ q with s2kUsage := some 0 }, j) := fun j =>
    run_eq_ok_of_wp (by simp [readS2KFields, truthy])
  have hj : (if q.version = 5 then i + 1 + (if q.version = 5 then 1 else 0) + 4
      else i + 1 + if q.version = 5 then 1 else 0) = if q.version = 5 then i + 6 else i + 1 := by
    split <;> simp_all
  rw [read, run_bind_of_ok hpub]
  dsimp only
  rw [run_modify_bind, run_get_bind]
  simp only [hu, hs2k, truthy, run_set_bind, bne_self_eq_false, Bool.false_eq_true, and_false,
    if_false, Nat.add_zero]
  rw [readKeyMaterial_inTheClear prims bytes _ { q with s2kUsage := some 0 } rfl (hj ▸ hkm)]
  simp only [hj]

/-! ## `decrypt` -/

/-- The key material of a protected packet decrypts and authenticates to `cleartext` under
`passphrase`: the packet is no dummy, holds no unparseable material and is not decrypted, the S2K
key derives, and the CFB decryption (usage 254) or the AEAD one (usage 253) of the key material
returns `cleartext`. -/
def DecryptsTo (prims : Primitives) (passphrase : String) (p : SecretKeyPacket)
    (cleartext : Bytes) : Prop :=
  p.isDummy = false ∧ p.unparseableKeyMaterial = none ∧ p.isDecrypted = false ∧
    ∃ key, produceEncryptionKey prims p.version p.s2k passphrase p.symmetric p.aead
        (writeTag p.tag) p.isLegacyAEAD = .ok key ∧
      (p.s2kUsage = some 254 ∧ cfbDecryptKeyMaterial prims p key = .ok cleartext ∨
        p.s2kUsage = some 253 ∧ ∃ ivLength, getAEADMode (p.aead.getD 0) true = .ok ivLength ∧
          aeadDecryptKeyMaterial prims p key ivLength = .ok cleartext)

/-- **`decrypt` of a key that decrypts.** The parameters are taken whatever the parser consumed;
any error of the parser, an `UnsupportedError` included, becomes 'Error reading MPIs' with the
packet as it was. -/
theorem decrypt_of_decryptsTo {prims : Primitives} {passphrase : String} {p : SecretKeyPacket}
    {cleartext : Bytes} (h : DecryptsTo prims passphrase p cleartext) :
    (decrypt prims passphrase).run p =
      match parsePrivateKeyParams prims p.algorithm cleartext p.publicParams with
      | .ok (_, privateParams) =>
        .ok none
          { p with
            privateParams := some privateParams, isEncrypted := some false, keyMaterial := none
            s2kUsage := some 0, aead := none, symmetric := none, isLegacyAEAD := none }
      | .error _ => .error (.error "Error reading MPIs") p := by
  obtain ⟨hd, hu, hdec, key, hkey, ⟨hs, hc⟩ | ⟨hs, ivLength, hiv, hc⟩⟩ := h <;>
  rcases hp : parsePrivateKeyParams prims p.algorithm cleartext p.publicParams with
    _ | ⟨_, privateParams⟩ <;>
  (first | refine run_eq_error_of_wp ?_ | refine run_eq_ok_of_wp ?_) <;>
  simp only [decrypt, ↓wp_bind, ↓wp_get, ↓wp_ite, ↓wp_throw, ↓wp_pure, ↓wp_modify,
    ↓wp_liftExcept, *] <;>
  simp

/-! ## The two paths disagree -/

/-- **`decrypt` accepts what `read` refuses.** Take a protected packet whose key material decrypts
to `cleartext`, and the same key stored in the clear: its public part read into `q` with the same
algorithm and public parameters, then usage 0 and `cleartext`. When the parser returns having
consumed less than all of `cleartext`, `decrypt` sets the parameters it returned, and `read`
throws 'Error reading MPIs'. -/
theorem decrypt_accepts_unconsumed {prims : Primitives} {passphrase : String} {config : Config}
    {p r q : SecretKeyPacket} {bytes cleartext : Bytes} {i read : Nat} {privateParams : Params}
    (hdec : DecryptsTo prims passphrase p cleartext)
    (hpub : (readPublicKey bytes).run r = .ok i q) (halg : q.algorithm = p.algorithm)
    (hparams : q.publicParams = p.publicParams) (hu : byteAt bytes i = some 0)
    (hkm : bytes.drop (if q.version = 5 then i + 6 else i + 1) =
      cleartext ++ if q.version = 6 then [] else writeChecksum cleartext)
    (hparse : parsePrivateKeyParams prims p.algorithm cleartext p.publicParams =
      .ok (read, privateParams))
    (hread : read < cleartext.length) :
    (decrypt prims passphrase).run p =
      .ok none
        { p with
          privateParams := some privateParams, isEncrypted := some false, keyMaterial := none
          s2kUsage := some 0, aead := none, symmetric := none, isLegacyAEAD := none } ∧
    (SecretKeyPacket.read prims config bytes).run r =
      .error (.error "Error reading MPIs")
        { q with
          s2kUsage := some 0, isEncrypted := some false, keyMaterialViews := []
          keyMaterial := some (bytes.drop (if q.version = 5 then i + 6 else i + 1)) } := by
  rw [decrypt_of_decryptsTo hdec, read_inTheClear prims config hpub hu hkm, halg, hparams, hparse]
  exact ⟨rfl, if_pos hread⟩

/-- A v6 Ed25519 key protected with CFB, AES-256 and iterated and salted SHA-256 (count octet
224), salt and IV of octets 5, whose key material is `cleartext` and twenty zero octets, each
octet plus 2: under `keyedPrims` and the passphrase "pw" it decrypts to `cleartext`. -/
def protectedEd25519Key (cleartext : Bytes) : Bytes :=
  [6, 0, 0, 0, 0, 27, 0, 0, 0, 32] ++ List.replicate 32 9 ++ [254, 29, 9, 11, 3, 8] ++
    List.replicate 8 5 ++ [224] ++ List.replicate 16 5 ++
    (cleartext ++ List.replicate 20 0).map (· + 2)

/-- `protectedEd25519Key` of the seed of `clearEd25519Key` followed by one octet, as `read` leaves
it under `keyedPrims`. -/
def trailingEd25519Packet : SecretKeyPacket :=
  resultState ((read keyedPrims cfbConfig (protectedEd25519Key (List.replicate 32 4 ++ [0]))).run
    (new 5 6 [0, 0, 0, 0] 27))

set_option maxRecDepth 2000 in
/-- The seed of `clearEd25519Key` followed by one octet, protected and in the clear: `decrypt`
of the protected key sets its seed, and `read` of the key in the clear throws. -/
theorem decrypt_accepts_unconsumed_ed25519 :
    ∃ q : SecretKeyPacket, Reachable keyedPrims trailingEd25519Packet ∧
      DecryptsTo keyedPrims "pw" trailingEd25519Packet (List.replicate 32 4 ++ [0]) ∧
      (decrypt keyedPrims "pw").run trailingEd25519Packet =
        .ok none
          { trailingEd25519Packet with
            privateParams := some [("seed", .bytes (List.replicate 32 4))]
            isEncrypted := some false, keyMaterial := none, s2kUsage := some 0, aead := none
            symmetric := none, isLegacyAEAD := none } ∧
      (read keyedPrims cfbConfig (clearEd25519Key ++ [0])).run (new 5 6 [0, 0, 0, 0] 27) =
        .error (.error "Error reading MPIs")
          { q with
            s2kUsage := some 0, isEncrypted := some false, keyMaterialViews := []
            keyMaterial := some (List.replicate 32 4 ++ [0]) } := by
  have hdec : DecryptsTo keyedPrims "pw" trailingEd25519Packet (List.replicate 32 4 ++ [0]) :=
    ⟨by rfl, by rfl, by rfl, _, by rfl, .inl ⟨by rfl, by rfl⟩⟩
  have hpub : (readPublicKey (clearEd25519Key ++ [0])).run (new 5 6 [0, 0, 0, 0] 27) =
      .ok 42 (resultState ((readPublicKey (clearEd25519Key ++ [0])).run
        (new 5 6 [0, 0, 0, 0] 27))) := by rfl
  exact ⟨_, @Reachable.read keyedPrims cfbConfig (protectedEd25519Key (List.replicate 32 4 ++ [0]))
    5 6 [0, 0, 0, 0] 27 _ (by rfl), hdec,
    decrypt_accepts_unconsumed hdec hpub (by rfl) (by rfl) (by rfl) (by rfl) (by rfl)
      (by decide)⟩

/-! ## Truncated HMAC and AEAD keys -/

/-- **`read` accepts a truncated HMAC or AEAD key.** Take an HMAC or AEAD key stored in the clear,
with a cleartext shorter than the 32-octet hash seed and the key material together. The private
parser returns an offset past the cleartext's end, so `read`'s check that the whole cleartext
was consumed passes, and `read` returns with a hash seed and key material that are together
shorter than their sizes. -/
theorem read_accepts_truncated {prims : Primitives} {config : Config} {bytes cleartext : Bytes}
    {r q : SecretKeyPacket} {a : PublicKeyAlgorithm} {i cipher keySize : Nat}
    (hpub : (readPublicKey bytes).run r = .ok i q) (halg : q.algorithm = a.code)
    (hc : enumValue (q.publicParams.get "cipher") = .ok cipher)
    (hks : a = .hmac ∧ getHashByteLength cipher = .ok keySize ∨
      a = .aead ∧ (getCipherParams cipher).map (·.keySize) = .ok keySize)
    (hu : byteAt bytes i = some 0)
    (hkm : bytes.drop (if q.version = 5 then i + 6 else i + 1) =
      cleartext ++ if q.version = 6 then [] else writeChecksum cleartext)
    (hshort : cleartext.length < 32 + keySize) :
    parsePrivateKeyParams prims q.algorithm cleartext q.publicParams =
      .ok (32 + keySize,
        [("hashSeed", .bytes (cleartext.take 32)), ("keyMaterial", .bytes (cleartext.drop 32))]) ∧
    (read prims config bytes).run r =
      .ok ()
        { q with
          s2kUsage := some 0, isEncrypted := some false
          privateParams := some [("hashSeed", .bytes (cleartext.take 32)),
            ("keyMaterial", .bytes (cleartext.drop 32))]
          keyMaterial := some (bytes.drop (if q.version = 5 then i + 6 else i + 1))
          keyMaterialViews := privateParamViews q.algorithm
            [("hashSeed", .bytes (cleartext.take 32)),
              ("keyMaterial", .bytes (cleartext.drop 32))] } := by
  have hparse : parsePrivateKeyParams prims q.algorithm cleartext q.publicParams =
      .ok (32 + keySize,
        [("hashSeed", .bytes (cleartext.take 32)), ("keyMaterial", .bytes (cleartext.drop 32))]) := by
    rw [halg, parsePrivateKeyParams_symmetric prims cleartext hc hks,
      slice_of_length_le hshort.le]
    rfl
  refine ⟨hparse, ?_⟩
  rw [read_inTheClear prims config hpub hu hkm, hparse]
  exact if_neg (Nat.not_lt.2 hshort.le)

/-- A v6 HMAC-SHA-256 key in the clear, cut short: the cipher octet 8 and a digest of octets 7,
usage 0, and 40 octets 3 in place of the 32-octet hash seed and the 32 octets of key material. -/
def truncatedHmacKey : Bytes :=
  [6, 0, 0, 0, 0, 101, 0, 0, 0, 33, 8] ++ List.replicate 32 7 ++ [0] ++ List.replicate 40 3

/-- `read` accepts `truncatedHmacKey`, with 8 of the 32 octets of key material. -/
theorem read_accepts_truncated_hmac :
    ∃ q : SecretKeyPacket,
      parsePrivateKeyParams keyedPrims q.algorithm (List.replicate 40 3) q.publicParams =
        .ok (64, [("hashSeed", .bytes (List.replicate 32 3)),
          ("keyMaterial", .bytes (List.replicate 8 3))]) ∧
      (read keyedPrims cfbConfig truncatedHmacKey).run (new 5 6 [0, 0, 0, 0] 101) =
        .ok ()
          { q with
            s2kUsage := some 0, isEncrypted := some false
            privateParams := some [("hashSeed", .bytes (List.replicate 32 3)),
              ("keyMaterial", .bytes (List.replicate 8 3))]
            keyMaterial := some (List.replicate 40 3)
            keyMaterialViews := privateParamViews q.algorithm
              [("hashSeed", .bytes (List.replicate 32 3)),
                ("keyMaterial", .bytes (List.replicate 8 3))] } := by
  have hpub : (readPublicKey truncatedHmacKey).run (new 5 6 [0, 0, 0, 0] 101) =
      .ok 43 (resultState ((readPublicKey truncatedHmacKey).run (new 5 6 [0, 0, 0, 0] 101))) :=
    by rfl
  exact ⟨_, read_accepts_truncated hpub (rfl : _ = PublicKeyAlgorithm.hmac.code) rfl
    (.inl ⟨rfl, rfl⟩) rfl rfl (by decide)⟩

/-! ## `clearPrivateParams` after `write` -/

/-- A returning `write` of a key in the clear that is no dummy and holds no unparseable material
has stored the serialization of its private parameters as key material, and changed nothing
else. -/
theorem write_inTheClear {p : SecretKeyPacket} {privateParams : Params} {cleartext : Bytes}
    (hd : p.isDummy = false) (hu : p.unparseableKeyMaterial = none)
    (hs : truthy p.s2kUsage = false) (hpp : p.privateParams = some privateParams)
    (hser : serializeParams p.algorithm privateParams = .ok cleartext) :
    wp write (fun _ q => q = { p with keyMaterial := some cleartext, keyMaterialViews := [] })
      (fun _ _ => True) p := by
  simp only [write, ↓wp_bind, ↓wp_get, ↓wp_ite, ↓wp_throw, ↓wp_pure, ↓wp_modify,
    ↓wp_liftExcept, hd, hu, hs, hpp, hser, Bool.not_false, if_true, Bool.false_eq_true, if_false]
  repeat' split
  all_goals simp_all

/-- **`clearPrivateParams` leaves the cleartext serialization.** `write` of a decrypted key in the
clear, then a returning `clearPrivateParams`: the private parameters are gone, and the key material
is their serialization. -/
theorem clearPrivateParams_after_write {p q q' : SecretKeyPacket} {privateParams : Params}
    {bytes cleartext : Bytes} (hd : p.isDummy = false) (hu : p.unparseableKeyMaterial = none)
    (hs : truthy p.s2kUsage = false) (hpp : p.privateParams = some privateParams)
    (hser : serializeParams p.algorithm privateParams = .ok cleartext)
    (hw : write.run p = .ok bytes q) (hc : clearPrivateParams.run q = .ok () q') :
    q'.privateParams = none ∧ q'.keyMaterial = some cleartext := by
  obtain rfl := wp_of_run_ok (write_inTheClear hd hu hs hpp hser) hw
  obtain ⟨hm, -⟩ | ⟨-, _, -, rfl⟩ := wp_of_run_ok (clearPrivateParams_ok _) hc
  · simp_all [isMissingSecretKeyMaterial, isDummy]
  · exact ⟨rfl, by simp⟩

/-- The Ed25519 key read in the clear, written and cleared: a reachable packet whose key material
is its seed. -/
theorem clearPrivateParams_after_write_ed25519 :
    ∃ (bytes : Bytes) (q q' : SecretKeyPacket), Reachable keyedPrims q' ∧
      write.run keyedEd25519Packet = .ok bytes q ∧ clearPrivateParams.run q = .ok () q' ∧
      q'.privateParams = none ∧ q'.keyMaterial = some (List.replicate 32 4) := by
  obtain ⟨bytes, hw⟩ : ∃ bytes, write.run keyedEd25519Packet =
      .ok bytes (Call.run keyedPrims .write keyedEd25519Packet) := ⟨_, by rfl⟩
  have hc : clearPrivateParams.run (Call.run keyedPrims .write keyedEd25519Packet) =
      .ok () (Call.run keyedPrims .clearPrivateParams
        (Call.run keyedPrims .write keyedEd25519Packet)) := by rfl
  exact ⟨bytes, _, _, .call _ (.call _ keyedEd25519Packet_reachable), hw, hc,
    clearPrivateParams_after_write (by rfl) (by rfl) (by rfl) (by rfl) (by rfl) hw hc⟩

/-! ## `clearPrivateParams` after `read` -/

/-- `fill(0)` through a subarray at the start of a buffer zeroes exactly its octets. -/
theorem zeroRange_append (s t : Bytes) :
    zeroRange 0 s.length (s ++ t) = List.replicate s.length 0 ++ t := by
  simp [zeroRange, List.map_const']

/-- The native curves' private parser takes a secret of the payload size, under the field name
`seed` (Ed25519, Ed448) or `k` (X25519, X448), as a subarray at the start of its input. -/
theorem parsePrivateKeyParams_native (prims : Primitives) {a : PublicKeyAlgorithm}
    (ha : a ∈ [ed25519, ed448, x25519, x448]) {secret : Bytes}
    (hsize : getCurvePayloadSize a .undefined = .ok secret.length) (pub : Params) :
    ∃ name, parsePrivateKeyParams prims a.code secret pub =
        .ok (secret.length, [(name, .bytes secret)]) ∧
      privateParamViews a.code [(name, .bytes secret)] = [(name, 0)] := by
  simp only [List.mem_cons, List.mem_singleton, List.not_mem_nil, or_false] at ha
  have hread : readExactAt secret 0 secret.length = .ok (secret, secret.length) := by
    simp [readExactAt, readExactSubarray, slice, Except.map]
  rcases ha with rfl | rfl | rfl | rfl
  · exact ⟨"seed", by simp [parsePrivateKeyParams, hsize, hread], rfl⟩
  · exact ⟨"seed", by simp [parsePrivateKeyParams, hsize, hread], rfl⟩
  · exact ⟨"k", by simp [parsePrivateKeyParams, hsize, hread], rfl⟩
  · exact ⟨"k", by simp [parsePrivateKeyParams, hsize, hread], rfl⟩

/-- **`clearPrivateParams` zeroes a native key read in the clear.** Read an Ed25519, Ed448, X25519
or X448 key stored in the clear into a packet that is no dummy: the secret is a subarray of the
key material, so `clearPrivateParams` returns with the secret's octets of the key material
zeroed, and before v6 the checksum after them left as it was. -/
theorem clearPrivateParams_after_read_native {prims : Primitives} {config : Config}
    {bytes secret : Bytes} {r q : SecretKeyPacket} {a : PublicKeyAlgorithm} {i : Nat}
    (hpub : (readPublicKey bytes).run r = .ok i q) (hd : r.isDummy = false)
    (hunp : r.unparseableKeyMaterial = none) (ha : a ∈ [ed25519, ed448, x25519, x448])
    (halg : q.algorithm = a.code) (hsize : getCurvePayloadSize a .undefined = .ok secret.length)
    (hu : byteAt bytes i = some 0)
    (hkm : bytes.drop (if q.version = 5 then i + 6 else i + 1) =
      secret ++ if q.version = 6 then [] else writeChecksum secret) :
    ∃ q', (read prims config bytes).run r = .ok () q' ∧
      q'.keyMaterial = some (secret ++ if q.version = 6 then [] else writeChecksum secret) ∧
      clearPrivateParams.run q' = .ok () { q' with
        keyMaterial := some (List.replicate secret.length 0 ++
          if q.version = 6 then [] else writeChecksum secret),
        privateParams := none, isEncrypted := some true } := by
  obtain ⟨name, hparse, hviews⟩ := parsePrivateKeyParams_native prims ha hsize q.publicParams
  rw [read_inTheClear prims config hpub hu hkm, halg, hparse]
  dsimp only
  rw [if_neg (Nat.lt_irrefl _), hviews]
  refine ⟨_, rfl, congrArg some hkm, ?_⟩
  obtain ⟨_, _, _, _, rfl⟩ := wp_of_run_ok (readPublicKey_frame bytes r) hpub
  rw [clearPrivateParams_run (by simpa [isMissingSecretKeyMaterial, hunp] using hd) rfl
    (by simp [Param.fill])]
  simp [fillAll, fillShared, hkm, zeroRange_append]

/-- The Ed25519 key in the clear: its seed is zeroed in the key material. -/
theorem clearPrivateParams_after_read_ed25519 :
    ∃ q', (read keyedPrims cfbConfig clearEd25519Key).run (new 5 6 [0, 0, 0, 0] 27) = .ok () q' ∧
      q'.keyMaterial = some (List.replicate 32 4) ∧
      clearPrivateParams.run q' = .ok () { q' with
        keyMaterial := some (List.replicate 32 0), privateParams := none,
        isEncrypted := some true } := by
  have hpub : (readPublicKey clearEd25519Key).run (new 5 6 [0, 0, 0, 0] 27) =
      .ok 42 (resultState ((readPublicKey clearEd25519Key).run (new 5 6 [0, 0, 0, 0] 27))) := by
    rfl
  exact @clearPrivateParams_after_read_native keyedPrims cfbConfig clearEd25519Key
    (List.replicate 32 4) _ _ ed25519 42 hpub rfl rfl (by simp) rfl rfl rfl rfl

end SecretKeyPacket

end OpenPgp
