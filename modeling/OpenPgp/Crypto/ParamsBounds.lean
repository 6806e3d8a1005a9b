import OpenPgp.Crypto.ParamsCodec

/-!
# What the parameter parsers read

Each field read of the parsers in `src/crypto/crypto.js` advances the offset `read` past the field
it reads. A field read with `readMPIAt`, `readExactAt` or a reader of `src/type` lies within the
input, so the offset after it does too, whatever the offset before it (`readMPIAt_le`,
`readExactAt_le`, `readObjectAt_le`): every reader consumes at least one octet and at most its
input (`TypeObject.reader_progress`). A field of fixed size comes back with exactly that size.
Hence:

* `parsePublicKeyParams_within`, `parsePrivateKeyParams_within`: for every algorithm but HMAC and
  AEAD, a returning parse reports an offset within its input, and every fixed-size field of the
  record (`publicFieldSize`, `privateFieldSize`) has its size;
* `parseEncSessionKeyParams_aead_iv`: the AEAD IV of an encrypted session key is cut with a bare
  slice, but the ciphertext after it is read with a length prefix, so a returning parse has an IV
  of full length.

The HMAC and AEAD key parsers cut their fixed-size fields with `subarrayAt`, a bare slice that
comes back short on a truncated input while the offset still advances by the field's size
(`parsePrivateKeyParams_symmetric`).
-/

namespace OpenPgp

open PublicKeyAlgorithm

/-! ## Field reads -/

/-- A mapped computation returns exactly when the computation does. -/
theorem map_eq_ok {α β : Type} {f : α → β} {x : Except Err α} {b : β} :
    x.map f = .ok b ↔ ∃ a, x = .ok a ∧ f a = b := by
  cases x <;> simp [Except.map]

theorem readExactSubarray_eq_ok {input x : Bytes} {start stop : Nat}
    (h : readExactSubarray input start stop = .ok x) :
    stop ≤ input.length ∧ x = slice input start stop := by
  unfold readExactSubarray at h
  split at h
  · cases h
  · cases h; exact ⟨by omega, rfl⟩

/-- An MPI that is read lies within its input, after its two-octet bit count. -/
theorem readMPI_length {input x : Bytes} (h : readMPI input = .ok x) :
    x.length + 2 ≤ input.length := by
  obtain ⟨hle, rfl⟩ := readExactSubarray_eq_ok h
  simp [slice]; omega

/-- After an MPI field the offset is within the input, whatever the offset before it. -/
theorem readMPIAt_le {bytes x : Bytes} {read read' : Nat}
    (h : readMPIAt bytes read = .ok (x, read')) : read' ≤ bytes.length := by
  obtain ⟨_, hm, he⟩ := map_eq_ok.1 h
  cases he
  have := readMPI_length hm
  simp at this; omega

/-- A field of `size` octets read with `readExactSubarray` has `size` octets, and the offset after
it is within the input. -/
theorem readExactAt_le {bytes x : Bytes} {read size read' : Nat}
    (h : readExactAt bytes read size = .ok (x, read')) :
    read' = read + size ∧ read' ≤ bytes.length ∧ x.length = size := by
  obtain ⟨_, hm, he⟩ := map_eq_ok.1 h
  cases he
  obtain ⟨hle, rfl⟩ := readExactSubarray_eq_ok hm
  have : (slice bytes read (read + size)).length = size := by simp [slice]; omega
  rw [this]; omega

/-- A left-padded field has the length it was padded to. -/
theorem leftPad_length {x y : Bytes} {n : Nat} (h : leftPad x n = .ok y) : y.length = n := by
  unfold leftPad at h
  split at h
  · cases h
  · cases h; simp; omega

/-- A reader of `src/type` makes progress: it consumes at least one octet, and at most its
input. -/
def Progress (reader : Bytes → Except Err (TypeObject × Nat)) : Prop :=
  ∀ input o n, reader input = .ok (o, n) → 0 < n ∧ n ≤ input.length

theorem readLengthPrefixed_progress {message : String} {input data : Bytes} {n : Nat}
    (h : readLengthPrefixed message input = .ok (data, n)) : 0 < n ∧ n ≤ input.length := by
  unfold readLengthPrefixed at h
  split at h
  · cases h
  · split at h
    · cases h
    · cases h; simp; omega

/-- Every reader of `src/type` makes progress. -/
theorem TypeObject.reader_progress : ∀ o : TypeObject, Progress (TypeObject.reader o)
  | .oid _, input, _, n, h | .ecdhSymkey _, input, _, n, h
  | .shortByteString _, input, _, n, h => by
    obtain ⟨⟨_, m⟩, hl, he⟩ := map_eq_ok.1 h
    cases he
    exact readLengthPrefixed_progress hl
  | .kdfParams _ _, input, _, n, h => by
    simp only [TypeObject.reader, readKDFParams] at h
    split at h
    · cases h; simp
    · cases h
  | .symAlgoEnum _, input, _, n, h => by
    obtain ⟨_, hw, he⟩ := map_eq_ok.1 h
    cases he
    cases input with
    | nil => cases hw
    | cons => simp
  | .hashEnum _, input, _, n, h | .aeadEnum _, input, _, n, h => by
    simp only [TypeObject.reader, readHashEnum, readAEADEnum] at h
    cases input with
    | nil => cases h
    | cons =>
      simp only [List.head?] at h
      split_ifs at h
      cases h
      simp
  | .ecdhXSymmetricKey _ _, input, _, n, h => by
    obtain ⟨_, hr, he⟩ := map_eq_ok.1 h
    cases he
    have := (readExactSubarray_eq_ok hr).1
    by_cases hodd : (input.getD 0 0).toNat % 2 = 1 <;>
      simp only [hodd, if_true, if_false] at this ⊢ <;> omega

/-- A field read by a reader that makes progress starts before the end of the input, and the offset
after it is within the input, whatever the offset before it: a reader consumes nothing past the
end. -/
theorem readObjectAt_le {reader : Bytes → Except Err (TypeObject × Nat)} (hr : Progress reader)
    {bytes : Bytes} {read read' : Nat} {o : TypeObject}
    (h : readObjectAt reader bytes read = .ok (o, read')) :
    read < read' ∧ read' ≤ bytes.length := by
  obtain ⟨⟨_, n⟩, hn, he⟩ := map_eq_ok.1 h
  cases he
  have := hr _ _ _ hn
  simp at this; omega

/-! ## Offsets and field sizes -/

/-- The fixed-size fields of a public record and their sizes: the native points, the padded
EdDSA-legacy point, the HMAC and AEAD digest, and the keys of the composite ML-KEM and ML-DSA
algorithms. -/
def publicFieldSize (a : PublicKeyAlgorithm) (name : String) : Option Nat :=
  match a with
  | eddsaLegacy => if name = "Q" then some 33 else none
  | ed25519 | x25519 => if name = "A" then some 32 else none
  | ed448 => if name = "A" then some 57 else none
  | x448 => if name = "A" then some 56 else none
  | hmac | aead => if name = "digest" then some 32 else none
  | pqcMlkemX25519 =>
    if name = "eccPublicKey" then some 32 else if name = "mlkemPublicKey" then some 1184 else none
  | pqcMldsaEd25519 =>
    if name = "eccPublicKey" then some 32 else if name = "mldsaPublicKey" then some 1952 else none
  | _ => none

/-- A field of a record has the size `size` gives its name, if it gives one and the field is an
octet string. -/
def FieldHasSize (size : String → Option Nat) : String × Param → Prop
  | (name, .bytes x) => ∀ n, size name = some n → x.length = n
  | _ => True

/-- Under a size function that gives no size, every field has its size. -/
theorem FieldHasSize.of_none {size : String → Option Nat} (h : ∀ name, size name = none)
    (f : String × Param) : FieldHasSize size f := by
  rcases f with ⟨name, _ | _ | _⟩ <;> simp [FieldHasSize, h]

/-- **The public parser stays within its input.** For every algorithm but HMAC and AEAD, a
returning `parsePublicKeyParams` reports an offset within its input, and every fixed-size field
of the record has its size. -/
theorem parsePublicKeyParams_within {a : PublicKeyAlgorithm} {bytes : Bytes} {read : Nat}
    {params : Params} (ha : a ≠ hmac ∧ a ≠ aead)
    (h : parsePublicKeyParams a.code bytes = .ok (read, params)) :
    read ≤ bytes.length ∧ ∀ f ∈ params, FieldHasSize (publicFieldSize a) f := by
  cases a <;>
    simp only [parsePublicKeyParams, ofCode_code, bind_eq_ok, pure_eq_ok, throw_eq_error,
      Except.ok.injEq, Prod.mk.injEq, Prod.exists] at h
  case rsaEncryptSign | rsaEncrypt | rsaSign =>
    obtain ⟨_, _, -, _, _, h, rfl, rfl⟩ := h
    exact ⟨readMPIAt_le h, fun f _ => .of_none (fun _ => rfl) f⟩
  case dsa =>
    obtain ⟨_, _, -, _, _, -, _, _, -, _, _, h, rfl, rfl⟩ := h
    exact ⟨readMPIAt_le h, fun f _ => .of_none (fun _ => rfl) f⟩
  case elgamal =>
    obtain ⟨_, _, -, _, _, -, _, _, h, rfl, rfl⟩ := h
    exact ⟨readMPIAt_le h, fun f _ => .of_none (fun _ => rfl) f⟩
  case ecdsa =>
    obtain ⟨_, _, -, _, -, _, _, h, rfl, rfl⟩ := h
    exact ⟨readMPIAt_le h, fun f _ => .of_none (fun _ => rfl) f⟩
  case ecdh =>
    obtain ⟨_, _, -, _, -, _, _, -, _, _, h, rfl, rfl⟩ := h
    exact ⟨(readObjectAt_le (TypeObject.reader_progress (.kdfParams 0 0)) h).2,
      fun f _ => .of_none (fun _ => rfl) f⟩
  case eddsaLegacy =>
    obtain ⟨_, _, -, _, -, h⟩ := h
    split_ifs at h
    · simp at h
    simp only [bind_eq_ok, pure_eq_ok, Except.ok.injEq, Prod.mk.injEq, Prod.exists] at h
    obtain ⟨_, -, _, _, h, _, hQ, rfl, rfl⟩ := h
    exact ⟨readMPIAt_le h, by simp [FieldHasSize, publicFieldSize, leftPad_length hQ]⟩
  case x25519 | x448 | ed25519 | ed448 =>
    obtain ⟨_, hs, _, _, h, rfl, rfl⟩ := h
    cases hs
    exact ⟨(readExactAt_le h).2.1,
      List.forall_mem_singleton.2 fun _ hn => by cases hn; exact (readExactAt_le h).2.2⟩
  case pqcMlkemX25519 | pqcMldsaEd25519 =>
    obtain ⟨_, _, ⟨_, hs, h₁⟩, _, _, h₂, rfl, rfl⟩ := h
    cases hs
    exact ⟨(readExactAt_le h₂).2.1, List.forall_mem_cons.2
      ⟨fun _ hn => by cases hn; exact (readExactAt_le h₁).2.2,
        List.forall_mem_singleton.2 fun _ hn => by cases hn; exact (readExactAt_le h₂).2.2⟩⟩
  case hmac => exact absurd rfl ha.1
  case aead => exact absurd rfl ha.2
  case pqcSlhdsaShake128s => cases h

theorem parsePublicKeyParams_within_ed25519 :
    32 ≤ (List.replicate 32 (7 : UInt8)).length ∧
      ∀ f ∈ [("A", Param.bytes (List.replicate 32 7))], FieldHasSize (publicFieldSize ed25519) f :=
  parsePublicKeyParams_within (by decide) (by rfl :
    parsePublicKeyParams ed25519.code (List.replicate 32 7) =
      .ok (32, [("A", .bytes (List.replicate 32 7))]))

/-- The fixed-size fields of a private record and their sizes, some of which the public record
sets: the scalars and seeds of the elliptic-curve algorithms, the HMAC and AEAD hash seed and key
material, and the classical secret keys and seeds of the composite algorithms. -/
def privateFieldSize (a : PublicKeyAlgorithm) (publicParams : Params) (name : String) :
    Option Nat :=
  match a with
  | ecdsa | ecdh =>
    if name = "d" then (getCurvePayloadSize a (publicParams.get "oid")).toOption else none
  | eddsaLegacy =>
    if name = "seed" then (getCurvePayloadSize eddsaLegacy (publicParams.get "oid")).toOption
    else none
  | ed25519 => if name = "seed" then some 32 else none
  | ed448 => if name = "seed" then some 57 else none
  | x25519 => if name = "k" then some 32 else none
  | x448 => if name = "k" then some 56 else none
  | hmac =>
    if name = "hashSeed" then some 32
    else if name = "keyMaterial" then
      (enumValue (publicParams.get "cipher") >>= getHashByteLength).toOption
    else none
  | aead =>
    if name = "hashSeed" then some 32
    else if name = "keyMaterial" then
      ((enumValue (publicParams.get "cipher") >>= getCipherParams).map (·.keySize)).toOption
    else none
  | pqcMlkemX25519 =>
    if name = "eccSecretKey" then some 32 else if name = "mlkemSeed" then some 64 else none
  | pqcMldsaEd25519 =>
    if name = "eccSecretKey" then some 32 else if name = "mldsaSeed" then some 32 else none
  | _ => none

/-- **The private parser stays within its input.** For every algorithm but HMAC and AEAD, a
returning `parsePrivateKeyParams` reports an offset within its input, and every fixed-size field
of the record has its size. -/
theorem parsePrivateKeyParams_within {prims : Primitives} {a : PublicKeyAlgorithm}
    {bytes : Bytes} {publicParams : Params} {read : Nat} {params : Params}
    (ha : a ≠ hmac ∧ a ≠ aead)
    (h : parsePrivateKeyParams prims a.code bytes publicParams = .ok (read, params)) :
    read ≤ bytes.length ∧ ∀ f ∈ params, FieldHasSize (privateFieldSize a publicParams) f := by
  cases a <;>
    simp only [parsePrivateKeyParams, ofCode_code, bind_eq_ok, pure_eq_ok, throw_eq_error,
      Except.ok.injEq, Prod.mk.injEq, Prod.exists] at h
  case rsaEncryptSign | rsaEncrypt | rsaSign =>
    obtain ⟨_, _, -, _, _, -, _, _, -, _, _, h, rfl, rfl⟩ := h
    exact ⟨readMPIAt_le h, fun f _ => .of_none (fun _ => rfl) f⟩
  case elgamal | dsa =>
    obtain ⟨_, _, h, rfl, rfl⟩ := h
    exact ⟨readMPIAt_le h, fun f _ => .of_none (fun _ => rfl) f⟩
  case ecdsa | ecdh =>
    obtain ⟨_, hs, _, _, h, _, hd, rfl, rfl⟩ := h
    exact ⟨readMPIAt_le h, by
      simp [FieldHasSize, privateFieldSize, hs, Except.toOption, leftPad_length hd]⟩
  case eddsaLegacy =>
    obtain ⟨_, hs, h⟩ := h
    split at h
    · simp only [bind_eq_ok, Except.ok.injEq, Prod.mk.injEq, Prod.exists] at h
      obtain ⟨_, -, h⟩ := h
      split_ifs at h
      · simp at h
      simp only [bind_eq_ok, pure_eq_ok, Except.ok.injEq, Prod.mk.injEq, Prod.exists] at h
      obtain ⟨_, -, _, _, h, _, hd, rfl, rfl⟩ := h
      exact ⟨readMPIAt_le h, by
        simp [FieldHasSize, privateFieldSize, hs, Except.toOption, leftPad_length hd]⟩
    · cases h
  case x25519 | x448 | ed25519 | ed448 =>
    obtain ⟨_, hs, _, _, h, rfl, rfl⟩ := h
    cases hs
    exact ⟨(readExactAt_le h).2.1,
      List.forall_mem_singleton.2 fun _ hn => by cases hn; exact (readExactAt_le h).2.2⟩
  case pqcMlkemX25519 | pqcMldsaEd25519 =>
    obtain ⟨_, _, ⟨_, hs, h₁⟩, _, _, h₂, rfl, rfl⟩ := h
    cases hs
    refine ⟨(readExactAt_le h₂).2.1, List.forall_mem_cons.2 ⟨?_, List.forall_mem_cons.2
      ⟨?_, List.forall_mem_singleton.2 ?_⟩⟩⟩ <;> intro _ hn <;> cases hn
    exacts [(readExactAt_le h₁).2.2, (readExactAt_le h₂).2.2]
  case hmac => exact absurd rfl ha.1
  case aead => exact absurd rfl ha.2
  case pqcSlhdsaShake128s => cases h

/-- **The AEAD IV comes back whole.** The IV of an AEAD encrypted session key is cut with a bare
slice, but the ciphertext after it is read with a length prefix, which fails at the end of the
input: a returning parse has an IV of its mode's full nonce length. -/
theorem parseEncSessionKeyParams_aead_iv {bytes : Bytes} {params : Params}
    (h : parseEncSessionKeyParams aead.code bytes = .ok params) :
    ∃ aeadMode iv c,
      params = [("aeadMode", .object aeadMode), ("iv", .bytes iv), ("c", .object c)] ∧
      (enumValue (.object aeadMode) >>= (getAEADMode ·)) = .ok iv.length := by
  simp only [parseEncSessionKeyParams, ofCode_code, bind_eq_ok, pure_eq_ok, Except.ok.injEq,
    Prod.exists] at h
  obtain ⟨aeadMode, read, -, ivLength, hiv, c, _, hc, rfl⟩ := h
  have hlt := readObjectAt_le (TypeObject.reader_progress (.shortByteString [])) hc
  have hlen : (subarrayAt bytes read ivLength).1.length = ivLength := by
    simp [subarrayAt, slice] at hlt ⊢
    omega
  refine ⟨aeadMode, _, c, rfl, ?_⟩
  rw [hlen]
  exact bind_eq_ok.2 hiv

theorem parseEncSessionKeyParams_aead_iv_ocb :
    ∃ aeadMode iv c,
      [("aeadMode", Param.object (.aeadEnum 2)), ("iv", .bytes (List.replicate 15 0)),
          ("c", .object (.shortByteString [9]))] =
        [("aeadMode", .object aeadMode), ("iv", .bytes iv), ("c", .object c)] ∧
      (enumValue (.object aeadMode) >>= (getAEADMode ·)) = .ok iv.length :=
  parseEncSessionKeyParams_aead_iv (by rfl :
    parseEncSessionKeyParams aead.code ([2] ++ List.replicate 15 0 ++ [1, 9]) =
      .ok [("aeadMode", .object (.aeadEnum 2)), ("iv", .bytes (List.replicate 15 0)),
        ("c", .object (.shortByteString [9]))])

/-! ## Bare slices

The HMAC and AEAD branches cut their fixed-size fields with `subarrayAt`, a bare slice that comes
back short on a truncated input while the offset still advances by the field's size. -/

/-- A slice that runs past the end of its input is the rest of the input. -/
theorem slice_of_length_le {bytes : Bytes} {start stop : Nat} (h : bytes.length ≤ stop) :
    slice bytes start stop = bytes.drop start := by
  rw [slice, List.take_of_length_le h]

/-- The private HMAC and AEAD parser slices a 32-octet hash seed and then the key material, of the
digest size of the public cipher field (HMAC) or of its key size (AEAD), and returns the offset
after both, whatever the input's length. -/
theorem parsePrivateKeyParams_symmetric (prims : Primitives) (bytes : Bytes) {pub : Params}
    {a : PublicKeyAlgorithm} {cipher keySize : Nat}
    (hc : enumValue (pub.get "cipher") = .ok cipher)
    (hks : a = hmac ∧ getHashByteLength cipher = .ok keySize ∨
      a = aead ∧ (getCipherParams cipher).map (·.keySize) = .ok keySize) :
    parsePrivateKeyParams prims a.code bytes pub =
      .ok (32 + keySize, [("hashSeed", .bytes (slice bytes 0 32)),
        ("keyMaterial", .bytes (slice bytes 32 (32 + keySize)))]) := by
  rcases hks with ⟨rfl, h⟩ | ⟨rfl, h⟩
  · simp [parsePrivateKeyParams, hc, h, subarrayAt]
  · cases hp : getCipherParams cipher <;> simp only [hp, Except.map, Except.ok.injEq] at h
    · cases h
    subst h
    simp [parsePrivateKeyParams, hc, hp, subarrayAt]

end OpenPgp
