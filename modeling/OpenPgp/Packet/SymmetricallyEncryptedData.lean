import OpenPgp.Crypto.Primitives
import OpenPgp.Crypto.KeyPair

/-!
# The Symmetrically Encrypted Data packet

`SymmetricallyEncryptedDataPacket` of `src/packet/symmetrically_encrypted_data.js` (tag 9): the
packets of a message encrypted under the session key in CFB mode, behind a prefix of a block of
random octets and the repetition of its last two, and with no integrity protection. The packet
list it carries is a parameter: `PacketList.fromBinary` and `write` are absent from src/.
`getPrefixRandom` is absent from `src/crypto/mode/cfb`; it is modelled from the version of
`crypto.js` appended to `src/crypto/signature.js`.

`decrypt_encrypt`: whenever encryption returns, decryption under the same key and cipher either
gives back the packets that were encrypted, when the configuration allows unauthenticated
messages, or refuses with "Message is not authenticated.". The cipher needs only to invert its
own encryption, and the packet list to read back its own writing.
-/

namespace OpenPgp

/-- `PacketList.fromBinary(bytes, allowedPackets, config)` and `packets.write()` for the packets
a SED packet may carry. -/
structure PacketListCodec (α : Type) where
  write : α → Bytes
  fromBinary : Bytes → Except Err α

/-- A SED packet: its encrypted octets and the packets decrypted from them, each `null` until set.
-/
structure SymmetricallyEncryptedDataPacket (α : Type) where
  encrypted : Option Bytes := none
  packets : Option α := none

/-- `cipherMode.cfb.getPrefixRandom(algo)`: a block of random octets and its last two again. -/
def getPrefixRandom (random : Random) (algo : Nat) : Except Err Bytes := do
  let { blockSize, .. } ← getCipherParams algo
  let prefixrandom := random.getRandomBytes blockSize
  pure (prefixrandom ++ [prefixrandom.getD (prefixrandom.length - 2) 0,
    prefixrandom.getD (prefixrandom.length - 1) 0])

namespace SymmetricallyEncryptedDataPacket

variable {α : Type}

/-- `read(bytes)`. -/
def read (bytes : Bytes) (p : SymmetricallyEncryptedDataPacket α) :
    SymmetricallyEncryptedDataPacket α :=
  { p with encrypted := some bytes }

/-- `write()`. -/
def write (p : SymmetricallyEncryptedDataPacket α) : Option Bytes := p.encrypted

/-- `decrypt(sessionKeyAlgorithm, key, config)`, where `config.allowUnauthenticatedMessages` is
the one field of the configuration it reads: the octets after the prefix decrypted with the
prefix's last block as IV, and parsed as the packet list. -/
def decrypt (prims : Primitives) (codec : PacketListCodec α) (sessionKeyAlgorithm : Nat)
    (key : Bytes) (allowUnauthenticatedMessages : Bool) (p : SymmetricallyEncryptedDataPacket α) :
    Except Err (SymmetricallyEncryptedDataPacket α) := do
  if !allowUnauthenticatedMessages then throw (.error "Message is not authenticated.")
  let { blockSize, .. } ← getCipherParams sessionKeyAlgorithm
  let some encrypted := p.encrypted | throw (.typeError "Cannot read properties of null")
  let decrypted := prims.cfbDecrypt sessionKeyAlgorithm key (encrypted.drop (blockSize + 2))
    (slice encrypted 2 (blockSize + 2))
  let packets ← codec.fromBinary decrypted
  pure { p with packets := some packets }

/-- `encrypt(sessionKeyAlgorithm, key, config)`: the random prefix encrypted under a zero IV, then
the written packets encrypted with the encrypted prefix's last block as IV. -/
def encrypt (prims : Primitives) (random : Random) (codec : PacketListCodec α)
    (sessionKeyAlgorithm : Nat) (key : Bytes) (p : SymmetricallyEncryptedDataPacket α) :
    Except Err (SymmetricallyEncryptedDataPacket α) := do
  let some packets := p.packets
    | throw (.typeError "Cannot read properties of null (reading 'write')")
  let data := codec.write packets
  let { blockSize, .. } ← getCipherParams sessionKeyAlgorithm
  let prefixRandom ← getPrefixRandom random sessionKeyAlgorithm
  let FRE := prims.cfbEncrypt sessionKeyAlgorithm key prefixRandom (List.replicate blockSize 0)
  let ciphertext := prims.cfbEncrypt sessionKeyAlgorithm key data (FRE.drop 2)
  pure { p with encrypted := some (FRE ++ ciphertext) }

/-! ## Encryption is undone by decryption -/

/-- CFB under the cipher `algo` and the key `key`: encryption keeps the length, and decryption
under the same IV inverts it. -/
def CFBCorrect (prims : Primitives) (algo : Nat) (key : Bytes) : Prop :=
  ∀ text iv, (prims.cfbEncrypt algo key text iv).length = text.length ∧
    prims.cfbDecrypt algo key (prims.cfbEncrypt algo key text iv) iv = text

/-- The prefix of a known cipher is a block and two octets long. -/
theorem getPrefixRandom_length {random : Random} {algo : Nat} {params : CipherParams}
    (hc : getCipherParams algo = .ok params) :
    ∃ prefixRandom, getPrefixRandom random algo = .ok prefixRandom ∧
      prefixRandom.length = params.blockSize + 2 := by
  simp only [getPrefixRandom, hc, ok_bind, pure_eq_ok]
  exact ⟨_, rfl, by simp⟩

/-- **A SED packet decrypts to what it encrypted.** The octets `encrypt` stores, written and read
into a new packet, decrypt under the same cipher and key to the packets that were encrypted when
the configuration allows unauthenticated messages; otherwise `decrypt` refuses. -/
theorem decrypt_encrypt {prims : Primitives} {random : Random} {codec : PacketListCodec α}
    {algo : Nat} {key : Bytes} {params : CipherParams} {packets : α}
    {p q : SymmetricallyEncryptedDataPacket α} (hcfb : CFBCorrect prims algo key)
    (hc : getCipherParams algo = .ok params) (hpk : p.packets = some packets)
    (hcodec : codec.fromBinary (codec.write packets) = .ok packets)
    (he : encrypt prims random codec algo key p = .ok q) (allowUnauthenticatedMessages : Bool) :
    ∃ bytes, q.write = some bytes ∧
      decrypt prims codec algo key allowUnauthenticatedMessages (read bytes {}) =
        if allowUnauthenticatedMessages then
          .ok { encrypted := some bytes, packets := some packets }
        else .error (.error "Message is not authenticated.") := by
  obtain ⟨prefixRandom, hpr, hlen⟩ := @getPrefixRandom_length random algo params hc
  simp only [encrypt, hpk, hc, hpr, ok_bind, pure_eq_ok, Except.ok.injEq] at he
  subst he
  set FRE := prims.cfbEncrypt algo key prefixRandom (List.replicate params.blockSize 0)
  have hFRE : FRE.length = params.blockSize + 2 := (hcfb _ _).1.trans hlen
  refine ⟨_, rfl, ?_⟩
  cases allowUnauthenticatedMessages
  · rfl
  · simp [decrypt, read, hc, List.drop_left' hFRE, slice, List.take_left' hFRE, (hcfb _ _).2,
      hcodec]

theorem decrypt_encrypt_aes128 :
    ∃ q, encrypt transparentPrims zeroRandom (⟨id, .ok⟩ : PacketListCodec Bytes) Symmetric.aes128 []
        { packets := some [1, 2, 3] } = .ok q ∧
      ∃ bytes, q.write = some bytes ∧
        decrypt transparentPrims ⟨id, .ok⟩ Symmetric.aes128 [] true (read bytes {}) =
          .ok { encrypted := some bytes, packets := some [1, 2, 3] } := by
  obtain ⟨q, he⟩ : ∃ q, encrypt transparentPrims zeroRandom (⟨id, .ok⟩ : PacketListCodec Bytes)
      Symmetric.aes128 [] { packets := some [1, 2, 3] } = .ok q := ⟨_, rfl⟩
  exact ⟨q, he, decrypt_encrypt (by exact fun _ _ => ⟨rfl, rfl⟩) (by rfl) rfl (by rfl) he true⟩

end SymmetricallyEncryptedDataPacket

end OpenPgp
