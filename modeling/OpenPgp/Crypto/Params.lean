import OpenPgp.Crypto.Primitives

/-!
# The parameter tables of the dispatcher

`serializeParams`, `parsePublicKeyParams`, `parsePrivateKeyParams` and
`parseEncSessionKeyParams` of `src/crypto/crypto.js`, case by case as the source has them. A
parser threads a read offset `read` through a sequence of field reads; each kind of field read
the source performs is one helper below (`readMPIAt`, `readExactAt`, `subarrayAt`,
`readObjectAt`), so that a case of a parser reads line by line like its source. Records are built
in the key order the source's object literals give them, which is the order `serializeParams`
writes them back in.
-/

namespace OpenPgp

open PublicKeyAlgorithm

/-! ## Field reads -/

/-- `const x = util.readMPI(bytes.subarray(read)); read += x.length + 2`. -/
def readMPIAt (bytes : Bytes) (read : Nat) : Except Err (Bytes × Nat) :=
  (readMPI (bytes.drop read)).map fun x => (x, read + (x.length + 2))

/-- `const x = util.readExactSubarray(bytes, read, read + size); read += x.length`. -/
def readExactAt (bytes : Bytes) (read size : Nat) : Except Err (Bytes × Nat) :=
  (readExactSubarray bytes read (read + size)).map fun x => (x, read + x.length)

/-- `const x = bytes.subarray(read, read + size); read += size`: a bare slice, which comes back
short on a truncated input while the offset still advances by `size`. -/
def subarrayAt (bytes : Bytes) (read size : Nat) : Bytes × Nat :=
  (slice bytes read (read + size), read + size)

/-- `const x = new C(); read += x.read(bytes.subarray(read))` for a class with reader `reader`. -/
def readObjectAt (reader : Bytes → Except Err (TypeObject × Nat)) (bytes : Bytes) (read : Nat) :
    Except Err (TypeObject × Nat) :=
  (reader (bytes.drop read)).map fun (o, n) => (o, read + n)

/-- `oid.getName()` through `checkSupportedCurve`: the curve an `OID` object names, or
`UnsupportedError`. -/
def checkSupportedCurve : TypeObject → Except Err Curve
  | .oid der => match Curve.ofOid der with
    | some c => .ok c
    | none => .error (.unsupported "Unknown curve OID")
  | _ => .error (.unsupported "Unknown curve OID")

/-- `x.getValue()` of an enum wrapper; reading it off anything else is a `TypeError`. -/
def enumValue : Param → Except Err Nat
  | .object (.symAlgoEnum v) | .object (.hashEnum v) | .object (.aeadEnum v) => .ok v
  | _ => .error (.typeError "getValue is not a function")

/-- `getCurvePayloadSize(algo, oid)`: the encoded size of a secret scalar or native point. -/
def getCurvePayloadSize (algo : PublicKeyAlgorithm) (oid : Param) : Except Err Nat :=
  match algo with
  | ecdsa | ecdh | eddsaLegacy =>
    match oid with
    | .object o => (checkSupportedCurve o).map Curve.payloadSize
    | _ => .error (.typeError "Cannot read properties of undefined")
  | ed25519 => .ok 32
  | ed448 => .ok 57
  | x25519 => .ok 32
  | x448 => .ok 56
  | _ => .error (.error "Unknown elliptic algo")

/-! ## Serialization -/

/-- `algosWithNativeRepresentation`: the algorithms whose byte-string fields are written as they
are rather than as MPIs. -/
def algosWithNativeRepresentation : List PublicKeyAlgorithm :=
  [ed25519, x25519, ed448, x448, aead, hmac, pqcMlkemX25519, pqcMldsaEd25519]

/-- `algosWithNativeRepresentation.has(algo)`. -/
def isNative (algo : Nat) : Bool :=
  match ofCode algo with
  | some a => a ∈ algosWithNativeRepresentation
  | none => false

/-- `excludedFields[algo]`: the expanded secret keys, which are re-derived from their seeds on
parsing and never written. -/
def excludedFields (algo : Nat) : List String :=
  match ofCode algo with
  | some pqcMlkemX25519 => ["mlkemSecretKey"]
  | some pqcMldsaEd25519 => ["mldsaSecretKey"]
  | _ => []

/-- One field of `serializeParams`: nothing for an excluded field, `param.write()` for a class
instance, the bytes or their MPI for a byte string, and a `TypeError` for `undefined`. -/
def serializeParam (algo : Nat) (field : String × Param) : Except Err Bytes :=
  if field.1 ∈ excludedFields algo then .ok []
  else match field.2 with
    | .bytes b => .ok (if isNative algo then b else uint8ArrayToMPI b)
    | .object o => .ok o.write
    | .undefined => .error (.typeError "Cannot read properties of undefined (reading 'write')")

/-- `serializeParams(algo, params)`: the fields in key order, concatenated. -/
def serializeParams (algo : Nat) : Params → Except Err Bytes
  | [] => .ok []
  | field :: rest => do
    let b ← serializeParam algo field
    let bs ← serializeParams algo rest
    pure (b ++ bs)

/-! ## Parsers -/

/-- `parsePublicKeyParams(algo, bytes)`: the number of octets read and the public record. -/
def parsePublicKeyParams (algo : Nat) (bytes : Bytes) : Except Err (Nat × Params) :=
  match ofCode algo with
  | none => throw (.unsupported "Unknown public key encryption algorithm.")
  | some a => match a with
    | rsaEncrypt | rsaEncryptSign | rsaSign => do
      let (n, read) ← readMPIAt bytes 0
      let (e, read) ← readMPIAt bytes read
      pure (read, [("n", .bytes n), ("e", .bytes e)])
    | dsa => do
      let (p, read) ← readMPIAt bytes 0
      let (q, read) ← readMPIAt bytes read
      let (g, read) ← readMPIAt bytes read
      let (y, read) ← readMPIAt bytes read
      pure (read, [("p", .bytes p), ("q", .bytes q), ("g", .bytes g), ("y", .bytes y)])
    | elgamal => do
      let (p, read) ← readMPIAt bytes 0
      let (g, read) ← readMPIAt bytes read
      let (y, read) ← readMPIAt bytes read
      pure (read, [("p", .bytes p), ("g", .bytes g), ("y", .bytes y)])
    | ecdsa => do
      let (oid, read) ← readObjectAt readOID bytes 0
      let _ ← checkSupportedCurve oid
      let (Q, read) ← readMPIAt bytes read
      pure (read, [("oid", .object oid), ("Q", .bytes Q)])
    | eddsaLegacy => do
      let (oid, read) ← readObjectAt readOID bytes 0
      let curve ← checkSupportedCurve oid
      if curve ≠ .ed25519Legacy then throw (.error "Unexpected OID for eddsaLegacy")
      let (Q, read) ← readMPIAt bytes read
      let Q ← leftPad Q 33
      pure (read, [("oid", .object oid), ("Q", .bytes Q)])
    | ecdh => do
      let (oid, read) ← readObjectAt readOID bytes 0
      let _ ← checkSupportedCurve oid
      let (Q, read) ← readMPIAt bytes read
      let (kdfParams, read) ← readObjectAt readKDFParams bytes read
      pure (read, [("oid", .object oid), ("Q", .bytes Q), ("kdfParams", .object kdfParams)])
    | ed25519 | ed448 | x25519 | x448 => do
      let size ← getCurvePayloadSize a .undefined
      let (A, read) ← readExactAt bytes 0 size
      pure (read, [("A", .bytes A)])
    | hmac | aead => do
      let (algo, read) ← readObjectAt readSymAlgoEnum bytes 0
      let digestLength ← getHashByteLength Hash.sha256
      let (digest, read) := subarrayAt bytes read digestLength
      pure (read, [("cipher", .object algo), ("digest", .bytes digest)])
    | pqcMlkemX25519 => do
      let (eccPublicKey, read) ← getCurvePayloadSize x25519 .undefined >>= readExactAt bytes 0
      let (mlkemPublicKey, read) ← readExactAt bytes read 1184
      pure (read,
        [("eccPublicKey", .bytes eccPublicKey), ("mlkemPublicKey", .bytes mlkemPublicKey)])
    | pqcMldsaEd25519 => do
      let (eccPublicKey, read) ← getCurvePayloadSize ed25519 .undefined >>= readExactAt bytes 0
      let (mldsaPublicKey, read) ← readExactAt bytes read 1952
      pure (read,
        [("eccPublicKey", .bytes eccPublicKey), ("mldsaPublicKey", .bytes mldsaPublicKey)])
    | _ => throw (.unsupported "Unknown public key encryption algorithm.")

/- The HMAC and AEAD branch cuts the digest with a bare slice: on an input that ends inside the
digest it returns a short digest and an offset past the input's end. -/
example : parsePublicKeyParams hmac.code [9, 1, 2, 3] =
    .ok (33, [("cipher", .object (.symAlgoEnum 9)), ("digest", .bytes [1, 2, 3])]) :=
  rfl

/-- `parsePrivateKeyParams(algo, bytes, publicParams)`: the number of octets read and the
private record. The ML-KEM and ML-DSA secret keys are expanded from their seeds. -/
def parsePrivateKeyParams (prims : Primitives) (algo : Nat) (bytes : Bytes)
    (publicParams : Params) : Except Err (Nat × Params) :=
  match ofCode algo with
  | none => throw (.unsupported "Unknown public key encryption algorithm.")
  | some a => match a with
    | rsaEncrypt | rsaEncryptSign | rsaSign => do
      let (d, read) ← readMPIAt bytes 0
      let (p, read) ← readMPIAt bytes read
      let (q, read) ← readMPIAt bytes read
      let (u, read) ← readMPIAt bytes read
      pure (read, [("d", .bytes d), ("p", .bytes p), ("q", .bytes q), ("u", .bytes u)])
    | dsa | elgamal => do
      let (x, read) ← readMPIAt bytes 0
      pure (read, [("x", .bytes x)])
    | ecdsa | ecdh => do
      let payloadSize ← getCurvePayloadSize a (publicParams.get "oid")
      let (d, read) ← readMPIAt bytes 0
      let d ← leftPad d payloadSize
      pure (read, [("d", .bytes d)])
    | eddsaLegacy => do
      let payloadSize ← getCurvePayloadSize eddsaLegacy (publicParams.get "oid")
      let curve ← match publicParams.get "oid" with
        | .object o => checkSupportedCurve o
        | _ => throw (.typeError "Cannot read properties of undefined (reading 'getName')")
      if curve ≠ .ed25519Legacy then throw (.error "Unexpected OID for eddsaLegacy")
      let (seed, read) ← readMPIAt bytes 0
      let seed ← leftPad seed payloadSize
      pure (read, [("seed", .bytes seed)])
    | ed25519 | ed448 => do
      let payloadSize ← getCurvePayloadSize a .undefined
      let (seed, read) ← readExactAt bytes 0 payloadSize
      pure (read, [("seed", .bytes seed)])
    | x25519 | x448 => do
      let payloadSize ← getCurvePayloadSize a .undefined
      let (k, read) ← readExactAt bytes 0 payloadSize
      pure (read, [("k", .bytes k)])
    | hmac => do
      let keySize ← enumValue (publicParams.get "cipher") >>= getHashByteLength
      let (hashSeed, read) := subarrayAt bytes 0 32
      let (keyMaterial, read) := subarrayAt bytes read keySize
      pure (read, [("hashSeed", .bytes hashSeed), ("keyMaterial", .bytes keyMaterial)])
    | aead => do
      let algo ← enumValue (publicParams.get "cipher")
      let (hashSeed, read) := subarrayAt bytes 0 32
      let params ← getCipherParams algo
      let (keyMaterial, read) := subarrayAt bytes read params.keySize
      pure (read, [("hashSeed", .bytes hashSeed), ("keyMaterial", .bytes keyMaterial)])
    | pqcMlkemX25519 => do
      let (eccSecretKey, read) ← getCurvePayloadSize x25519 .undefined >>= readExactAt bytes 0
      let (mlkemSeed, read) ← readExactAt bytes read 64
      let mlkemSecretKey := prims.mlkemExpandSecretSeed mlkemSeed
      pure (read, [("eccSecretKey", .bytes eccSecretKey),
        ("mlkemSecretKey", .bytes mlkemSecretKey), ("mlkemSeed", .bytes mlkemSeed)])
    | pqcMldsaEd25519 => do
      let (eccSecretKey, read) ← getCurvePayloadSize ed25519 .undefined >>= readExactAt bytes 0
      let (mldsaSeed, read) ← readExactAt bytes read 32
      let mldsaSecretKey := prims.mldsaExpandSecretSeed mldsaSeed
      pure (read, [("eccSecretKey", .bytes eccSecretKey),
        ("mldsaSecretKey", .bytes mldsaSecretKey), ("mldsaSeed", .bytes mldsaSeed)])
    | _ => throw (.unsupported "Unknown public key encryption algorithm.")

/-- `parseEncSessionKeyParams(algo, bytes)`: the encrypted session key record of a PKESK. -/
def parseEncSessionKeyParams (algo : Nat) (bytes : Bytes) : Except Err Params :=
  match ofCode algo with
  | none => throw (.unsupported "Unknown public key encryption algorithm.")
  | some a => match a with
    | rsaEncrypt | rsaEncryptSign => do
      let (c, _) ← readMPIAt bytes 0
      pure [("c", .bytes c)]
    | elgamal => do
      let (c1, read) ← readMPIAt bytes 0
      let (c2, _) ← readMPIAt bytes read
      pure [("c1", .bytes c1), ("c2", .bytes c2)]
    | ecdh => do
      let (V, read) ← readMPIAt bytes 0
      let (C, _) ← readObjectAt readECDHSymkey bytes read
      pure [("V", .bytes V), ("C", .object C)]
    | x25519 | x448 => do
      let pointSize ← getCurvePayloadSize a .undefined
      let (ephemeralPublicKey, read) ← readExactAt bytes 0 pointSize
      let (C, _) ← readObjectAt readECDHXSymmetricKey bytes read
      pure [("ephemeralPublicKey", .bytes ephemeralPublicKey), ("C", .object C)]
    | aead => do
      let (aeadMode, read) ← readObjectAt readAEADEnum bytes 0
      let ivLength ← enumValue (.object aeadMode) >>= (getAEADMode ·)
      let (iv, read) := subarrayAt bytes read ivLength
      let (c, _) ← readObjectAt readShortByteString bytes read
      pure [("aeadMode", .object aeadMode), ("iv", .bytes iv), ("c", .object c)]
    | pqcMlkemX25519 => do
      let (eccCipherText, read) ← getCurvePayloadSize x25519 .undefined >>= readExactAt bytes 0
      let (mlkemCipherText, read) ← readExactAt bytes read 1088
      let (C, _) ← readObjectAt readECDHXSymmetricKey bytes read
      pure [("eccCipherText", .bytes eccCipherText), ("mlkemCipherText", .bytes mlkemCipherText),
        ("C", .object C)]
    | _ => throw (.unsupported "Unknown public key encryption algorithm.")

end OpenPgp
