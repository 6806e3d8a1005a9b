import OpenPgp.Util
import OpenPgp.Enums
import OpenPgp.Types
import OpenPgp.Crypto.Primitives
import OpenPgp.Crypto.Params
import OpenPgp.Crypto.ParamsCodec
import OpenPgp.Crypto.ParamsBounds
import OpenPgp.Crypto.PublicKey
import OpenPgp.Crypto.KeyPair
import OpenPgp.Crypto.Signature
import OpenPgp.Crypto.SignatureRoundTrip
import OpenPgp.Packet.PublicKeyEncryptedSessionKey
import OpenPgp.Packet.SessionKeyRoundTrip
import OpenPgp.Packet.SessionKeyFallback
import OpenPgp.Packet.SymmetricallyEncryptedData
import OpenPgp.Packet.Grammar
import OpenPgp.Packet.GrammarValidator
import OpenPgp.Crypto.Validate
import OpenPgp.Packet.SecretKey
import OpenPgp.Packet.SecretKeyLifecycle
import OpenPgp.Packet.SecretKeyProtection
import OpenPgp.Packet.SecretKeyFailure
import OpenPgp.Packet.SecretKeyCleartext
import OpenPgp.Packet.SecretKeyRoundTrip
import OpenPgp.Packet.GrammarValidatorRuns
