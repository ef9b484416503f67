import Attest.Cipher.Rc4
import Attest.Keys

/-!
# The ciphers of a session

Each side of a session holds two ciphers, one for what it receives and one for what it sends. The
server receives under the inbound key and sends under the outbound key; the client has them the
other way round. Every byte of a message passes through one cipher, so both sides stay in step as
long as they handle the same messages in the same order.
-/

namespace Attest

/-- The two ciphers of one side. -/
structure CipherPair where
  /-- Opens what the other side sends. -/
  receive : Rc4
  /-- Seals what this side sends. -/
  send : Rc4
  deriving DecidableEq

namespace CipherPair

/-- The server's ciphers. -/
def server (keys : Keys) : CipherPair :=
  ⟨Rc4.ofKey keys.inbound.toList, Rc4.ofKey keys.outbound.toList⟩

/-- The client's ciphers. -/
def client (keys : Keys) : CipherPair :=
  ⟨Rc4.ofKey keys.outbound.toList, Rc4.ofKey keys.inbound.toList⟩

/-- Seals a message to be sent. -/
def sealed (pair : CipherPair) (message : Bytes) : Bytes × CipherPair :=
  let (wire, send) := pair.send.apply message
  (wire, { pair with send })

/-- Opens a message that was received. -/
def opened (pair : CipherPair) (wire : Bytes) : Bytes × CipherPair :=
  let (message, receive) := pair.receive.apply wire
  (message, { pair with receive })

end CipherPair

end Attest
