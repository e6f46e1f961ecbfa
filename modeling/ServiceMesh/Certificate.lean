import ServiceMesh.Hash.Sha256
import ServiceMesh.Text.Form
import ServiceMesh.Transport.Network
import ServiceMesh.Uri

/-!
# Pinned certificates

A certificate is recognised by its fingerprint, the SHA-256 digest of its bytes in
lower-case hexadecimal.  A pin is compared without regard to case, and may have
colons between its digits, as certificate tools print them.

An address may pin a certificate in its query.  If the other end of a link to it then
presents another certificate or none, the link is closed again.
-/

namespace ServiceMesh

namespace Certificate

/-- The fingerprint of a certificate. -/
def fingerprint (certificate : Bytes) : String := toHex (Hash.Sha256.digest certificate)

/-- A pin without colons, in lower case. -/
def normalPin (pin : String) : String :=
  Text.asciiLower (String.ofList (pin.toList.filter (· ≠ ':')))

/-- Whether a certificate is the pinned one. -/
def matchesPin (pin : String) (certificate : Bytes) : Bool :=
  normalPin pin == fingerprint certificate

end Certificate

/-! ## Trust in the other end -/

/-- Whether an address accepts the certificate of the other end. -/
def trusts (uri : Uri) (certificate : Option Bytes) : Bool :=
  match uri.fingerprint with
  | none => true
  | some pin => (certificate.map (Certificate.matchesPin pin)).getD false

/-- Closes a link again whose other end is not trusted. -/
def checkPin (uri : Uri) (id : LinkId) (n : Network η) : Except Fault LinkId × Network η :=
  if trusts uri ((n.links.get? id).bind Link.certificate) then (.ok id, n)
  else (.error (.handshakeFailed uri.raw "certificate fingerprint mismatch"), n.close id)

end ServiceMesh
