import ServiceMesh.Fault
import ServiceMesh.Text.Numeral
import ServiceMesh.Uri.Host
import ServiceMesh.Uri.Percent

/-!
# Addresses of endpoints

An endpoint is addressed by `scheme://host:port`.  Names are read as a web browser
reads them: white space around the address and line breaks inside it are dropped,
a user name is skipped, and the two web-socket schemes have domains for hosts and a
default port, while the host of every other scheme is opaque.  A secure scheme may
pin the certificate of the endpoint in its query.
-/

namespace ServiceMesh

/-- The kinds of transport an address can ask for. -/
inductive Scheme where
  | tcp
  | tls
  | ws
  | wss
  /-- Inside the process. -/
  | local
deriving DecidableEq, Repr

namespace Scheme

/-- The scheme with a name. -/
def ofName? (name : String) : Option Scheme :=
  match name with
  | "tcp" => some tcp
  | "tcps" => some tls
  | "tls" => some tls
  | "ws" => some ws
  | "wss" => some wss
  | "local" => some .local
  | _ => none

/-- Whether links are encrypted. -/
def isSecure : Scheme → Bool
  | tls => true
  | wss => true
  | _ => false

/-- Whether hosts are domains. -/
def isWeb : Scheme → Bool
  | ws => true
  | wss => true
  | _ => false

/-- The port that need not be written. -/
def defaultPort : Scheme → Option UInt16
  | ws => some 80
  | wss => some 443
  | _ => none

end Scheme

/-- A checked address. -/
structure Uri where
  /-- The address as it was written. -/
  raw : String
  /-- The kind of transport. -/
  scheme : Scheme
  /-- The host. -/
  host : String
  /-- The port. -/
  port : Option UInt16
  /-- The pinned fingerprint. -/
  fingerprint : Option String
  /-- There is a host. -/
  host_ne : host ≠ ""
  /-- Only secure endpoints have a certificate to pin. -/
  secure_of_pinned : fingerprint.isSome → scheme.isSecure

namespace Uri

/-- The host, and the port if there is one. -/
def authority (u : Uri) : String :=
  match u.port with
  | some port => u.host ++ ":" ++ toString port.toNat
  | none => u.host

/-! ## Reading -/

/-- Whether a character is dropped at both ends of an address. -/
def isBlank (c : Char) : Bool := c ≤ ' '

/-- The characters of an address that count. -/
def clean (cs : List Char) : List Char :=
  let trimmed := ((cs.dropWhile isBlank).reverse.dropWhile isBlank).reverse
  trimmed.filter fun c => c ≠ '\t' ∧ c ≠ '\n' ∧ c ≠ '\r'

/-- Whether a character may stand in the name of a scheme. -/
def isSchemeChar (c : Char) : Bool := c.isAlphanum || c = '+' || c = '-' || c = '.'

/-- The scheme in front of the first colon, and what follows the colon. -/
def scheme? (cs : List Char) : Option (Scheme × List Char) := do
  let (name, rest) ← Text.cut? ':' cs
  if (name.head?.map Char.isAlpha).getD false && name.all isSchemeChar then
    let scheme ← Scheme.ofName? (Text.asciiLower (String.ofList name))
    return (scheme, rest)
  else none

/-- What follows the slashes in front of the authority. -/
def afterSlashes? (scheme : Scheme) (cs : List Char) : Option (List Char) :=
  if scheme.isWeb then some (cs.dropWhile fun c => c = '/' ∨ c = '\\')
  else match cs with
    | '/' :: '/' :: rest => some rest
    | _ => none

/-- Whether a character ends the authority. -/
def endsAuthority (scheme : Scheme) (c : Char) : Bool :=
  c = '/' || c = '?' || c = '#' || (scheme.isWeb && c = '\\')

/-- Drops a user name up to the last `@`.  An empty user name needs a host. -/
def afterUser? (authority : List Char) : Option (List Char) :=
  match Text.cutLast? '@' authority with
  | none => some authority
  | some ([], []) => none
  | some (_, rest) => some rest

/-- How many characters the host takes: up to the first colon outside brackets. -/
def hostLength (inside : Bool) : List Char → Nat
  | [] => 0
  | c :: rest =>
      if c = ':' && !inside then 0
      else hostLength (if c = '[' then true else if c = ']' then false else inside) rest + 1

/-- Reads a port.  A port that is left out or need not be written is none. -/
def port? (scheme : Scheme) (cs : List Char) : Option (Option UInt16) :=
  match cs with
  | [] => some none
  | _ => do
      let n ← Text.digits? cs
      if 65535 < n then none
      else
        let port := UInt16.ofNat n
        some (if some port = scheme.defaultPort then none else some port)

/-- Reads the port after a host.  Backslashes end it under every scheme. -/
def portAfter? (scheme : Scheme) (cs : List Char) : Option (Option UInt16) :=
  match cs with
  | ':' :: rest => port? scheme (rest.takeWhile (· ≠ '\\'))
  | _ => some none

/-- The part between the first question mark and the first number sign. -/
def queryOf (cs : List Char) : List Char :=
  match Text.cut? '?' (cs.takeWhile (· ≠ '#')) with
  | some (_, query) => query
  | none => []

/-- The host and port of an authority. -/
def hostAndPort? (scheme : Scheme) (authority : List Char) : Option (String × Option UInt16) := do
  let rest ← afterUser? authority
  let length := hostLength false rest
  let written := rest.take length
  let host ← if scheme.isWeb then Host.domain? written else Host.opaque? written
  let port ← portAfter? scheme (rest.drop length)
  return (host, port.or scheme.defaultPort)

/-- Puts the parts of an address together, if they fit. -/
def make? (raw : String) (scheme : Scheme) (host : String) (port : Option UInt16)
    (fingerprint : Option String) : Option Uri :=
  if h : host ≠ "" ∧ (fingerprint.isSome → scheme.isSecure) then
    some ⟨raw, scheme, host, port, fingerprint, h.1, h.2⟩
  else none

/-- Reads an address, if it is one. -/
def ofText? (raw : String) : Option Uri := do
  let (scheme, rest) ← scheme? (clean raw.toList)
  let rest ← afterSlashes? scheme rest
  let (authority, more) := rest.span fun c => !endsAuthority scheme c
  let (host, port) ← hostAndPort? scheme authority
  make? raw scheme host port (Query.get? (queryOf more) "fingerprint")

/-- Reads an address. -/
def parse (raw : String) : Except Fault Uri :=
  match ofText? raw with
  | some uri => .ok uri
  | none => .error (.unresolvedTransport raw)

end Uri

end ServiceMesh
