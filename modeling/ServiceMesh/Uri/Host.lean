import ServiceMesh.Uri.Ipv4
import ServiceMesh.Uri.Ipv6
import ServiceMesh.Uri.Percent

/-!
# Hosts

A host in brackets is an IPv6 address.  Any other host is either *opaque*, a name
that only has its control characters encoded, or a *domain*, which is decoded, put
into lower case and read as an IPv4 address if its last part is a number.
-/

namespace ServiceMesh.Host

/-- Reads an IPv6 address up to the closing bracket at the end. -/
def bracketed? (cs : List Char) : Option String :=
  if cs.getLast? = some ']' then
    (Ipv6.parse? cs.dropLast).map fun groups => "[" ++ Ipv6.toText groups ++ "]"
  else none

/-- The characters that may not stand in an opaque host. -/
def forbiddenInOpaque : List Char :=
  ['\x00', '\t', '\n', '\r', ' ', '#', '/', ':', '<', '>', '?', '@', '[', '\\', ']', '^', '|']

/-- The characters other than control characters that may not stand in a domain. -/
def forbiddenInDomain : List Char :=
  [' ', '%', '#', '/', ':', '<', '>', '?', '@', '[', '\\', ']', '^', '|', '\x7F']

/-- Reads an opaque host. -/
def opaque? (cs : List Char) : Option String :=
  match cs with
  | '[' :: rest => bracketed? rest
  | _ =>
      if cs.any (· ∈ forbiddenInOpaque) then none
      else some (String.ofList (Percent.encodeControls cs))

/-- The decoded name of a domain, ASCII only. -/
def domainName? (cs : List Char) : Option (List Char) :=
  let bytes := Percent.decode (utf8 (String.ofList cs))
  let name := bytes.map fun b => (Char.ofNat b.toNat).toLower
  if bytes.any (0x80 ≤ ·) || name.any (fun c => c.toNat < 0x20 || c ∈ forbiddenInDomain) then none
  else some name

/-- Reads a domain. -/
def domain? (cs : List Char) : Option String :=
  match cs with
  | '[' :: rest => bracketed? rest
  | _ => do
      let name ← domainName? cs
      if name.isEmpty then none
      else if Ipv4.endsInNumber name then (Ipv4.parse? name).map Ipv4.toText
      else some (String.ofList name)

end ServiceMesh.Host
