import ServiceMesh.Fault
import ServiceMesh.Transport.Link

/-!
# The network inside the process

Endpoints are bound by name to a handler of calls.  A link to an endpoint lives as
long as the binding: unbinding a name, or binding it again, closes every link to it,
as the end of a process would.  So an open link always leads to the handler that is
bound under its name.
-/

namespace ServiceMesh

/-- Endpoints inside the process, whose handlers are `η`, and all links. -/
structure Network (η : Type) where
  /-- The handlers by name. -/
  endpoints : Dict String η := .empty
  /-- The links. -/
  links : Links := {}
  /-- The number of the next link inside the process.  It stands for the connection itself, so
  no two links share one; a counter of 64 bits would wrap to 0 after `2 ^ 64` links. -/
  nextInside : Nat := 1
  /-- The number of the next link to the outside. -/
  nextOutside : Nat := 1000

/-- What is at the other end of a link. -/
inductive FarEnd (η : Type) where
  /-- Nothing any more. -/
  | closed (uri : String)
  /-- An endpoint inside the process. -/
  | endpoint (name : String) (handler : η) (uri : String)
  /-- Something outside, over a link that may be closed. -/
  | outside (uri : String) (isClosed : Bool)

namespace Network

variable {η : Type}

/-- Binds a name.  Links to the previous handler are closed. -/
def bind (n : Network η) (name : String) (handler : η) : Network η :=
  { n with
    endpoints := n.endpoints.insert name handler
    links := n.links.closeAll (.endpoint name) }

/-- Unbinds a name and closes every link to it. -/
def unbind (n : Network η) (name : String) : Network η :=
  { n with
    endpoints := n.endpoints.erase name
    links := n.links.closeAll (.endpoint name) }

/-- Whether a name is bound. -/
def isBound (n : Network η) (name : String) : Bool := n.endpoints.contains name

/-- Opens a link to the endpoint with the given name. -/
def openInside (n : Network η) (uri name : String) : Except Fault LinkId × Network η :=
  if n.isBound name then
    (.ok (.inside n.nextInside), { n with
      links := n.links.add (.inside n.nextInside) { uri := uri, carrier := .endpoint name }
      nextInside := n.nextInside + 1 })
  else (.error (.handshakeFailed uri "no endpoint bound"), n)

/-- Opens a link over a transport to the outside. -/
def openOutside (n : Network η) (uri transport : String) (certificate : Option Bytes) :
    LinkId × Network η :=
  (.outside n.nextOutside, { n with
    links := n.links.add (.outside n.nextOutside)
      { uri := uri, carrier := .transport transport, certificate := certificate }
    nextOutside := n.nextOutside + 1 })

/-- Closes a link. -/
def close (n : Network η) (id : LinkId) : Network η := { n with links := n.links.close id }

/-- Looks at the other end of a link.  An open link inside the process leads to the
handler that is bound under its name. -/
def farEnd (n : Network η) (id : LinkId) : FarEnd η :=
  match n.links.get? id with
  | none => .closed ""
  | some link =>
      match link.carrier with
      | .transport _ => .outside link.uri link.closed
      | .endpoint name =>
          match n.endpoints.get? name with
          | some handler =>
              if link.closed then .closed link.uri else .endpoint name handler link.uri
          | none => .closed link.uri

/-- The links over a transport, oldest first. -/
def linksOver (n : Network η) (transport : String) : List Link :=
  n.links.byId.values.filter fun link => link.carrier = .transport transport

end Network

end ServiceMesh
