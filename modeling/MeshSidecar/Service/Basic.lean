import MeshSidecar.Names.Set

/-!
# Services

A *service* is known by its name and an optional namespace, which together make its host
name. It declares a set of tags and a list of ports, and neither takes part in its identity:
two services with one host name are two versions of the same service.

An *instance* is an endpoint that serves one port of a service, under one of its tags if
the service has any. It carries the version of the service that it belongs to.
-/

namespace MeshSidecar

/-- The protocol that is spoken on a port. -/
inductive Protocol where
  | http
  | http2
  | grpc
  | tcp
  | udp
deriving DecidableEq, Inhabited

namespace Protocol

/-- The name of a protocol. -/
def name : Protocol → String
  | .http => "HTTP"
  | .http2 => "HTTP2"
  | .grpc => "GRPC"
  | .tcp => "TCP"
  | .udp => "UDP"

/-- The protocols, in declared order. -/
def all : List Protocol := [.http, .http2, .grpc, .tcp, .udp]

/-- Whether the proxy may route by what is said in HTTP. -/
def isHttp : Protocol → Bool
  | .http | .http2 | .grpc => true
  | .tcp | .udp => false

end Protocol

/-- A port of a service. The name may be empty if the service declares no other port. -/
structure Port where
  name : String
  number : UInt16
  protocol : Protocol
deriving DecidableEq

/-- The ports of a service, in declared order. -/
abbrev PortList := List Port

/-- The first port with a name. -/
def PortList.get? (ports : PortList) (name : String) : Option Port :=
  ports.find? (·.name = name)

/-- A service of the mesh. -/
structure Service where
  name : String
  /-- The namespace, if any; an empty one counts as none. -/
  ns : Option String
  tags : NameSet
  ports : PortList
deriving DecidableEq

namespace Service

/-- A service with a name and nothing else. -/
def named (name : String) : Service := ⟨name, none, ∅, []⟩

/-- The name under which a service is found: its own, with a namespace that is not empty
    after a point. -/
def hostname (service : Service) : String :=
  match service.ns with
  | none => service.name
  | some ns => if ns = "" then service.name else service.name ++ "." ++ ns

/-- The name and the namespace, which identify a service. -/
def key (service : Service) : String × Option String := (service.name, service.ns)

/-- Whether a service declares no tag. -/
def isTagless (service : Service) : Bool := service.tags.isEmpty

/-- The service in a namespace. -/
def inNamespace (service : Service) (ns : String) : Service := { service with ns := some ns }

/-- The service with more tags. -/
def withTags (service : Service) (tags : List String) : Service :=
  { service with tags := service.tags.insertAll tags }

/-- The service with one more port after the others. -/
def withPort (service : Service) (port : Port) : Service :=
  { service with ports := service.ports ++ [port] }

end Service

/-- A place in the network that serves a port of a service. -/
structure Endpoint where
  /-- Usually an IP address. -/
  address : String
  /-- The port at that address. -/
  port : UInt16
  /-- The port of the service that is served there. -/
  servicePort : Port
deriving DecidableEq

/-- An endpoint of a service. -/
structure Instance where
  endpoint : Endpoint
  service : Service
  tag : Option String
deriving DecidableEq

namespace Instance

/-- Whether an instance serves one of the named ports under one of the tags. An empty list
    asks for nothing. -/
def answers (inst : Instance) (portNames tags : List String) : Bool :=
  (portNames.isEmpty || portNames.contains inst.endpoint.servicePort.name) &&
    (tags.isEmpty || inst.tag.any tags.contains)

end Instance

end MeshSidecar
