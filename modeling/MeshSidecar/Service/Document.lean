import MeshSidecar.Json.Reader
import MeshSidecar.Json.Tree
import MeshSidecar.Service.Basic

/-!
# Services and instances as documents

How ports, services, endpoints and instances are written in JSON and read from it. The
fields of a record are written in declared order. A namespace or a tag that is absent and
a set of tags that is empty are left out; everything else is written.

What is left out takes its default when it is read: no name for a port, TCP for a protocol,
no namespace, no tags, no ports. Unknown fields are skipped.
-/

namespace MeshSidecar

-- ── Ports ───────────────────────────────────────────────────────────────────

namespace Protocol

/-- A protocol by its name. -/
def reader : Reader Protocol := Reader.variant (all.map fun protocol => (protocol.name, protocol))

end Protocol

namespace Port

/-- The fields of a port. -/
def record : Record Port where
  title := "Port"
  strict := false
  fields :=
    [.defaulted "name" Reader.text fun name port => { port with name },
     .mandatory "port" Reader.word16 fun number port => { port with number },
     .defaulted "protocol" Protocol.reader fun protocol port => { port with protocol }]
  blank := ⟨"", 0, .tcp⟩

/-- A port as it is written. -/
def toJson (port : Port) : Json :=
  .object
    [("name", .string port.name),
     ("port", .number port.number.toNat),
     ("protocol", .string port.protocol.name)]

end Port

/-- A list of ports as it is written. -/
def PortList.toJson (ports : PortList) : Json := .array (ports.map Port.toJson)

/-- Reads a list of ports. -/
def PortList.reader : Reader PortList := Reader.listOf Port.record.read

-- ── Services ────────────────────────────────────────────────────────────────

namespace Service

/-- The fields of a service. -/
def record : Record Service where
  title := "Service"
  strict := false
  fields :=
    [.mandatory "name" Reader.text fun name service => { service with name },
     .defaulted "namespace" (Reader.optional Reader.text) fun ns service => { service with ns },
     .defaulted "tags" Reader.nameSet fun tags service => { service with tags },
     .defaulted "ports" PortList.reader fun ports service => { service with ports }]
  blank := named ""

/-- A service as it is written. -/
def toJson (service : Service) : Json :=
  .object
    ([("name", .string service.name)] ++
     (match service.ns with
       | none => []
       | some ns => [("namespace", .string ns)]) ++
     (if service.tags.isEmpty then [] else [("tags", .array (service.tags.toList.map .string))]) ++
     [("ports", PortList.toJson service.ports)])

end Service

-- ── Instances ───────────────────────────────────────────────────────────────

namespace Endpoint

/-- The fields of an endpoint. -/
def record : Record Endpoint where
  title := "Endpoint"
  strict := false
  fields :=
    [.mandatory "address" Reader.text fun address endpoint => { endpoint with address },
     .mandatory "port" Reader.word16 fun port endpoint => { endpoint with port },
     .mandatory "servicePort" Port.record.read fun servicePort endpoint =>
       { endpoint with servicePort }]
  blank := ⟨"", 0, Port.record.blank⟩

/-- An endpoint as it is written. -/
def toJson (endpoint : Endpoint) : Json :=
  .object
    [("address", .string endpoint.address),
     ("port", .number endpoint.port.toNat),
     ("servicePort", endpoint.servicePort.toJson)]

end Endpoint

namespace Instance

/-- The fields of an instance. -/
def record : Record Instance where
  title := "ServiceInstance"
  strict := false
  fields :=
    [.mandatory "endpoint" Endpoint.record.read fun endpoint inst => { inst with endpoint },
     .mandatory "service" Service.record.read fun service inst => { inst with service },
     .defaulted "tag" (Reader.optional Reader.text) fun tag inst => { inst with tag }]
  blank := ⟨Endpoint.record.blank, Service.record.blank, none⟩

/-- An instance as it is written. -/
def toJson (inst : Instance) : Json :=
  .object
    ([("endpoint", inst.endpoint.toJson), ("service", inst.service.toJson)] ++
     match inst.tag with
     | none => []
     | some tag => [("tag", .string tag)])

end Instance

end MeshSidecar
