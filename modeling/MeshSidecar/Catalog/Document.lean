import MeshSidecar.Catalog.Basic
import MeshSidecar.Host.Error
import MeshSidecar.Service.Document
import MeshSidecar.Service.Validate

/-!
# Catalogs as documents

A document lists services, and instances that refer to them by host name and to one of their
ports by name; the name of the port may be left out where the service has a single one.
Unknown fields of the document and of its instances are refused.

`Catalog.ofDocument` turns a document into a catalog. It refuses at the first offence: the
services come before the instances, each in the order of the document. A service must be
well-formed and its host name new; an instance must name a listed service and one of its
ports, and be well-formed itself.
-/

namespace MeshSidecar

/-- An instance as it is listed. -/
structure InstanceEntry where
  /-- The host name of the service. -/
  service : String
  address : String
  port : UInt16
  /-- The name of the port that is served. -/
  portName : Option String
  tag : Option String
deriving DecidableEq

/-- The fields of an instance as it is listed. -/
def InstanceEntry.record : Record InstanceEntry where
  title := "InstanceSpec"
  strict := true
  fields :=
    [.mandatory "service" Reader.text fun service entry => { entry with service },
     .mandatory "address" Reader.text fun address entry => { entry with address },
     .mandatory "port" Reader.word16 fun port entry => { entry with port },
     .defaulted "portName" (Reader.optional Reader.text) fun portName entry =>
       { entry with portName },
     .defaulted "tag" (Reader.optional Reader.text) fun tag entry => { entry with tag }]
  blank := ⟨"", "", 0, none, none⟩

/-- What a catalog document lists. -/
structure CatalogDocument where
  services : List Service
  instances : List InstanceEntry
  managementPorts : NameTable PortList
  serviceAccounts : NameTable (List String)
deriving DecidableEq

/-- The fields of a catalog document. -/
def CatalogDocument.record : Record CatalogDocument where
  title := "CatalogSpec"
  strict := true
  fields :=
    [.defaulted "services" (Reader.listOf Service.record.read) fun services doc =>
       { doc with services },
     .defaulted "instances" (Reader.listOf InstanceEntry.record.read) fun instances doc =>
       { doc with instances },
     .defaulted "managementPorts" (Reader.tableOf PortList.reader) fun managementPorts doc =>
       { doc with managementPorts },
     .defaulted "serviceAccounts" (Reader.tableOf (Reader.listOf Reader.text))
       fun serviceAccounts doc => { doc with serviceAccounts }]
  blank := ⟨[], [], ∅, ∅⟩

-- ── Offences ────────────────────────────────────────────────────────────────

/-- The reason why there is no catalog. -/
inductive CatalogError where
  | read (path : String) (source : HostError)
  | parse (source : Fault)
  | invalidService (invalid : InvalidService)
  | invalidInstance (invalid : InvalidInstance)
  | duplicateService (hostname : String)
  | unknownService (address hostname : String)
  | unknownPort (address hostname portName : String)
deriving DecidableEq

namespace CatalogError

/-- The words for the reason, without what caused it. -/
def message : CatalogError → String
  | .read path _ => "failed to read catalog " ++ path
  | .parse _ => "failed to parse catalog"
  | .invalidService invalid => invalid.message
  | .invalidInstance invalid => invalid.message
  | .duplicateService hostname => "service " ++ hostname ++ " is declared more than once"
  | .unknownService address hostname =>
      "instance " ++ address ++ " refers to unknown service " ++ hostname
  | .unknownPort address hostname portName =>
      "instance " ++ address ++ " of " ++ hostname ++ " refers to unknown port " ++
        Text.quoted portName

/-- The words for what caused an offence that has a cause of its own. -/
def causes : CatalogError → List String
  | .read _ source => [source.message]
  | .parse source => [source.message]
  | .invalidInstance ⟨_, _, .service source⟩ => [source.message]
  | _ => []

end CatalogError

-- ── From a document to a catalog ────────────────────────────────────────────

namespace InstanceEntry

/-- The port of a service that an entry means. -/
def port? (entry : InstanceEntry) (service : Service) : Option Port :=
  match entry.portName with
  | some name => PortList.get? service.ports name
  | none =>
    match service.ports with
    | [port] => some port
    | _ => none

/-- The instance that an entry means among the services of a table. -/
def resolve (entry : InstanceEntry) (services : NameTable Service) :
    Except CatalogError Instance :=
  match services.get? entry.service with
  | none => .error (.unknownService entry.address entry.service)
  | some service =>
    match entry.port? service with
    | none => .error (.unknownPort entry.address entry.service (entry.portName.getD ""))
    | some servicePort =>
      let inst : Instance := ⟨⟨entry.address, entry.port, servicePort⟩, service, entry.tag⟩
      match inst.validate with
      | .ok () => .ok inst
      | .error invalid => .error (.invalidInstance invalid)

end InstanceEntry

namespace Catalog

/-- Adds listed services to a table in which the ones before them are stored. -/
def addServices (table : NameTable Service) : List Service → Except CatalogError (NameTable Service)
  | [] => .ok table
  | service :: rest =>
    match service.validate with
    | .error invalid => .error (.invalidService invalid)
    | .ok () =>
      match table.get? service.hostname with
      | some _ => .error (.duplicateService service.hostname)
      | none => addServices (table.insert service.hostname service) rest

/-- The instances that entries mean, in order. -/
def resolveAll (services : NameTable Service) :
    List InstanceEntry → Except CatalogError (List Instance)
  | [] => .ok []
  | entry :: rest =>
    match entry.resolve services with
    | .error offence => .error offence
    | .ok inst =>
      match resolveAll services rest with
      | .error offence => .error offence
      | .ok more => .ok (inst :: more)

/-- The catalog of a document. -/
def ofDocument (document : CatalogDocument) : Except CatalogError Catalog :=
  match addServices ∅ document.services with
  | .error offence => .error offence
  | .ok services =>
    match resolveAll services document.instances with
    | .error offence => .error offence
    | .ok instances =>
      .ok ⟨services, instances, document.managementPorts, document.serviceAccounts⟩

/-- Reads a catalog from the bytes of a file. -/
def ofBytes (bytes : Bytes) : Except CatalogError Catalog :=
  match CatalogDocument.record.read.document bytes with
  | .error fault => .error (.parse fault)
  | .ok document => ofDocument document

end Catalog

end MeshSidecar
