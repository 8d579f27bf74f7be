import MeshSidecar.Mesh
import MeshSidecar.Proxy.Config
import MeshSidecar.Service.Validate

/-!
# From services to a configuration

A list of services may name a host more than once; the first service of each host name
counts and the others are as good as not there. Each service that counts must be
well-formed and must not claim a port of the proxy itself.

Every port of such a service that does not speak UDP is a *route*. Routes on one port
number share a listener. If all of them speak HTTP the listener tells them apart by host
name; otherwise there may be only one, and it takes whole connections. Each route has a
cluster of its own. Listeners ascend by port, clusters by name.

`Config.generate` depends on the services only through their routes, once no offence is
found.
-/

namespace MeshSidecar

/-- The reason why services have no configuration. -/
inductive GenerateError where
  | invalidService (invalid : InvalidService)
  /-- Several services claim a port that they cannot share. -/
  | portConflict (number : UInt16) (hostnames : List String)
  /-- A service claims a port of the proxy. -/
  | reservedPort (number : UInt16) (hostname : String)
deriving DecidableEq

/-- The words for the reason. -/
def GenerateError.message : GenerateError → String
  | .invalidService invalid => invalid.message
  | .portConflict number hostnames =>
      "port " ++ toString number.toNat ++ " is claimed by conflicting services: " ++
        String.intercalate ", " hostnames
  | .reservedPort number hostname =>
      "port " ++ toString number.toNat ++ " of " ++ hostname ++ " is reserved for the proxy"

-- ── Services that count ─────────────────────────────────────────────────────

/-- The services whose host names are not among `seen` and not those of earlier services. -/
def firstOfEachHost (seen : List String) : List Service → List Service
  | [] => []
  | service :: rest =>
    if seen.contains service.hostname then firstOfEachHost seen rest
    else service :: firstOfEachHost (service.hostname :: seen) rest

namespace Service

/-- The ports of a service that the proxy forwards. -/
def forwardedPorts (service : Service) : List Port :=
  service.ports.filter (·.protocol ≠ .udp)

/-- Why a service cannot be forwarded, whatever the others are. -/
def offence (mesh : MeshSettings) (service : Service) : Option GenerateError :=
  match service.validate with
  | .error invalid => some (.invalidService invalid)
  | .ok () =>
    (service.forwardedPorts.find? fun port =>
      port.number = mesh.listenPort || port.number = mesh.adminPort).map fun port =>
        .reservedPort port.number service.hostname

end Service

-- ── Routes ──────────────────────────────────────────────────────────────────

/-- A port of a service that the proxy forwards. -/
structure Route where
  hostname : String
  number : UInt16
  /-- What tells the ports of the service apart: the name, or the number of one without. -/
  key : String
  isHttp : Bool
deriving DecidableEq

namespace Route

/-- The route of a port of a service. -/
def ofPort (hostname : String) (port : Port) : Route where
  hostname := hostname
  number := port.number
  key := if port.name = "" then toString port.number.toNat else port.name
  isHttp := port.protocol.isHttp

/-- The name of the route's cluster. -/
def clusterName (route : Route) : String := "out." ++ route.hostname ++ "|" ++ route.key

/-- The host name with the port number. -/
def authority (route : Route) : String := route.hostname ++ ":" ++ toString route.number.toNat

/-- The requests that the route serves. -/
def virtualHost (route : Route) : VirtualHost where
  name := route.authority
  domains := [route.hostname, route.authority]
  cluster := route.clusterName

/-- The cluster of the route. -/
def cluster (mesh : MeshSettings) (route : Route) : Cluster where
  name := route.clusterName
  serviceName := some (route.hostname ++ "|" ++ route.key)
  connectTimeoutMs := mesh.connectTimeoutMs
  kind := .sds
  lbType := "round_robin"
  hosts := []

end Route

/-- The routes of the services that count, in order. -/
def routesOf (services : List Service) : List Route :=
  (firstOfEachHost [] services).flatMap fun service =>
    service.forwardedPorts.map (Route.ofPort service.hostname)

/-- The port numbers of routes, ascending, each once. -/
def portNumbers (routes : List Route) : List UInt16 :=
  (routes.map (·.number)).eraseDups.mergeSort fun a b => a ≤ b

/-- The routes on a port, ascending by host name. -/
def routesOn (routes : List Route) (number : UInt16) : List Route :=
  (routes.filter (·.number = number)).mergeSort fun a b => a.hostname ≤ b.hostname

-- ── Listeners ───────────────────────────────────────────────────────────────

/-- The address of a port on every interface. -/
def anyAddress (number : UInt16) : String := "tcp://0.0.0.0:" ++ toString number.toNat

/-- The listener that takes in redirected connections. -/
def redirectListener (mesh : MeshSettings) : Listener where
  name := "virtual"
  address := anyAddress mesh.listenPort
  bindToPort := true
  useOriginalDst := true
  filter := none

/-- The listener of a port, for the routes on it in ascending order. -/
def portListener (number : UInt16) (routes : List Route) : Except GenerateError Listener :=
  let listener (kind : String) (filter : Filter) : Listener :=
    { name := kind ++ "_0.0.0.0_" ++ toString number.toNat
      address := anyAddress number
      bindToPort := false
      useOriginalDst := false
      filter := some filter }
  if routes.all (·.isHttp) then
    .ok (listener "http" (.httpConnections (routes.map Route.virtualHost)))
  else
    match routes with
    | [route] => .ok (listener "tcp" (.tcpProxy route.clusterName))
    | _ => .error (.portConflict number (routes.map (·.hostname)))

/-- The listeners of some ports, up to the first one that cannot be shared. -/
def portListeners (routes : List Route) : List UInt16 → Except GenerateError (List Listener)
  | [] => .ok []
  | number :: rest =>
    match portListener number (routesOn routes number) with
    | .error conflict => .error conflict
    | .ok listener =>
      match portListeners routes rest with
      | .error conflict => .error conflict
      | .ok listeners => .ok (listener :: listeners)

-- ── Configurations ──────────────────────────────────────────────────────────

/-- How the proxy asks for endpoints. -/
def discoveryOf (mesh : MeshSettings) : DiscoverySource where
  cluster :=
    { name := "sds"
      serviceName := none
      connectTimeoutMs := mesh.connectTimeoutMs
      kind := .strictDns
      lbType := "round_robin"
      hosts := ["tcp://" ++ mesh.discoveryAddress] }
  refreshDelayMs := 1000

namespace Config

/-- The configuration of routes. -/
def ofRoutes (mesh : MeshSettings) (routes : List Route) : Except GenerateError Config :=
  match portListeners routes (portNumbers routes) with
  | .error conflict => .error conflict
  | .ok listeners => .ok {
      listeners := redirectListener mesh :: listeners
      admin :=
        { accessLogPath := "/dev/stdout"
          address := "tcp://127.0.0.1:" ++ toString mesh.adminPort.toNat }
      clusterManager :=
        { clusters := (routes.map (Route.cluster mesh)).mergeSort fun a b => a.name ≤ b.name
          sds := discoveryOf mesh } }

/-- The configuration of a list of services. -/
def generate (services : List Service) (mesh : MeshSettings) : Except GenerateError Config :=
  match (firstOfEachHost [] services).findSome? (Service.offence mesh) with
  | some offence => .error offence
  | none => ofRoutes mesh (routesOf services)

end Config

end MeshSidecar
