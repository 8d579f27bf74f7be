import MeshSidecar.Json.Tree

/-!
# The configuration of the proxy

A configuration says on which addresses the proxy listens, where it is administered, and to
which clusters of endpoints it forwards. A listener forwards either what it hears of HTTP,
by the host that is asked for, or whole connections to one cluster.

`Config.text` is the file that the proxy reads. A flag that is not set, a filter, a service
name or a list of hosts that is not there are left out of it.
-/

namespace MeshSidecar

/-- Requests for some domains and the cluster that answers them. -/
structure VirtualHost where
  name : String
  domains : List String
  cluster : String
deriving DecidableEq

/-- What a listener does with a connection. -/
inductive Filter where
  /-- Forwards requests by the host they ask for. -/
  | httpConnections (virtualHosts : List VirtualHost)
  /-- Forwards all to one cluster. -/
  | tcpProxy (cluster : String)
deriving DecidableEq

/-- An address on which the proxy listens. -/
structure Listener where
  name : String
  address : String
  /-- Whether the proxy opens the port, or only takes over connections meant for it. -/
  bindToPort : Bool
  /-- Whether a connection is passed on to the listener of the port it was meant for. -/
  useOriginalDst : Bool
  filter : Option Filter
deriving DecidableEq

/-- How the proxy is administered. -/
structure Admin where
  accessLogPath : String
  address : String
deriving DecidableEq

/-- How the endpoints of a cluster become known. -/
inductive ClusterKind where
  /-- The discovery service tells them. -/
  | sds
  /-- The names of its hosts are looked up. -/
  | strictDns
deriving DecidableEq

/-- A set of endpoints that serve the same. -/
structure Cluster where
  name : String
  /-- The name under which the discovery service knows the endpoints. -/
  serviceName : Option String
  connectTimeoutMs : UInt64
  kind : ClusterKind
  lbType : String
  /-- The addresses of the endpoints, where they are fixed. -/
  hosts : List String
deriving DecidableEq

/-- How the discovery service is asked. -/
structure DiscoverySource where
  cluster : Cluster
  refreshDelayMs : UInt64
deriving DecidableEq

/-- The clusters and the service that tells their endpoints. -/
structure ClusterManager where
  clusters : List Cluster
  sds : DiscoverySource
deriving DecidableEq

/-- A configuration of the proxy. -/
structure Config where
  listeners : List Listener
  admin : Admin
  clusterManager : ClusterManager
deriving DecidableEq

-- ── Written form ────────────────────────────────────────────────────────────

/-- A field that is written only if it is there. -/
def optionalField {α : Type} (name : String) (encode : α → Json) :
    Option α → List (String × Json)
  | none => []
  | some value => [(name, encode value)]

/-- A virtual host as it is written. -/
def VirtualHost.toJson (host : VirtualHost) : Json :=
  .object
    [("name", .string host.name),
     ("domains", .array (host.domains.map .string)),
     ("cluster", .string host.cluster)]

/-- A filter as it is written: its kind, and what it holds. -/
def Filter.toJson : Filter → Json
  | .httpConnections hosts =>
      .object [("http_connection_manager",
        .object [("virtual_hosts", .array (hosts.map VirtualHost.toJson))])]
  | .tcpProxy cluster => .object [("tcp_proxy", .object [("cluster", .string cluster)])]

/-- A listener as it is written. -/
def Listener.toJson (listener : Listener) : Json :=
  .object
    ([("name", .string listener.name),
      ("address", .string listener.address),
      ("bind_to_port", .bool listener.bindToPort)] ++
     (if listener.useOriginalDst then [("use_original_dst", .bool true)] else []) ++
     optionalField "filter" Filter.toJson listener.filter)

/-- The administration as it is written. -/
def Admin.toJson (admin : Admin) : Json :=
  .object
    [("access_log_path", .string admin.accessLogPath),
     ("address", .string admin.address)]

/-- The name of a kind of cluster. -/
def ClusterKind.name : ClusterKind → String
  | .sds => "sds"
  | .strictDns => "strict_dns"

/-- A cluster as it is written. -/
def Cluster.toJson (cluster : Cluster) : Json :=
  .object
    ([("name", .string cluster.name)] ++
     optionalField "service_name" .string cluster.serviceName ++
     [("connect_timeout_ms", .number cluster.connectTimeoutMs.toNat),
      ("type", .string cluster.kind.name),
      ("lb_type", .string cluster.lbType)] ++
     (if cluster.hosts.isEmpty then []
      else [("hosts", .array (cluster.hosts.map fun url => .object [("url", .string url)]))]))

/-- The discovery service as it is written. -/
def DiscoverySource.toJson (discovery : DiscoverySource) : Json :=
  .object
    [("cluster", discovery.cluster.toJson),
     ("refresh_delay_ms", .number discovery.refreshDelayMs.toNat)]

/-- The clusters as they are written. -/
def ClusterManager.toJson (manager : ClusterManager) : Json :=
  .object
    [("clusters", .array (manager.clusters.map Cluster.toJson)),
     ("sds", manager.sds.toJson)]

namespace Config

/-- A configuration as it is written. -/
def toJson (config : Config) : Json :=
  .object
    [("listeners", .array (config.listeners.map Listener.toJson)),
     ("admin", config.admin.toJson),
     ("cluster_manager", config.clusterManager.toJson)]

/-- The text of the file that the proxy reads. -/
def text (config : Config) : String := config.toJson.pretty

/-- The names of the clusters, in order. -/
def clusterNames (config : Config) : List String := config.clusterManager.clusters.map (·.name)

end Config

end MeshSidecar
