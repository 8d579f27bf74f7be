import MeshSidecar.Json.Reader
import MeshSidecar.Json.Tree

/-!
# Mesh settings

The settings that hold for every configuration of the proxy, with their defaults and their
form in JSON. Every field may be left out; a field that is not known is refused, so that a
misspelt setting does not go unnoticed.
-/

namespace MeshSidecar

/-- A length of time, as whole seconds and the milliseconds that remain. -/
structure Duration where
  seconds : Nat
  milliseconds : Nat
deriving DecidableEq

/-- A length of time in milliseconds. -/
def Duration.ofMilliseconds (ms : Nat) : Duration := ⟨ms / 1000, ms % 1000⟩

/-- A length of time in seconds. -/
def Duration.ofSeconds (s : Nat) : Duration := ⟨s, 0⟩

/-- The settings of the mesh. -/
structure MeshSettings where
  /-- The port on which the proxy takes in redirected connections. -/
  listenPort : UInt16 := 15001
  /-- The port on which the proxy is administered. -/
  adminPort : UInt16 := 15000
  /-- Host and port of the service that tells the proxy about endpoints. -/
  discoveryAddress : String := "istio-pilot:8080"
  /-- How long the proxy waits for a connection, in milliseconds. -/
  connectTimeoutMs : UInt64 := 1000
  /-- How long a proxy that is being replaced serves its connections, in seconds. -/
  drainSecs : UInt64 := 2
  /-- How long a new proxy waits before it ends the one it replaces, in seconds. -/
  parentShutdownSecs : UInt64 := 3
  /-- The cluster that the proxy belongs to. -/
  serviceCluster : String := "istio-proxy"
deriving DecidableEq

namespace MeshSettings

/-- The fields of the settings. -/
def record : Record MeshSettings where
  title := "MeshConfig"
  strict := true
  fields :=
    [.defaulted "proxyListenPort" Reader.word16 fun listenPort mesh => { mesh with listenPort },
     .defaulted "proxyAdminPort" Reader.word16 fun adminPort mesh => { mesh with adminPort },
     .defaulted "discoveryAddress" Reader.text fun discoveryAddress mesh =>
       { mesh with discoveryAddress },
     .defaulted "connectTimeoutMs" Reader.word64 fun connectTimeoutMs mesh =>
       { mesh with connectTimeoutMs },
     .defaulted "drainDurationSecs" Reader.word64 fun drainSecs mesh => { mesh with drainSecs },
     .defaulted "parentShutdownDurationSecs" Reader.word64 fun parentShutdownSecs mesh =>
       { mesh with parentShutdownSecs },
     .defaulted "serviceCluster" Reader.text fun serviceCluster mesh =>
       { mesh with serviceCluster }]
  blank := {}

/-- The settings as they are written. -/
def toJson (mesh : MeshSettings) : Json :=
  .object
    [("proxyListenPort", .number mesh.listenPort.toNat),
     ("proxyAdminPort", .number mesh.adminPort.toNat),
     ("discoveryAddress", .string mesh.discoveryAddress),
     ("connectTimeoutMs", .number mesh.connectTimeoutMs.toNat),
     ("drainDurationSecs", .number mesh.drainSecs.toNat),
     ("parentShutdownDurationSecs", .number mesh.parentShutdownSecs.toNat),
     ("serviceCluster", .string mesh.serviceCluster)]

/-- Reads the settings from the bytes of a file. -/
def ofBytes (bytes : Bytes) : Except Fault MeshSettings := record.read.document bytes

/-- How long the proxy waits for a connection. -/
def connectTimeout (mesh : MeshSettings) : Duration := .ofMilliseconds mesh.connectTimeoutMs.toNat

/-- How long a proxy that is being replaced serves its connections. -/
def drainDuration (mesh : MeshSettings) : Duration := .ofSeconds mesh.drainSecs.toNat

/-- How long a new proxy waits before it ends the one it replaces. -/
def parentShutdownDuration (mesh : MeshSettings) : Duration :=
  .ofSeconds mesh.parentShutdownSecs.toNat

end MeshSettings

end MeshSidecar
