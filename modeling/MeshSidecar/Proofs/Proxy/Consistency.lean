import MeshSidecar.Proofs.Proxy.Listeners

/-!
# Generated configurations are consistent

The proxy refuses, or silently misroutes, a configuration in which two listeners share an
address, two clusters share a name, two virtual hosts share a domain, or a route leads to no
cluster. `Config.generate_consistent` says that none of this happens: whatever services a
configuration is generated from, it is `Config.Consistent`.

The argument goes from the outside in. A configuration is assembled from listeners, one for
each port (`ofRoutes_eq_ok`). What the listeners have in common follows port by port, from the
two cases of `PortListens`; what the clusters have in common follows from the soundness of the
routes, since the name of its cluster tells a route apart.
-/

namespace MeshSidecar

/-- The name of the cluster of a port. A port without a name is known by its number. -/
def Service.clusterNameOf (service : Service) (port : Port) : String :=
  "out." ++ service.hostname ++ "|" ++
    (if port.name = "" then toString port.number.toNat else port.name)

/-- A configuration in which the names and addresses are distinct, the clusters are those of the
    exposed ports, and every cluster is forwarded to once. -/
structure Config.Consistent (services : List Service) (mesh : MeshSettings) (config : Config) :
    Prop where
  /-- The first listener opens the port of the proxy and passes on what it takes in. -/
  redirects : config.listeners.head? = some
    { name := "virtual"
      address := "tcp://0.0.0.0:" ++ toString mesh.listenPort.toNat
      bindToPort := true
      useOriginalDst := true
      filter := none }
  /-- The other listeners open no port. -/
  passive : ∀ listener ∈ config.listeners.tail,
    listener.bindToPort = false ∧ listener.useOriginalDst = false
  /-- The other listeners are those of the exposed ports, ascending, none of them reserved. -/
  ports : ∃ numbers : List UInt16, numbers.Pairwise (· < ·) ∧
    (∀ number, number ∈ numbers ↔
      ∃ service port, Exposes services service port ∧ port.number = number) ∧
    mesh.listenPort ∉ numbers ∧ mesh.adminPort ∉ numbers ∧
    config.listeners.tail.map (·.address) =
      numbers.map fun number => "tcp://0.0.0.0:" ++ toString number.toNat
  listener_names : (config.listeners.map (·.name)).Nodup
  listener_addresses : (config.listeners.map (·.address)).Nodup
  clusters_ascend : config.clusterNames.Pairwise (· < ·)
  discovery_apart : config.clusterManager.sds.cluster.name ∉ config.clusterNames
  /-- Each exposed port has one cluster. -/
  port_cluster : ∀ service port, Exposes services service port →
    ∃! cluster, cluster ∈ config.clusterManager.clusters ∧
      cluster.name = service.clusterNameOf port
  /-- Each cluster is that of one exposed port. -/
  cluster_port : ∀ cluster ∈ config.clusterManager.clusters,
    ∃! source : Service × Port, Exposes services source.1 source.2 ∧
      cluster.name = source.1.clusterNameOf source.2
  /-- Each cluster is forwarded to once. -/
  cluster_target : ∀ cluster ∈ config.clusterManager.clusters,
    config.targets.count cluster.name = 1
  /-- What is forwarded to is a cluster. -/
  target_cluster : ∀ target ∈ config.targets, target ∈ config.clusterNames
  /-- The virtual hosts of a port ascend by host name, and no domain is served twice. -/
  virtual_hosts : ∀ listener ∈ config.listeners, ∀ hosts,
    listener.filter = some (.httpConnections hosts) →
    (hosts.flatMap (·.domains)).Nodup ∧
      ∃ (number : UInt16) (hostnames : List String),
        listener.address = "tcp://0.0.0.0:" ++ toString number.toNat ∧
        hostnames.Pairwise (· < ·) ∧
        hosts.map (·.domains) = hostnames.map fun hostname =>
          [hostname, hostname ++ ":" ++ toString number.toNat]

-- ── Assembly ────────────────────────────────────────────────────────────────

namespace Config

/-- The configuration of routes with the listeners of their ports. -/
def assembled (mesh : MeshSettings) (routes : List Route) (listeners : List Listener) :
    Config where
  listeners := redirectListener mesh :: listeners
  admin :=
    { accessLogPath := "/dev/stdout"
      address := "tcp://127.0.0.1:" ++ toString mesh.adminPort.toNat }
  clusterManager :=
    { clusters := (routes.map (Route.cluster mesh)).mergeSort fun a b => a.name ≤ b.name
      sds := discoveryOf mesh }

/-- The configuration of routes is assembled from the listeners of their ports. -/
theorem ofRoutes_eq_ok {mesh : MeshSettings} {routes : List Route} {config : Config}
    (h : ofRoutes mesh routes = .ok config) :
    ∃ listeners, PortsListen routes (portNumbers routes) listeners ∧
      config = assembled mesh routes listeners := by
  rw [ofRoutes] at h
  split at h
  · exact nomatch h
  · rename_i listeners hlisteners
    exact ⟨listeners, portListeners_eq_ok hlisteners, (Except.ok.inj h).symm⟩

end Config

-- ── Ports and their clusters ────────────────────────────────────────────────

/-- The services that count are told apart by their host names. -/
theorem Counts.eq_of_hostname {services : List Service} {a b : Service}
    (ha : Counts services a) (hb : Counts services b) (h : a.hostname = b.hostname) : a = b := by
  rw [Counts] at ha hb
  rw [h, hb] at ha
  exact (Option.some.inj ha).symm

/-- The ports of a well-formed service are told apart by their numbers. -/
theorem Service.WellFormed.eq_of_number {service : Service} (h : service.WellFormed) {a b : Port}
    (ha : a ∈ service.ports) (hb : b ∈ service.ports) (hnumber : a.number = b.number) :
    a = b := by
  have : Std.Symm fun a b : Port => a.number ≠ b.number := ⟨fun _ _ hab => hab.symm⟩
  by_contra hne
  exact h.ports.numbers_distinct.forall ha hb hne hnumber

/-- Two exposed ports have different routes. -/
theorem Exposes.eq_of_route {services : List Service} {a b : Service} {p q : Port}
    (hwell : a.WellFormed) (ha : Exposes services a p) (hb : Exposes services b q)
    (h : Route.ofPort a.hostname p = Route.ofPort b.hostname q) : a = b ∧ p = q := by
  obtain rfl : a = b := ha.1.eq_of_hostname hb.1 (congrArg Route.hostname h)
  exact ⟨rfl, hwell.eq_of_number ha.2.1 hb.2.1 (congrArg Route.number h)⟩

/-- The port is recovered from an address on every interface. -/
theorem anyAddress_inj {m n : UInt16} (h : anyAddress m = anyAddress n) : m = n :=
  UInt16.toNat_inj.mp (Text.eq_of_toString ((String.append_right_inj _).mp h))

-- ── Clusters ────────────────────────────────────────────────────────────────

section

variable {mesh : MeshSettings} {routes : List Route} {listeners : List Listener}

/-- The clusters are those of the routes. -/
theorem mem_clusters_assembled {cluster : Cluster} :
    cluster ∈ (Config.assembled mesh routes listeners).clusterManager.clusters ↔
      ∃ route ∈ routes, route.cluster mesh = cluster := by
  rw [Config.assembled, List.mem_mergeSort, List.mem_map]

/-- The names of the clusters are those of the routes, in some order. -/
theorem clusterNames_assembled_perm :
    (Config.assembled mesh routes listeners).clusterNames.Perm (routes.map Route.clusterName) := by
  have h := (List.mergeSort_perm (routes.map (Route.cluster mesh))
    fun a b => decide (a.name ≤ b.name)).map Cluster.name
  rw [List.map_map] at h
  exact h

/-- The clusters ascend strictly by name. -/
theorem RoutesSound.clusters_pairwise (h : RoutesSound mesh routes) :
    ((routes.map (Route.cluster mesh)).mergeSort fun a b => a.name ≤ b.name).Pairwise
      fun a b => a.name < b.name := by
  refine mergeSort_pairwise_lt Cluster.name ?_
  rw [List.map_map]
  exact List.Nodup.map_on (fun a ha b hb => h.eq_of_clusterName ha hb) h.nodup

/-- No cluster of a route is named like the one of the discovery service. -/
theorem discovery_not_mem_clusterNames :
    "sds" ∉ (Config.assembled mesh routes listeners).clusterNames := by
  intro hmem
  obtain ⟨route, -, hname⟩ := List.mem_map.mp (clusterNames_assembled_perm.mem_iff.mp hmem)
  have hlist := congrArg String.toList hname
  simp [Route.clusterName, String.toList_append] at hlist

/-- The listeners forward to the clusters of the routes, each once. -/
theorem RoutesSound.targets_perm (h : RoutesSound mesh routes)
    (hlisten : PortsListen routes (portNumbers routes) listeners) :
    (Config.assembled mesh routes listeners).targets.Perm
      (Config.assembled mesh routes listeners).clusterNames := by
  have htargets : (Config.assembled mesh routes listeners).targets
      = ((portNumbers routes).flatMap (routesOn routes)).map Route.clusterName := by
    rw [← hlisten.targets_eq]
    rfl
  rw [htargets]
  exact (h.flatMap_routesOn_perm.map _).trans clusterNames_assembled_perm.symm

-- ── Names and addresses ─────────────────────────────────────────────────────

/-- Port and kind are recovered from the name of a listener. -/
theorem portListenerOf_name_inj {m n : UInt16} {j k : String} {f g : Filter}
    (hj : '_' ∉ j.toList) (hk : '_' ∉ k.toList)
    (h : (portListenerOf m j f).name = (portListenerOf n k g).name) : m = n := by
  have hsplit : j ++ "_" ++ ("0.0.0.0_" ++ toString m.toNat)
      = k ++ "_" ++ ("0.0.0.0_" ++ toString n.toNat) := by
    have hprefix : "_0.0.0.0_" = "_" ++ "0.0.0.0_" := by decide
    simpa only [portListenerOf, hprefix, String.append_assoc] using h
  have hrest := (Text.eq_of_separated (by decide) hj hk hsplit).2
  exact UInt16.toNat_inj.mp (Text.eq_of_toString ((String.append_right_inj _).mp hrest))

/-- The port is recovered from the name of its listener. -/
theorem PortListens.eq_of_name {m n : UInt16} {first second : List Route} {a b : Listener}
    (ha : PortListens m first a) (hb : PortListens n second b) (h : a.name = b.name) : m = n := by
  cases ha <;> cases hb <;>
    exact portListenerOf_name_inj (by decide) (by decide) h

/-- The listener of a port is not named like the one that takes in connections. -/
theorem PortListens.name_ne {number : UInt16} {routes : List Route} {listener : Listener}
    (h : PortListens number routes listener) : listener.name ≠ "virtual" := by
  intro hname
  have hlist := congrArg String.toList hname
  cases h <;> simp [portListenerOf, String.toList_append] at hlist

/-- The listeners of ports have different names. -/
theorem PortsListen.names_nodup {numbers : List UInt16} (h : PortsListen routes numbers listeners)
    (hnumbers : numbers.Nodup) : (listeners.map (·.name)).Nodup := by
  induction h with
  | nil => exact List.nodup_nil
  | @cons number listener rest others hlistens hothers ih =>
      obtain ⟨hnew, hrest⟩ := List.nodup_cons.mp hnumbers
      rw [List.map_cons]
      refine List.nodup_cons.mpr ⟨fun hmem => ?_, ih hrest⟩
      obtain ⟨other, hother, hname⟩ := List.mem_map.mp hmem
      obtain ⟨m, hm, hlistens'⟩ := PortsListen.exists_port hothers hother
      exact hnew ((hlistens'.eq_of_name hlistens hname) ▸ hm)

/-- No listener is named like another one. -/
theorem listenerNames_nodup (hlisten : PortsListen routes (portNumbers routes) listeners) :
    ((Config.assembled mesh routes listeners).listeners.map (·.name)).Nodup := by
  refine List.nodup_cons.mpr ⟨fun hmem => ?_, hlisten.names_nodup (portNumbers_pairwise _).nodup⟩
  obtain ⟨listener, hlistener, hname⟩ := List.mem_map.mp hmem
  obtain ⟨number, -, hlistens⟩ := hlisten.exists_port hlistener
  exact hlistens.name_ne hname

/-- The ports of the routes are none of those that the proxy uses itself. -/
theorem RoutesSound.portNumbers_unreserved (h : RoutesSound mesh routes) :
    ∀ number ∈ portNumbers routes, number ≠ mesh.listenPort ∧ number ≠ mesh.adminPort := by
  intro number hnumber
  obtain ⟨route, hmem, rfl⟩ := mem_portNumbers.mp hnumber
  exact h.unreserved route hmem

/-- No listener listens where another one does. -/
theorem RoutesSound.listenerAddresses_nodup (h : RoutesSound mesh routes)
    (hlisten : PortsListen routes (portNumbers routes) listeners) :
    ((Config.assembled mesh routes listeners).listeners.map (·.address)).Nodup := by
  refine List.nodup_cons.mpr ⟨fun hmem => ?_, ?_⟩
  · rw [hlisten.addresses_eq] at hmem
    obtain ⟨number, hnumber, haddress⟩ := List.mem_map.mp hmem
    exact (h.portNumbers_unreserved number hnumber).1 (anyAddress_inj haddress)
  · rw [hlisten.addresses_eq]
    exact List.Nodup.map_on (fun _ _ _ _ => anyAddress_inj) (portNumbers_pairwise _).nodup

-- ── Domains ─────────────────────────────────────────────────────────────────

/-- A domain with a port is no host name without a colon. -/
theorem Route.ne_authority {hostname : String} (h : ':' ∉ hostname.toList) (route : Route) :
    hostname ≠ route.authority := by
  rintro rfl
  exact h (by simp [Route.authority, String.toList_append])

/-- The domains of routes of different hosts are distinct. -/
theorem domains_nodup {routes : List Route} (hcolon : ∀ route ∈ routes, ':' ∉ route.hostname.toList)
    (hhosts : routes.Pairwise fun a b => a.hostname < b.hostname) :
    ((routes.map Route.virtualHost).flatMap (·.domains)).Nodup := by
  rw [List.flatMap_map]
  refine List.pairwise_flatMap.mpr ⟨fun route hroute => ?_, ?_⟩
  · show List.Pairwise (· ≠ ·) [route.hostname, route.authority]
    exact List.pairwise_pair.mpr (Route.ne_authority (hcolon route hroute) route)
  · refine hhosts.imp_of_mem fun {a b} ha hb hlt => ?_
    have hne : a.hostname ≠ b.hostname := fun heq => String.lt_irrefl _ (heq ▸ hlt)
    intro x hx y hy heq
    subst heq
    have hx : x = a.hostname ∨ x = a.authority := by simpa [Route.virtualHost] using hx
    have hy : x = b.hostname ∨ x = b.authority := by simpa [Route.virtualHost] using hy
    rcases hx with rfl | rfl
    · rcases hy with heq | heq
      · exact hne heq
      · exact Route.ne_authority (hcolon a ha) b heq
    · rcases hy with heq | heq
      · exact Route.ne_authority (hcolon b hb) a heq.symm
      · exact hne (Route.eq_of_authority (hcolon a ha) (hcolon b hb) heq).1

/-- On each port the virtual hosts are served under their host names, with the port and
    without. -/
theorem domains_routesOn (number : UInt16) :
    ((routesOn routes number).map Route.virtualHost).map (·.domains)
      = ((routesOn routes number).map Route.hostname).map fun hostname =>
          [hostname, hostname ++ ":" ++ toString number.toNat] := by
  rw [List.map_map, List.map_map]
  refine List.map_congr_left fun route hroute => ?_
  rw [← (mem_routesOn.mp hroute).2]
  rfl

/-- A listener that goes by host has the virtual hosts of the routes on a port. -/
theorem exists_port_of_httpConnections
    (hlisten : PortsListen routes (portNumbers routes) listeners) {listener : Listener}
    (hmem : listener ∈ (Config.assembled mesh routes listeners).listeners)
    {hosts : List VirtualHost} (hfilter : listener.filter = some (.httpConnections hosts)) :
    ∃ number, listener.address = anyAddress number ∧
      hosts = (routesOn routes number).map Route.virtualHost := by
  rcases List.mem_cons.mp hmem with rfl | hmem
  · exact nomatch hfilter
  · obtain ⟨number, -, hlistens⟩ := hlisten.exists_port hmem
    exact ⟨number, hlistens.address_eq, (hlistens.http_inv hfilter).2⟩

end

-- ── Consistency ─────────────────────────────────────────────────────────────

/-- Every configuration that is generated is consistent. -/
theorem Config.generate_consistent {services : List Service} {mesh : MeshSettings}
    {config : Config} (h : Config.generate services mesh = .ok config) :
    config.Consistent services mesh := by
  obtain ⟨hoffence, hroutes⟩ := Config.generate_eq_ok_iff.mp h
  obtain ⟨listeners, hlisten, rfl⟩ := Config.ofRoutes_eq_ok hroutes
  have hsound := routesSound_routesOf hoffence
  have hwell : ∀ {service port}, Exposes services service port → service.WellFormed :=
    fun hexposes => (Service.offence_eq_none_iff.mp
      (hoffence _ (exposes_iff.mp hexposes).1)).1
  have hroute : ∀ {service port}, Exposes services service port →
      Route.ofPort service.hostname port ∈ routesOf services :=
    fun hexposes => mem_routesOf_iff.mpr ⟨_, _, hexposes, rfl⟩
  have hfree := hsound.portNumbers_unreserved
  have hascend : (Config.assembled mesh (routesOf services) listeners).clusterNames.Pairwise
      (· < ·) := List.pairwise_map.mpr hsound.clusters_pairwise
  have htargets := hsound.targets_perm hlisten
  constructor
  case redirects => rfl
  case passive =>
    intro listener hmem
    obtain ⟨number, -, hlistens⟩ := hlisten.exists_port hmem
    exact hlistens.passive
  case ports =>
    refine ⟨portNumbers (routesOf services), portNumbers_pairwise _, fun number => ?_,
      fun hmem => (hfree _ hmem).1 rfl, fun hmem => (hfree _ hmem).2 rfl, hlisten.addresses_eq⟩
    rw [mem_portNumbers]
    constructor
    · rintro ⟨route, hmem, rfl⟩
      obtain ⟨service, port, hexposes, rfl⟩ := mem_routesOf_iff.mp hmem
      exact ⟨service, port, hexposes, rfl⟩
    · rintro ⟨service, port, hexposes, rfl⟩
      exact ⟨_, hroute hexposes, rfl⟩
  case listener_names => exact listenerNames_nodup hlisten
  case listener_addresses => exact hsound.listenerAddresses_nodup hlisten
  case clusters_ascend => exact hascend
  case discovery_apart => exact discovery_not_mem_clusterNames
  case port_cluster =>
    intro service port hexposes
    refine ⟨(Route.ofPort service.hostname port).cluster mesh,
      ⟨mem_clusters_assembled.mpr ⟨_, hroute hexposes, rfl⟩, rfl⟩, ?_⟩
    rintro cluster ⟨hcluster, hname⟩
    obtain ⟨route, hmem, rfl⟩ := mem_clusters_assembled.mp hcluster
    rw [hsound.eq_of_clusterName hmem (hroute hexposes) hname]
  case cluster_port =>
    intro cluster hcluster
    obtain ⟨route, hmem, rfl⟩ := mem_clusters_assembled.mp hcluster
    obtain ⟨service, port, hexposes, rfl⟩ := mem_routesOf_iff.mp hmem
    refine ⟨(service, port), ⟨hexposes, rfl⟩, ?_⟩
    rintro ⟨other, port'⟩ ⟨hexposes', hname⟩
    have heq := hsound.eq_of_clusterName (hroute hexposes') (hroute hexposes) hname.symm
    obtain ⟨rfl, rfl⟩ := hexposes'.eq_of_route (hwell hexposes') hexposes heq
    rfl
  case cluster_target =>
    intro cluster hcluster
    rw [htargets.count_eq]
    exact List.count_eq_one_of_mem hascend.nodup (List.mem_map_of_mem hcluster)
  case target_cluster => exact fun target hmem => htargets.mem_iff.mp hmem
  case virtual_hosts =>
    intro listener hmem hosts hfilter
    obtain ⟨number, haddress, rfl⟩ := exists_port_of_httpConnections hlisten hmem hfilter
    have hhosts := hsound.routesOn_pairwise number
    have hcolon : ∀ route ∈ routesOn (routesOf services) number, ':' ∉ route.hostname.toList :=
      fun route hroute => hsound.no_colon route (mem_routesOn.mp hroute).1
    exact ⟨domains_nodup hcolon hhosts, number, (routesOn _ number).map Route.hostname,
      haddress, List.pairwise_map.mpr hhosts, domains_routesOn number⟩

-- ── A small mesh ────────────────────────────────────────────────────────────

/-- A service with a namespace and a port that is not forwarded. -/
def reviews : Service where
  name := "reviews"
  ns := some "default"
  tags := ∅
  ports := [⟨"http", 9080, .http⟩, ⟨"stats", 8125, .udp⟩]

/-- A service whose only port has no name. -/
def mysql : Service where
  name := "mysql"
  ns := some ""
  tags := ∅
  ports := [⟨"", 3306, .tcp⟩]

/-- A service with the host name of an earlier one, which would not be accepted. -/
def staleReviews : Service := { reviews with ports := [] }

/-- The configuration of the two services. -/
def smallConfig : Config where
  listeners :=
    [⟨"virtual", "tcp://0.0.0.0:15001", true, true, none⟩,
     ⟨"tcp_0.0.0.0_3306", "tcp://0.0.0.0:3306", false, false, some (.tcpProxy "out.mysql|3306")⟩,
     ⟨"http_0.0.0.0_9080", "tcp://0.0.0.0:9080", false, false, some (.httpConnections
       [⟨"reviews.default:9080", ["reviews.default", "reviews.default:9080"],
         "out.reviews.default|http"⟩])⟩]
  admin := ⟨"/dev/stdout", "tcp://127.0.0.1:15000"⟩
  clusterManager :=
    { clusters :=
        [⟨"out.mysql|3306", some "mysql|3306", 1000, .sds, "round_robin", []⟩,
         ⟨"out.reviews.default|http", some "reviews.default|http", 1000, .sds, "round_robin", []⟩]
      sds := ⟨⟨"sds", none, 1000, .strictDns, "round_robin", ["tcp://istio-pilot:8080"]⟩, 1000⟩ }

/-- The routes of the two services, in the order in which they are listed. -/
def smallRoutes : List Route :=
  [⟨"reviews.default", 9080, "http", true⟩, ⟨"mysql", 3306, "3306", false⟩]

theorem ofRoutes_small : Config.ofRoutes {} smallRoutes = .ok smallConfig := by
  have hsound : RoutesSound {} (routesOf [reviews, mysql, staleReviews]) :=
    routesSound_routesOf (by decide)
  -- the sorting is not carried out: what is sorted is known by what it holds
  have hnumbers : portNumbers smallRoutes = [3306, 9080] := by
    refine eq_of_ascending (fun number => number) (portNumbers_pairwise _) (by decide) ?_
    intro number
    rw [mem_portNumbers]
    simp [smallRoutes, eq_comm, or_comm]
  have hmysql : routesOn smallRoutes 3306 = [⟨"mysql", 3306, "3306", false⟩] := by
    simp [routesOn, smallRoutes]
  have hreviews : routesOn smallRoutes 9080 = [⟨"reviews.default", 9080, "http", true⟩] := by
    simp [routesOn, smallRoutes]
  have hclusters : (smallRoutes.map (Route.cluster {})).mergeSort
      (fun a b => decide (a.name ≤ b.name)) = smallConfig.clusterManager.clusters := by
    refine eq_of_ascending Cluster.name hsound.clusters_pairwise (by decide) fun cluster => ?_
    rw [List.mem_mergeSort]
    exact (List.Perm.swap ..).mem_iff
  rw [Config.ofRoutes, hnumbers, portListeners, hmysql, portListeners, hreviews, hclusters]
  rfl

theorem generate_small :
    Config.generate [reviews, mysql, staleReviews] {} = .ok smallConfig :=
  Config.generate_eq_ok_iff.mpr ⟨by decide, ofRoutes_small⟩

/-- The configuration of two services, with a later one of the same host name, is consistent. -/
theorem small_consistent :
    Config.generate [reviews, mysql, staleReviews] {} = .ok smallConfig ∧
      smallConfig.Consistent [reviews, mysql, staleReviews] {} :=
  ⟨generate_small, Config.generate_consistent generate_small⟩

end MeshSidecar
