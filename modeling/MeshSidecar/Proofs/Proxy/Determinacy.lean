import MeshSidecar.Proofs.Proxy.Consistency

/-!
# When two configurations are the same

The watcher reloads the proxy if the configuration is not the one it had. `Config.generate_eq_iff`
says when that is: two configurations are equal exactly if the settings agree in what the proxy
is told of them and the services have the same set of routes.

One direction is that nothing else counts. Routes of the same set are the same up to their
order, and the sorting takes the order away (`ofRoutes_congr`). The other direction is that
nothing is lost. A configuration *shows* a route if the listener on the route's port forwards to
the route's cluster, and it shows no others than those it was made of (`shows_assembled_iff`),
because host name and key can be read off the name of a cluster.
-/

namespace MeshSidecar

/-- Two settings that the configuration of the proxy does not tell apart. -/
structure MeshSettings.Agree (m n : MeshSettings) : Prop where
  listenPort : m.listenPort = n.listenPort
  adminPort : m.adminPort = n.adminPort
  discoveryAddress : m.discoveryAddress = n.discoveryAddress
  connectTimeoutMs : m.connectTimeoutMs = n.connectTimeoutMs

/-- A list has the route of each port that it exposes: host name, number, name, or number again
    if there is no name, and whether it speaks HTTP. -/
def HasRoute (services : List Service) (route : Route) : Prop :=
  ∃ service port, Exposes services service port ∧
    route =
      { hostname := service.hostname
        number := port.number
        key := if port.name = "" then toString port.number.toNat else port.name
        isHttp := port.protocol.isHttp }

/-- What is looked at of the first service with a host name: number and name of the ports that do
    not speak UDP, and whether they speak HTTP. -/
def portsSeen (services : List Service) (hostname : String) : List (UInt16 × String × Bool) :=
  match services.find? (·.hostname = hostname) with
  | none => []
  | some service => service.forwardedPorts.map fun port =>
      (port.number, port.name, port.protocol.isHttp)

-- ── Routes as a set ─────────────────────────────────────────────────────────

/-- The routes that a list has are those that are made of it. -/
theorem hasRoute_iff {services : List Service} {route : Route} :
    HasRoute services route ↔ route ∈ routesOf services := by
  rw [mem_routesOf_iff]
  refine exists_congr fun service => exists_congr fun port => and_congr_right fun _ => ?_
  exact eq_comm

/-- A route is one of those ports that are looked at. -/
theorem hasRoute_iff_portsSeen {services : List Service} {route : Route} :
    HasRoute services route ↔
      ∃ name, (route.number, name, route.isHttp) ∈ portsSeen services route.hostname ∧
        route.key = if name = "" then toString route.number.toNat else name := by
  rw [HasRoute, portsSeen]
  constructor
  · rintro ⟨service, port, hexposes, rfl⟩
    have hfind : services.find? (·.hostname = service.hostname) = some service := hexposes.1
    refine ⟨port.name, ?_, rfl⟩
    rw [hfind]
    exact List.mem_map.mpr ⟨port, (exposes_iff.mp hexposes).2, rfl⟩
  · rintro ⟨name, hmem, hkey⟩
    cases hfind : services.find? (·.hostname = route.hostname) with
    | none => rw [hfind] at hmem; exact nomatch hmem
    | some service =>
        rw [hfind] at hmem
        obtain ⟨port, hport, heq⟩ := List.mem_map.mp hmem
        have hhost : service.hostname = route.hostname := by
          simpa using List.find?_some hfind
        have hcounts : Counts services service := by
          rw [Counts, hhost]
          exact hfind
        refine ⟨service, port,
          exposes_iff.mpr ⟨mem_firstOfEachHost_nil.mpr hcounts, hport⟩, ?_⟩
        obtain ⟨hnumber, hname, hhttp⟩ : port.number = route.number ∧ port.name = name ∧
            port.protocol.isHttp = route.isHttp := by simpa using heq
        rw [hhost, hnumber, hname, hhttp, ← hkey]

-- ── Nothing else counts ─────────────────────────────────────────────────────

/-- The listeners are made of the routes on each port. -/
theorem portListeners_congr {first second : List Route}
    (h : ∀ number, routesOn first number = routesOn second number) :
    ∀ numbers, portListeners first numbers = portListeners second numbers := by
  intro numbers
  induction numbers with
  | nil => rfl
  | cons number rest ih =>
      rw [portListeners, portListeners, h number, ih]

/-- What is made of routes depends neither on their order nor on the other settings. -/
theorem ofRoutes_congr {m n : MeshSettings} {first second : List Route} (hagree : m.Agree n)
    (hfirst : RoutesSound m first) (hsecond : RoutesSound n second)
    (hperm : first.Perm second) :
    Config.ofRoutes m first = Config.ofRoutes n second := by
  have hcluster : Route.cluster m = Route.cluster n := by
    funext route
    rw [Route.cluster, Route.cluster, hagree.connectTimeoutMs]
  have hclusters : (first.map (Route.cluster m)).mergeSort (fun a b => a.name ≤ b.name)
      = (second.map (Route.cluster n)).mergeSort fun a b => a.name ≤ b.name := by
    refine eq_of_ascending Cluster.name hfirst.clusters_pairwise hsecond.clusters_pairwise
      fun cluster => ?_
    rw [List.mem_mergeSort, List.mem_mergeSort, hcluster, (hperm.map _).mem_iff]
  have hredirect : redirectListener m = redirectListener n := by
    rw [redirectListener, redirectListener, hagree.listenPort]
  have hdiscovery : discoveryOf m = discoveryOf n := by
    rw [discoveryOf, discoveryOf, hagree.connectTimeoutMs, hagree.discoveryAddress]
  rw [Config.ofRoutes, Config.ofRoutes, portNumbers_congr hperm,
    portListeners_congr (hfirst.routesOn_congr hsecond hperm), hclusters, hredirect,
    hdiscovery, hagree.adminPort]

-- ── Nothing is lost ─────────────────────────────────────────────────────────

/-- On the port of the route, a configuration forwards to the cluster of the route: what the
    route serves if it speaks HTTP, and everything if it does not. -/
def Config.Shows (config : Config) (route : Route) : Prop :=
  ∃ listener ∈ config.listeners.tail, listener.address = anyAddress route.number ∧
    match route.isHttp with
    | true => ∃ hosts, listener.filter = some (.httpConnections hosts) ∧ route.virtualHost ∈ hosts
    | false => listener.filter = some (.tcpProxy route.clusterName)

/-- The settings are recovered from a configuration. -/
theorem agree_of_assembled_eq {m n : MeshSettings} {first second : List Route}
    {listeners others : List Listener}
    (h : Config.assembled m first listeners = Config.assembled n second others) : m.Agree n := by
  have hredirect : redirectListener m = redirectListener n :=
    (List.cons.inj (congrArg Config.listeners h)).1
  have hadmin := congrArg (fun config => config.admin.address) h
  have hdiscovery : discoveryOf m = discoveryOf n :=
    congrArg (fun config => config.clusterManager.sds) h
  have hhosts : ["tcp://" ++ m.discoveryAddress] = ["tcp://" ++ n.discoveryAddress] :=
    congrArg (fun discovery => discovery.cluster.hosts) hdiscovery
  constructor
  case listenPort => exact anyAddress_inj (congrArg Listener.address hredirect)
  case adminPort =>
    exact UInt16.toNat_inj.mp (Text.eq_of_toString ((String.append_right_inj _).mp hadmin))
  case discoveryAddress => exact (String.append_right_inj _).mp (List.cons.inj hhosts).1
  case connectTimeoutMs =>
    exact congrArg (fun discovery => discovery.cluster.connectTimeoutMs) hdiscovery

section

variable {mesh : MeshSettings} {routes : List Route} {listeners : List Listener}

/-- Routes on one port with one cluster are the same if both speak HTTP or neither does. -/
theorem Route.eq_of_shown {a b : Route} (ha : '|' ∉ a.hostname.toList)
    (hb : '|' ∉ b.hostname.toList) (hname : a.clusterName = b.clusterName)
    (hnumber : a.number = b.number) (hhttp : a.isHttp = b.isHttp) : a = b := by
  obtain ⟨hhost, hkey⟩ := Route.eq_of_clusterName ha hb hname
  cases a
  cases b
  subst hhost hkey hnumber hhttp
  rfl

/-- A configuration shows the routes that it was made of and no others. -/
theorem shows_assembled_iff (hsound : RoutesSound mesh routes)
    (hlisten : PortsListen routes (portNumbers routes) listeners)
    {route : Route} (hbar : '|' ∉ route.hostname.toList) :
    (Config.assembled mesh routes listeners).Shows route ↔ route ∈ routes := by
  constructor
  · rintro ⟨listener, hmem, haddress, hforwards⟩
    obtain ⟨number, -, hlistens⟩ := hlisten.exists_port hmem
    obtain rfl : number = route.number := anyAddress_inj (hlistens.address_eq.symm.trans haddress)
    cases hhttp : route.isHttp with
    | true =>
        rw [hhttp] at hforwards
        obtain ⟨hosts, hfilter, hhost⟩ := hforwards
        obtain ⟨hall, rfl⟩ := hlistens.http_inv hfilter
        obtain ⟨other, hother, hvirtual⟩ := List.mem_map.mp hhost
        obtain ⟨hroutes, hnumber⟩ := mem_routesOn.mp hother
        have heq : other = route := Route.eq_of_shown (hsound.no_bar other hroutes) hbar
          (congrArg VirtualHost.cluster hvirtual) hnumber ((hall other hother).trans hhttp.symm)
        exact heq ▸ hroutes
    | false =>
        rw [hhttp] at hforwards
        obtain ⟨other, hon, htcp, hname⟩ := hlistens.tcp_inv hforwards
        obtain ⟨hroutes, hnumber⟩ := mem_routesOn.mp (hon ▸ List.mem_singleton_self other)
        have heq : other = route := Route.eq_of_shown (hsound.no_bar other hroutes) hbar
          hname.symm hnumber (htcp.trans hhttp.symm)
        exact heq ▸ hroutes
  · intro hroute
    have hon : route ∈ routesOn routes route.number := mem_routesOn.mpr ⟨hroute, rfl⟩
    obtain ⟨listener, hmem, hlistens⟩ :=
      hlisten.exists_listener (mem_portNumbers.mpr ⟨route, hroute, rfl⟩)
    refine ⟨listener, hmem, hlistens.address_eq, ?_⟩
    generalize routesOn routes route.number = those at hon hlistens
    cases hlistens with
    | http hall =>
        rw [hall route hon]
        exact ⟨_, rfl, List.mem_map_of_mem hon⟩
    | tcp htcp =>
        obtain rfl := List.mem_singleton.mp hon
        rw [htcp]
        rfl

end

-- ── When configurations are equal ───────────────────────────────────────────

/-- Two configurations that were generated are equal exactly if the settings agree and the
    services have the same routes. So nothing changes as long as the first services of each host
    name look the same, wherever they stand. -/
theorem Config.generate_eq_iff {first second : List Service} {m n : MeshSettings} {c d : Config}
    (hc : Config.generate first m = .ok c) (hd : Config.generate second n = .ok d) :
    (c = d ↔ m.Agree n ∧ ∀ route, HasRoute first route ↔ HasRoute second route) ∧
      (m.Agree n → (∀ hostname, portsSeen first hostname = portsSeen second hostname) →
        c = d) := by
  obtain ⟨hfirst, hmade⟩ := Config.generate_eq_ok_iff.mp hc
  obtain ⟨hsecond, hmade'⟩ := Config.generate_eq_ok_iff.mp hd
  have hsound := routesSound_routesOf hfirst
  have hsound' := routesSound_routesOf hsecond
  have hequal : m.Agree n → (∀ route, HasRoute first route ↔ HasRoute second route) → c = d := by
    intro hagree hroutes
    have hperm : (routesOf first).Perm (routesOf second) :=
      (List.perm_ext_iff_of_nodup hsound.nodup hsound'.nodup).mpr fun route =>
        hasRoute_iff.symm.trans ((hroutes route).trans hasRoute_iff)
    rw [ofRoutes_congr hagree hsound hsound' hperm, hmade'] at hmade
    exact (Except.ok.inj hmade).symm
  refine ⟨⟨fun heq => ?_, fun h => hequal h.1 h.2⟩, fun hagree hseen => ?_⟩
  · obtain ⟨listeners, hlisten, rfl⟩ := Config.ofRoutes_eq_ok hmade
    obtain ⟨others, hlisten', rfl⟩ := Config.ofRoutes_eq_ok hmade'
    refine ⟨agree_of_assembled_eq heq, fun route => ?_⟩
    rw [hasRoute_iff, hasRoute_iff]
    constructor
    · intro hmem
      have hbar := hsound.no_bar route hmem
      rw [← shows_assembled_iff hsound' hlisten' hbar, ← heq]
      exact (shows_assembled_iff hsound hlisten hbar).mpr hmem
    · intro hmem
      have hbar := hsound'.no_bar route hmem
      rw [← shows_assembled_iff hsound hlisten hbar, heq]
      exact (shows_assembled_iff hsound' hlisten' hbar).mpr hmem
  · refine hequal hagree fun route => ?_
    rw [hasRoute_iff_portsSeen, hasRoute_iff_portsSeen, hseen]

/-- The first service without its UDP port, with a tag and another protocol of HTTP. -/
def otherReviews : Service where
  name := "reviews"
  ns := some "default"
  tags := NameSet.ofList ["v2"]
  ports := [⟨"http", 9080, .grpc⟩]

/-- The services in another order, under settings that wait longer, have the same
    configuration. -/
theorem generate_other :
    Config.generate [mysql, otherReviews] { drainSecs := 7 } = .ok smallConfig := by
  have hoffence : ∀ service ∈ firstOfEachHost [] [mysql, otherReviews],
      service.offence { drainSecs := 7 } = none := by decide
  have hsmall : ∀ service ∈ firstOfEachHost [] [reviews, mysql, staleReviews],
      service.offence {} = none := by decide
  refine Config.generate_eq_ok_iff.mpr ⟨hoffence, ?_⟩
  rw [ofRoutes_congr ⟨rfl, rfl, rfl, rfl⟩ (routesSound_routesOf hoffence)
    (routesSound_routesOf hsmall) (List.Perm.swap ..)]
  exact ofRoutes_small

/-- The two lists have the same routes. -/
theorem small_same_routes :
    Config.generate [reviews, mysql, staleReviews] {} = .ok smallConfig ∧
      Config.generate [mysql, otherReviews] { drainSecs := 7 } = .ok smallConfig ∧
      ∀ route, HasRoute [reviews, mysql, staleReviews] route ↔
        HasRoute [mysql, otherReviews] route :=
  ⟨generate_small, generate_other,
    ((Config.generate_eq_iff generate_small generate_other).1.mp rfl).2⟩

end MeshSidecar
