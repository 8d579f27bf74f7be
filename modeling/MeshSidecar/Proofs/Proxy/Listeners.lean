import MeshSidecar.Proofs.Names.Ascending
import MeshSidecar.Proofs.Proxy.Routes

/-!
# Routes sorted into listeners

Routes are grouped by port and the groups are sorted twice: the ports ascend, and so do the
host names on each port. As no port is listed twice and no host name is twice on one port,
both orders are strict, and so neither depends on the order in which the routes were listed
(`portNumbers_congr`, `routesOn_congr`).

What a listener of a port looks like is said by `PortListens`, which has a case for each of the
two filters. The clusters to which the listeners forward, their *targets*, are those of the
routes, port by port (`PortsListen.targets_eq`).
-/

namespace MeshSidecar

/-- A list without its repeats holds nothing twice. -/
theorem nodup_eraseDups {α : Type} [DecidableEq α] : ∀ items : List α, items.eraseDups.Nodup
  | [] => List.nodup_nil
  | item :: rest => by
      rw [List.eraseDups_cons, List.nodup_cons]
      refine ⟨fun hmem => ?_, nodup_eraseDups _⟩
      have := (List.mem_filter.mp (List.mem_eraseDups.mp hmem)).2
      simp at this
termination_by items => items.length
decreasing_by exact Nat.lt_succ_of_le (List.length_filter_le _ _)

-- ── Ports ───────────────────────────────────────────────────────────────────

/-- The ports of routes are those on which there is one. -/
theorem mem_portNumbers {routes : List Route} {number : UInt16} :
    number ∈ portNumbers routes ↔ ∃ route ∈ routes, route.number = number := by
  rw [portNumbers, List.mem_mergeSort, List.mem_eraseDups, List.mem_map]

/-- The ports of routes ascend strictly. -/
theorem portNumbers_pairwise (routes : List Route) : (portNumbers routes).Pairwise (· < ·) :=
  mergeSort_pairwise_lt (fun number => number)
    (by rw [List.map_id']; exact nodup_eraseDups _)

/-- The ports of routes do not depend on their order. -/
theorem portNumbers_congr {first second : List Route} (h : first.Perm second) :
    portNumbers first = portNumbers second := by
  refine eq_of_ascending (fun number => number) (portNumbers_pairwise first)
    (portNumbers_pairwise second) fun number => ?_
  rw [mem_portNumbers, mem_portNumbers]
  exact exists_congr fun route => and_congr_left fun _ => h.mem_iff

-- ── Routes on a port ────────────────────────────────────────────────────────

/-- The routes on a port are those with its number. -/
theorem mem_routesOn {routes : List Route} {number : UInt16} {route : Route} :
    route ∈ routesOn routes number ↔ route ∈ routes ∧ route.number = number := by
  rw [routesOn, List.mem_mergeSort, List.mem_filter, decide_eq_true_iff]

variable {mesh : MeshSettings} {routes : List Route}

/-- On each port the host names ascend strictly. -/
theorem RoutesSound.routesOn_pairwise (h : RoutesSound mesh routes) (number : UInt16) :
    (routesOn routes number).Pairwise fun a b => a.hostname < b.hostname := by
  refine mergeSort_pairwise_lt Route.hostname (List.Nodup.map_on ?_ (h.nodup.filter _))
  intro a ha b hb hhost
  obtain ⟨ha, hna⟩ := List.mem_filter.mp ha
  obtain ⟨hb, hnb⟩ := List.mem_filter.mp hb
  have hnumber : a.number = b.number :=
    (of_decide_eq_true hna).trans (of_decide_eq_true hnb).symm
  exact h.eq_of_hostname ha hb hhost (Or.inl hnumber)

/-- The routes on a port do not depend on the order of all routes. -/
theorem RoutesSound.routesOn_congr {other : MeshSettings} {first second : List Route}
    (hfirst : RoutesSound mesh first) (hsecond : RoutesSound other second)
    (h : first.Perm second) (number : UInt16) :
    routesOn first number = routesOn second number := by
  refine eq_of_ascending Route.hostname (hfirst.routesOn_pairwise number)
    (hsecond.routesOn_pairwise number) fun route => ?_
  rw [mem_routesOn, mem_routesOn, h.mem_iff]

/-- Taken port by port, the routes are all there, each once. -/
theorem RoutesSound.flatMap_routesOn_perm (h : RoutesSound mesh routes) :
    ((portNumbers routes).flatMap (routesOn routes)).Perm routes := by
  refine (List.perm_ext_iff_of_nodup ?_ h.nodup).mpr fun route => ?_
  · refine List.pairwise_flatMap.mpr ⟨fun number _ => ?_, ?_⟩
    · exact (List.mergeSort_perm _ _).nodup_iff.mpr (h.nodup.filter _)
    · refine (portNumbers_pairwise routes).imp fun {m n} hlt => ?_
      intro a ha b hb heq
      have hm := (mem_routesOn.mp ha).2
      have hn := (mem_routesOn.mp hb).2
      rw [← hm, ← hn, heq] at hlt
      exact UInt16.lt_irrefl _ hlt
  · rw [List.mem_flatMap]
    constructor
    · rintro ⟨number, -, hmem⟩
      exact (mem_routesOn.mp hmem).1
    · intro hmem
      exact ⟨route.number, mem_portNumbers.mpr ⟨route, hmem, rfl⟩,
        mem_routesOn.mpr ⟨hmem, rfl⟩⟩

-- ── Listeners ───────────────────────────────────────────────────────────────

/-- A listener of a port over a filter. -/
def portListenerOf (number : UInt16) (kind : String) (filter : Filter) : Listener where
  name := kind ++ "_0.0.0.0_" ++ toString number.toNat
  address := anyAddress number
  bindToPort := false
  useOriginalDst := false
  filter := some filter

/-- The listener of a port for routes in ascending order: they all speak HTTP, or there is only
    one, which does not. -/
inductive PortListens (number : UInt16) : List Route → Listener → Prop where
  | http {routes : List Route} (h : ∀ route ∈ routes, route.isHttp = true) :
      PortListens number routes
        (portListenerOf number "http" (.httpConnections (routes.map Route.virtualHost)))
  | tcp {route : Route} (h : route.isHttp = false) :
      PortListens number [route] (portListenerOf number "tcp" (.tcpProxy route.clusterName))

/-- What is made for a port is the listener for its routes. -/
theorem portListener_eq_ok {number : UInt16} {routes : List Route} {listener : Listener}
    (h : portListener number routes = .ok listener) : PortListens number routes listener := by
  rw [portListener.eq_def] at h
  by_cases hall : routes.all (·.isHttp) = true
  · simp only [hall, if_true] at h
    rw [← Except.ok.inj h]
    exact .http (List.all_eq_true.mp hall)
  · simp only [hall] at h
    match routes, hall with
    | [], hall => exact absurd rfl hall
    | [route], hall =>
        rw [← Except.ok.inj h]
        exact .tcp (by simpa using hall)
    | _ :: _ :: _, _ => exact nomatch h

/-- The listeners of some ports, in order. -/
def PortsListen (routes : List Route) (numbers : List UInt16) (listeners : List Listener) : Prop :=
  List.Forall₂ (fun number listener => PortListens number (routesOn routes number) listener)
    numbers listeners

/-- The listeners that are made for ports are those of their routes, in order. -/
theorem portListeners_eq_ok {routes : List Route} :
    ∀ {numbers : List UInt16} {listeners : List Listener},
      portListeners routes numbers = .ok listeners →
      PortsListen routes numbers listeners := by
  intro numbers
  induction numbers with
  | nil =>
      intro listeners h
      rw [← Except.ok.inj h]
      exact .nil
  | cons number rest ih =>
      intro listeners h
      rw [portListeners] at h
      split at h
      · exact nomatch h
      · rename_i listener hlistener
        split at h
        · exact nomatch h
        · rename_i others hothers
          rw [← Except.ok.inj h]
          exact .cons (portListener_eq_ok hlistener) (ih hothers)

/-- Every listener of some ports is that of one of them. -/
theorem PortsListen.exists_port {routes : List Route} {numbers : List UInt16}
    {listeners : List Listener} (h : PortsListen routes numbers listeners) {listener : Listener}
    (hmem : listener ∈ listeners) :
    ∃ number ∈ numbers, PortListens number (routesOn routes number) listener := by
  induction h with
  | nil => exact nomatch hmem
  | cons hlistens _ ih =>
      rcases List.mem_cons.mp hmem with rfl | hrest
      · exact ⟨_, List.mem_cons_self .., hlistens⟩
      · obtain ⟨number, hnumber, hlistens'⟩ := ih hrest
        exact ⟨number, List.mem_cons_of_mem _ hnumber, hlistens'⟩

/-- Every one of some ports has its listener. -/
theorem PortsListen.exists_listener {routes : List Route} {numbers : List UInt16}
    {listeners : List Listener} (h : PortsListen routes numbers listeners) {number : UInt16}
    (hmem : number ∈ numbers) :
    ∃ listener ∈ listeners, PortListens number (routesOn routes number) listener := by
  induction h with
  | nil => exact nomatch hmem
  | cons hlistens _ ih =>
      rcases List.mem_cons.mp hmem with rfl | hrest
      · exact ⟨_, List.mem_cons_self .., hlistens⟩
      · obtain ⟨listener, hlistener, hlistens'⟩ := ih hrest
        exact ⟨listener, List.mem_cons_of_mem _ hlistener, hlistens'⟩

/-- The listener of a port listens there. -/
theorem PortListens.address_eq {number : UInt16} {routes : List Route} {listener : Listener}
    (h : PortListens number routes listener) : listener.address = anyAddress number := by
  cases h <;> rfl

/-- The listener of a port opens no port. -/
theorem PortListens.passive {number : UInt16} {routes : List Route} {listener : Listener}
    (h : PortListens number routes listener) :
    listener.bindToPort = false ∧ listener.useOriginalDst = false := by
  cases h <;> exact ⟨rfl, rfl⟩

/-- A listener that goes by host has a virtual host for each route, all of which speak HTTP. -/
theorem PortListens.http_inv {number : UInt16} {routes : List Route} {listener : Listener}
    {hosts : List VirtualHost} (h : PortListens number routes listener)
    (hfilter : listener.filter = some (.httpConnections hosts)) :
    (∀ route ∈ routes, route.isHttp = true) ∧ hosts = routes.map Route.virtualHost := by
  cases h with
  | http hhttp =>
      exact ⟨hhttp, (Filter.httpConnections.inj (Option.some.inj hfilter)).symm⟩
  | tcp _ => exact nomatch hfilter

/-- A listener that takes whole connections has one route, which does not speak HTTP. -/
theorem PortListens.tcp_inv {number : UInt16} {routes : List Route} {listener : Listener}
    {cluster : String} (h : PortListens number routes listener)
    (hfilter : listener.filter = some (.tcpProxy cluster)) :
    ∃ route, routes = [route] ∧ route.isHttp = false ∧ cluster = route.clusterName := by
  cases h with
  | http _ => exact nomatch hfilter
  | @tcp route htcp =>
      exact ⟨route, rfl, htcp, (Filter.tcpProxy.inj (Option.some.inj hfilter)).symm⟩

-- ── Targets ─────────────────────────────────────────────────────────────────

/-- The clusters to which a filter forwards. -/
def Filter.targets : Filter → List String
  | .httpConnections hosts => hosts.map (·.cluster)
  | .tcpProxy cluster => [cluster]

/-- The clusters to which a listener forwards. -/
def Listener.targets (listener : Listener) : List String :=
  match listener.filter with
  | none => []
  | some filter => filter.targets

/-- The clusters to which the listeners of a configuration forward, as often as they do. -/
def Config.targets (config : Config) : List String := config.listeners.flatMap Listener.targets

/-- The listener of a port forwards to the clusters of its routes. -/
theorem PortListens.targets_eq {number : UInt16} {routes : List Route} {listener : Listener}
    (h : PortListens number routes listener) :
    listener.targets = routes.map Route.clusterName := by
  cases h with
  | http _ =>
      show (routes.map Route.virtualHost).map (·.cluster) = routes.map Route.clusterName
      rw [List.map_map]
      rfl
  | tcp _ => rfl

/-- The listeners of ports listen there, in order. -/
theorem PortsListen.addresses_eq {numbers : List UInt16} {listeners : List Listener}
    (h : PortsListen routes numbers listeners) :
    listeners.map (·.address) = numbers.map anyAddress := by
  induction h with
  | nil => rfl
  | cons hlistens _ ih =>
      rw [List.map_cons, List.map_cons, ih, hlistens.address_eq]

/-- The listeners of ports forward to the clusters of the routes there, in order. -/
theorem PortsListen.targets_eq {numbers : List UInt16} {listeners : List Listener}
    (h : PortsListen routes numbers listeners) :
    listeners.flatMap Listener.targets
      = (numbers.flatMap (routesOn routes)).map Route.clusterName := by
  induction h with
  | nil => rfl
  | cons hlistens _ ih =>
      rw [List.flatMap_cons, List.flatMap_cons, List.map_append, ih, hlistens.targets_eq]

end MeshSidecar
