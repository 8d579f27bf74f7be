import MeshSidecar.Proofs.Proxy.Consistency

/-!
# Why there is no configuration

A list of well-formed services has a configuration unless they claim ports that they cannot have
(`Config.exists_generate_eq_ok_iff`): a port of the proxy itself, or one that others claim as well,
not all of them for HTTP. A service never stands in its own way, for its ports differ in number, and
one that is listed twice counts once. So those who conflict over a port are at least two hosts.
-/

namespace MeshSidecar

/-- An error that tells of the ports that services expose. -/
inductive GenerateError.TellsClaims (services : List Service) (mesh : MeshSettings) :
    GenerateError → Prop where
  /-- A service exposes a port of the proxy. -/
  | reserved {service : Service} {port : Port} (hexposes : Exposes services service port)
      (hreserved : port.number = mesh.listenPort ∨ port.number = mesh.adminPort) :
      TellsClaims services mesh (.reservedPort port.number service.hostname)
  /-- At least two hosts expose a port, and one of them does not speak HTTP there. -/
  | conflict {number : UInt16} {hostnames : List String}
      (hclaims : ∀ hostname, hostname ∈ hostnames ↔ ∃ service port,
        Exposes services service port ∧ service.hostname = hostname ∧ port.number = number)
      (hdistinct : hostnames.Nodup) (hseveral : 2 ≤ hostnames.length)
      (hother : ∃ service port, Exposes services service port ∧ port.number = number ∧
        port.protocol.isHttp = false) :
      TellsClaims services mesh (.portConflict number hostnames)

-- ── Listeners that cannot be made ───────────────────────────────────────────

/-- Routes have no listener if there are several and one of them does not speak HTTP. -/
theorem portListener_eq_error {number : UInt16} {routes : List Route} {error : GenerateError}
    (h : portListener number routes = .error error) :
    error = .portConflict number (routes.map (·.hostname)) ∧ 2 ≤ routes.length ∧
      ∃ route ∈ routes, route.isHttp = false := by
  rw [portListener.eq_def] at h
  by_cases hall : routes.all (·.isHttp) = true
  · simp only [hall, if_true] at h
    cases h
  · simp only [hall] at h
    have hother : ∃ route ∈ routes, route.isHttp = false := by simpa using hall
    rcases routes with _ | ⟨first, _ | ⟨second, rest⟩⟩
    · exact absurd rfl hall
    · cases h
    · exact ⟨(Except.error.inj h).symm, Nat.le_add_left 2 rest.length, hother⟩

/-- Ports have no listeners if one of them has none, and the first such one tells why. -/
theorem portListeners_eq_error {routes : List Route} {numbers : List UInt16}
    {error : GenerateError} (h : portListeners routes numbers = .error error) :
    ∃ before number after, numbers = before ++ number :: after ∧
      portListener number (routesOn routes number) = .error error ∧
      ∀ earlier ∈ before, ∃ listener,
        portListener earlier (routesOn routes earlier) = .ok listener := by
  induction numbers with
  | nil => cases h
  | cons number rest ih =>
      rw [portListeners] at h
      cases hfirst : portListener number (routesOn routes number) with
      | error conflict =>
          simp only [hfirst] at h
          obtain rfl := Except.error.inj h
          exact ⟨[], number, rest, rfl, hfirst, List.forall_mem_nil _⟩
      | ok listener =>
          simp only [hfirst] at h
          cases hrest : portListeners routes rest with
          | error conflict =>
              simp only [hrest] at h
              obtain rfl := Except.error.inj h
              obtain ⟨before, other, after, rfl, hnone, hbefore⟩ := ih hrest
              exact ⟨number :: before, other, after, rfl, hnone,
                List.forall_mem_cons.mpr ⟨⟨listener, hfirst⟩, hbefore⟩⟩
          | ok listeners =>
              simp only [hrest] at h
              cases h

/-- Those who expose a port are the hosts of the routes on it. -/
theorem mem_hostnames_routesOn {services : List Service} {number : UInt16} {hostname : String} :
    hostname ∈ (routesOn (routesOf services) number).map (·.hostname) ↔ ∃ service port,
      Exposes services service port ∧ service.hostname = hostname ∧ port.number = number := by
  simp only [List.mem_map, mem_routesOn, mem_routesOf_iff]
  constructor
  · rintro ⟨route, ⟨⟨service, port, hexposes, rfl⟩, hnumber⟩, hhost⟩
    exact ⟨service, port, hexposes, hhost, hnumber⟩
  · rintro ⟨service, port, hexposes, hhost, hnumber⟩
    exact ⟨Route.ofPort service.hostname port, ⟨⟨service, port, hexposes, rfl⟩, hnumber⟩, hhost⟩

namespace Config

variable {services : List Service} {mesh : MeshSettings} {error : GenerateError}

/-- Routes have no configuration if a port of theirs has no listener, and the least one tells why. -/
theorem ofRoutes_eq_error {routes : List Route} (h : ofRoutes mesh routes = .error error) :
    ∃ number, portListener number (routesOn routes number) = .error error ∧
      ∀ earlier ∈ portNumbers routes, earlier < number → ∃ listener,
        portListener earlier (routesOn routes earlier) = .ok listener := by
  have hlisten : portListeners routes (portNumbers routes) = .error error := by
    rw [ofRoutes] at h
    cases hlisten : portListeners routes (portNumbers routes) with
    | error conflict =>
        simp only [hlisten] at h
        rw [Except.error.inj h]
    | ok listeners =>
        simp only [hlisten] at h
        cases h
  obtain ⟨before, number, after, hnumbers, hnone, hbefore⟩ := portListeners_eq_error hlisten
  refine ⟨number, hnone, fun earlier hearlier hlt => hbefore earlier ?_⟩
  -- the ports ascend, so the ones that are less come before
  have hascend := portNumbers_pairwise routes
  rw [hnumbers] at hascend hearlier
  rcases List.mem_append.mp hearlier with hmem | hmem
  · exact hmem
  · rcases List.mem_cons.mp hmem with rfl | hmem
    · exact absurd hlt (UInt16.lt_irrefl _)
    · have hgt := (List.pairwise_cons.mp (List.pairwise_append.mp hascend).2.1).1 earlier hmem
      exact absurd hgt (UInt16.lt_asymm hlt)

/-- If nothing is held against any service, then routes on one port are all that can fail. -/
theorem claims_of_ofRoutes_error
    (hoffence : ∀ service ∈ firstOfEachHost [] services, service.offence mesh = none)
    (h : ofRoutes mesh (routesOf services) = .error error) :
    error.TellsClaims services mesh := by
  obtain ⟨number, hnone, -⟩ := ofRoutes_eq_error h
  obtain ⟨rfl, hseveral, route, hroute, hother⟩ := portListener_eq_error hnone
  have hascend := (routesSound_routesOf hoffence).routesOn_pairwise number
  refine .conflict (fun hostname => mem_hostnames_routesOn) ?_ ?_ ?_
  · refine List.pairwise_map.mpr (hascend.imp fun {a b} hlt heq => ?_)
    exact String.lt_irrefl b.hostname (heq ▸ hlt)
  · rwa [List.length_map]
  · obtain ⟨hmem, hnumber⟩ := mem_routesOn.mp hroute
    obtain ⟨service, port, hexposes, rfl⟩ := mem_routesOf_iff.mp hmem
    exact ⟨service, port, hexposes, hnumber, hother⟩

/-- What is held against a well-formed service is a claim on a port of the proxy. -/
theorem claims_of_offence {service : Service} (hcounts : service ∈ firstOfEachHost [] services)
    (hvalid : service.validate = .ok ()) (h : service.offence mesh = some error) :
    error.TellsClaims services mesh := by
  rw [Service.offence, hvalid] at h
  obtain ⟨port, hfind, rfl⟩ := Option.map_eq_some_iff.mp h
  have hexposes := exposes_iff.mpr ⟨hcounts, List.mem_of_find?_eq_some hfind⟩
  exact .reserved hexposes (by simpa using List.find?_some hfind)

/-- Well-formed services have no configuration only because of the ports that they expose. -/
theorem claims_of_generate_error (hvalid : ∀ service ∈ services, service.validate = .ok ())
    (h : generate services mesh = .error error) : error.TellsClaims services mesh := by
  rw [generate] at h
  cases hfind : (firstOfEachHost [] services).findSome? (Service.offence mesh) with
  | none =>
      rw [hfind] at h
      exact claims_of_ofRoutes_error (List.findSome?_eq_none_iff.mp hfind) h
  | some offence =>
      rw [hfind] at h
      obtain rfl := Except.error.inj h
      obtain ⟨service, hcounts, hoffence⟩ := List.exists_of_findSome?_eq_some hfind
      have hlisted : service ∈ services :=
        List.mem_of_find?_eq_some (mem_firstOfEachHost_nil.mp hcounts)
      exact claims_of_offence hcounts (hvalid service hlisted) hoffence

/-- Claims that cannot be met leave no configuration. -/
theorem generate_ne_ok_of_claims (hclaims : error.TellsClaims services mesh) (config : Config) :
    generate services mesh ≠ .ok config := by
  intro h
  obtain ⟨hoffence, hroutes⟩ := generate_eq_ok_iff.mp h
  cases hclaims with
  | @reserved service port hexposes hreserved =>
      obtain ⟨hcounts, hforwarded⟩ := exposes_iff.mp hexposes
      obtain ⟨hlisten, hadmin⟩ :=
        (Service.offence_eq_none_iff.mp (hoffence service hcounts)).2 port hforwarded
      exact hreserved.elim hlisten hadmin
  | @conflict number hostnames hclaims hdistinct hseveral hother =>
      obtain ⟨service, port, hexposes, hnumber, hother⟩ := hother
      have hroute : Route.ofPort service.hostname port ∈ routesOf services :=
        mem_routesOf_iff.mpr ⟨service, port, hexposes, rfl⟩
      have hon : Route.ofPort service.hostname port ∈ routesOn (routesOf services) number :=
        mem_routesOn.mpr ⟨hroute, hnumber⟩
      obtain ⟨listeners, hlisten, -⟩ := ofRoutes_eq_ok hroutes
      obtain ⟨listener, -, hlistens⟩ :=
        hlisten.exists_listener (mem_portNumbers.mpr ⟨_, hroute, hnumber⟩)
      have hhosts : hostnames ⊆ (routesOn (routesOf services) number).map (·.hostname) :=
        fun hostname hmem => mem_hostnames_routesOn.mpr ((hclaims hostname).mp hmem)
      generalize routesOn (routesOf services) number = routes at hon hlistens hhosts
      cases hlistens with
      | http hhttp => exact Bool.false_ne_true (hother.symm.trans (hhttp _ hon))
      | tcp _ =>
          have hone := (List.subperm_of_subset hdistinct hhosts).length_le
          exact absurd (Nat.le_trans hseveral hone) (Nat.not_succ_le_self 1)

/-- Well-formed services have a configuration exactly if there are no such claims. -/
theorem exists_generate_eq_ok_iff (hvalid : ∀ service ∈ services, service.validate = .ok ()) :
    (∃ config, generate services mesh = .ok config) ↔
      ∀ error : GenerateError, ¬ error.TellsClaims services mesh := by
  constructor
  · rintro ⟨config, h⟩ error hclaims
    exact generate_ne_ok_of_claims hclaims config h
  · intro hnone
    cases h : generate services mesh with
    | error error => exact absurd (claims_of_generate_error hvalid h) (hnone error)
    | ok config => exact ⟨config, rfl⟩

end Config

end MeshSidecar
