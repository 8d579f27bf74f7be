import Mathlib.Data.List.Pairwise
import MeshSidecar.Proofs.Service.WellFormed
import MeshSidecar.Proxy.Generate

/-!
# The routes of accepted services

A service *counts* in a list if it is the first one with its host name, and it *exposes* the
ports of it that do not speak UDP. The routes of a list are the exposed ports of the services
that count (`mem_routesOf_iff`).

Once a configuration was generated, all services that count are well-formed and claim no port
of the proxy, so their routes are `RoutesSound`: no host name holds a colon or a bar, two routes
of one host differ in number and in key, and no route is on a reserved port. All that is shown
of a generated configuration rests on this alone. In particular the name of its cluster tells a
route apart from all others (`RoutesSound.eq_of_clusterName`).
-/

namespace MeshSidecar

/-- A service counts in a list if no service before it has its host name. -/
def Counts (services : List Service) (service : Service) : Prop :=
  services.find? (·.hostname = service.hostname) = some service

/-- A service that counts in a list exposes a port that does not speak UDP. -/
def Exposes (services : List Service) (service : Service) (port : Port) : Prop :=
  Counts services service ∧ port ∈ service.ports ∧ port.protocol ≠ .udp

instance (services : List Service) (service : Service) : Decidable (Counts services service) :=
  inferInstanceAs (Decidable (_ = _))

instance (services : List Service) (service : Service) (port : Port) :
    Decidable (Exposes services service port) :=
  inferInstanceAs (Decidable (_ ∧ _ ∧ _))

-- ── Services that count ─────────────────────────────────────────────────────

/-- What is kept of a list are the services that count and whose host name was not seen. -/
theorem mem_firstOfEachHost {service : Service} :
    ∀ {seen : List String} {services : List Service},
      service ∈ firstOfEachHost seen services ↔
        service.hostname ∉ seen ∧ Counts services service := by
  intro seen services
  induction services generalizing seen with
  | nil => exact iff_of_false nofun (fun h => nomatch h.2)
  | cons first rest ih =>
      rw [firstOfEachHost]
      rw [Counts] at ih ⊢
      by_cases hseen : first.hostname ∈ seen
      · rw [if_pos (List.contains_iff_mem.mpr hseen), ih]
        refine and_congr_right fun hnew => ?_
        have hne : first.hostname ≠ service.hostname := fun heq => hnew (heq ▸ hseen)
        rw [List.find?_cons_of_neg (by simpa using hne)]
      · rw [if_neg (by simpa using hseen), List.mem_cons, ih, List.mem_cons]
        by_cases hhost : first.hostname = service.hostname
        · rw [List.find?_cons_of_pos (by simpa using hhost), ← hhost]
          constructor
          · rintro (rfl | ⟨hnew, -⟩)
            · exact ⟨hseen, rfl⟩
            · exact absurd (Or.inl rfl) hnew
          · rintro ⟨-, heq⟩
            exact Or.inl (Option.some.inj heq).symm
        · rw [List.find?_cons_of_neg (by simpa using hhost)]
          constructor
          · rintro (rfl | ⟨hnew, hfind⟩)
            · exact absurd rfl hhost
            · exact ⟨fun hmem => hnew (Or.inr hmem), hfind⟩
          · rintro ⟨hnew, hfind⟩
            exact Or.inr ⟨fun hmem => hmem.elim (fun heq => hhost heq.symm) hnew, hfind⟩

/-- The services that count have different host names. -/
theorem firstOfEachHost_pairwise :
    ∀ {seen : List String} {services : List Service},
      (firstOfEachHost seen services).Pairwise fun a b => a.hostname ≠ b.hostname := by
  intro seen services
  induction services generalizing seen with
  | nil => exact List.Pairwise.nil
  | cons first rest ih =>
      rw [firstOfEachHost]
      split
      · exact ih
      · refine List.pairwise_cons.mpr ⟨fun other hother heq => ?_, ih⟩
        exact (mem_firstOfEachHost.mp hother).1 (heq ▸ List.mem_cons_self ..)

/-- The services that count in a list are those that are kept of it. -/
theorem mem_firstOfEachHost_nil {services : List Service} {service : Service} :
    service ∈ firstOfEachHost [] services ↔ Counts services service :=
  mem_firstOfEachHost.trans (and_iff_right nofun)

/-- A port is exposed if its service counts and it is forwarded. -/
theorem exposes_iff {services : List Service} {service : Service} {port : Port} :
    Exposes services service port ↔
      service ∈ firstOfEachHost [] services ∧ port ∈ service.forwardedPorts := by
  rw [Exposes, Service.forwardedPorts, mem_firstOfEachHost_nil, List.mem_filter,
    decide_eq_true_iff]

/-- The routes of a list are the ports that its services expose. -/
theorem mem_routesOf_iff {services : List Service} {route : Route} :
    route ∈ routesOf services ↔
      ∃ service port, Exposes services service port ∧
        Route.ofPort service.hostname port = route := by
  simp only [routesOf, List.mem_flatMap, List.mem_map, exposes_iff]
  constructor
  · rintro ⟨service, hservice, port, hport, heq⟩
    exact ⟨service, port, ⟨hservice, hport⟩, heq⟩
  · rintro ⟨service, port, ⟨hservice, hport⟩, heq⟩
    exact ⟨service, hservice, port, hport, heq⟩

-- ── Services without offence ────────────────────────────────────────────────

/-- Nothing is held against a service that is well-formed and claims no port of the proxy. -/
theorem Service.offence_eq_none_iff {mesh : MeshSettings} {service : Service} :
    service.offence mesh = none ↔
      service.WellFormed ∧ ∀ port ∈ service.forwardedPorts,
        port.number ≠ mesh.listenPort ∧ port.number ≠ mesh.adminPort := by
  rw [← Service.validate_eq_ok_iff]
  rw [Service.offence]
  cases service.validate with
  | error invalid => exact iff_of_false nofun (fun h => nomatch h.1)
  | ok _ => simp

/-- A configuration is generated if nothing is held against the services that count and their
    routes can share their ports. -/
theorem Config.generate_eq_ok_iff {services : List Service} {mesh : MeshSettings}
    {config : Config} :
    Config.generate services mesh = .ok config ↔
      (∀ service ∈ firstOfEachHost [] services, service.offence mesh = none) ∧
        Config.ofRoutes mesh (routesOf services) = .ok config := by
  rw [Config.generate]
  cases hfind : (firstOfEachHost [] services).findSome? (Service.offence mesh) with
  | none => exact ⟨fun h => ⟨List.findSome?_eq_none_iff.mp hfind, h⟩, fun h => h.2⟩
  | some offence =>
      refine iff_of_false nofun fun h => ?_
      rw [List.findSome?_eq_none_iff.mpr h.1] at hfind
      exact nomatch hfind

-- ── Sound routes ────────────────────────────────────────────────────────────

/-- Routes that can be told apart by the names that are built from them, on ports that the
    proxy does not use itself. -/
structure RoutesSound (mesh : MeshSettings) (routes : List Route) : Prop where
  no_colon : ∀ route ∈ routes, ':' ∉ route.hostname.toList
  no_bar : ∀ route ∈ routes, '|' ∉ route.hostname.toList
  apart : routes.Pairwise fun a b => a.hostname = b.hostname → a.number ≠ b.number ∧ a.key ≠ b.key
  unreserved : ∀ route ∈ routes, route.number ≠ mesh.listenPort ∧ route.number ≠ mesh.adminPort

/-- Two forwarded ports of a well-formed service differ in number and in key. -/
theorem Service.WellFormed.forwardedPorts_apart {service : Service} (h : service.WellFormed)
    (hostname : String) :
    service.forwardedPorts.Pairwise fun a b =>
      a.number ≠ b.number ∧
        (Route.ofPort hostname a).key ≠ (Route.ofPort hostname b).key := by
  refine List.Pairwise.filter _ ?_
  by_cases hsingle : service.ports.length ≤ 1
  · match hports : service.ports with
    | [] => exact List.Pairwise.nil
    | [port] => exact List.pairwise_singleton ..
    | _ :: _ :: _ => rw [hports] at hsingle; simp at hsingle
  · -- among several ports none goes without a name, so the keys are the names
    have hnamed : ∀ port ∈ service.ports, port.name ≠ "" := by
      intro port hport hempty
      have := h.ports.unnamed port hport hempty
      simp [hsingle] at this
    have hboth := h.ports.numbers_distinct.and h.ports.names_distinct
    refine hboth.imp_of_mem fun {a b} ha hb hab => ⟨hab.1, ?_⟩
    rw [Route.ofPort, Route.ofPort, if_neg (hnamed a ha), if_neg (hnamed b hb)]
    exact hab.2 (hnamed b hb)

/-- The routes of services without offence are sound. -/
theorem routesSound_routesOf {services : List Service} {mesh : MeshSettings}
    (h : ∀ service ∈ firstOfEachHost [] services, service.offence mesh = none) :
    RoutesSound mesh (routesOf services) := by
  have hsource : ∀ route ∈ routesOf services, ∃ (service : Service) (port : Port),
      service.WellFormed ∧ port ∈ service.forwardedPorts ∧
        (port.number ≠ mesh.listenPort ∧ port.number ≠ mesh.adminPort) ∧
        Route.ofPort service.hostname port = route := by
    intro route hroute
    obtain ⟨service, port, hexposes, heq⟩ := mem_routesOf_iff.mp hroute
    obtain ⟨hservice, hport⟩ := exposes_iff.mp hexposes
    obtain ⟨hwell, hfree⟩ := Service.offence_eq_none_iff.mp (h service hservice)
    exact ⟨service, port, hwell, hport, hfree port hport, heq⟩
  constructor
  · intro route hroute
    obtain ⟨service, port, hwell, -, -, rfl⟩ := hsource route hroute
    exact hwell.colon_not_mem_hostname
  · intro route hroute
    obtain ⟨service, port, hwell, -, -, rfl⟩ := hsource route hroute
    exact hwell.bar_not_mem_hostname
  · refine List.pairwise_flatMap.mpr ⟨?_, ?_⟩
    · intro service hservice
      have hwell := (Service.offence_eq_none_iff.mp (h service hservice)).1
      rw [List.pairwise_map]
      refine (hwell.forwardedPorts_apart service.hostname).imp ?_
      intro a b hab _
      exact hab
    · refine firstOfEachHost_pairwise.imp fun {a b} hne => ?_
      intro x hx y hy heq
      obtain ⟨p, -, rfl⟩ := List.mem_map.mp hx
      obtain ⟨q, -, rfl⟩ := List.mem_map.mp hy
      exact absurd heq hne
  · intro route hroute
    obtain ⟨service, port, -, -, hfree, rfl⟩ := hsource route hroute
    exact hfree

namespace RoutesSound

variable {mesh : MeshSettings} {routes : List Route}

/-- Two routes of one host with one number or one key are the same route. -/
theorem eq_of_hostname (h : RoutesSound mesh routes) {a b : Route} (ha : a ∈ routes)
    (hb : b ∈ routes) (hhost : a.hostname = b.hostname)
    (hsame : a.number = b.number ∨ a.key = b.key) : a = b := by
  have : Std.Symm fun a b : Route =>
      a.hostname = b.hostname → a.number ≠ b.number ∧ a.key ≠ b.key :=
    ⟨fun x y hxy heq => ⟨(hxy heq.symm).1.symm, (hxy heq.symm).2.symm⟩⟩
  by_contra hne
  obtain ⟨hnumber, hkey⟩ := h.apart.forall ha hb hne hhost
  exact hsame.elim hnumber hkey

/-- No route is listed twice. -/
theorem nodup (h : RoutesSound mesh routes) : routes.Nodup :=
  h.apart.imp fun hab heq => (hab (congrArg Route.hostname heq)).1 (congrArg Route.number heq)

end RoutesSound

/-- Host name and key are recovered from the name of a cluster. -/
theorem Route.eq_of_clusterName {a b : Route} (ha : '|' ∉ a.hostname.toList)
    (hb : '|' ∉ b.hostname.toList) (h : a.clusterName = b.clusterName) :
    a.hostname = b.hostname ∧ a.key = b.key := by
  rw [Route.clusterName, Route.clusterName, String.append_assoc, String.append_assoc,
    String.append_assoc, String.append_assoc, String.append_right_inj, ← String.append_assoc,
    ← String.append_assoc] at h
  exact Text.eq_of_separated (by decide) ha hb h

/-- The name of its cluster tells a route apart. -/
theorem RoutesSound.eq_of_clusterName {mesh : MeshSettings} {routes : List Route}
    (h : RoutesSound mesh routes) {a b : Route} (ha : a ∈ routes) (hb : b ∈ routes)
    (hname : a.clusterName = b.clusterName) : a = b := by
  obtain ⟨hhost, hkey⟩ := Route.eq_of_clusterName (h.no_bar a ha) (h.no_bar b hb) hname
  exact h.eq_of_hostname ha hb hhost (Or.inr hkey)

/-- Host name and port are recovered from the two put together. -/
theorem Route.eq_of_authority {a b : Route} (ha : ':' ∉ a.hostname.toList)
    (hb : ':' ∉ b.hostname.toList) (h : a.authority = b.authority) :
    a.hostname = b.hostname ∧ a.number = b.number := by
  obtain ⟨hhost, hnumber⟩ := Text.eq_of_separated (by decide) ha hb h
  exact ⟨hhost, UInt16.toNat_inj.mp (Text.eq_of_toString hnumber)⟩

end MeshSidecar
