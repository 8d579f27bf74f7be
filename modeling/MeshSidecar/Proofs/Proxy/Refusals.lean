import MeshSidecar.Proofs.Aggregate.Precedence
import MeshSidecar.Proofs.Proxy.Determinacy
import MeshSidecar.Proofs.Proxy.PortClaims

/-!
# Which error there is

Services without a configuration have one error, though there may be many reasons for one. What is
held against a single service comes first: that of the first service which counts and has something
held against it (`FirstOffence`). It is all that is wrong with the service, and a port of the proxy
only if nothing is. When there is none of this the ports are looked at in ascending order, and the
error tells of the least one that is *contested*, with everybody who claims it (`LeastConflict`).

So exactly one of three things happens (`Config.generate_exact`). Services whose host names are taken
have no part in it, and neither has the order of services with different host names, unless it
decides which of several offences is the first.
-/

namespace MeshSidecar

-- ── What may be held against services ───────────────────────────────────────

namespace Service

/-- A service is not well-formed, or it exposes a port of the proxy. -/
def Offending (mesh : MeshSettings) (service : Service) : Prop :=
  ¬ service.WellFormed ∨
    ∃ port ∈ service.ports, port.protocol ≠ .udp ∧
      (port.number = mesh.listenPort ∨ port.number = mesh.adminPort)

/-- What is held against a service, whatever the others are. -/
inductive Offends (mesh : MeshSettings) (service : Service) : GenerateError → Prop where
  /-- All that is wrong with a service that is not well-formed. -/
  | malformed (hmalformed : ¬ service.WellFormed) :
      Offends mesh service (.invalidService ⟨service.hostname, service.problems⟩)
  /-- The port of the proxy that a well-formed service exposes first. -/
  | reserved {before after : List Port} {port : Port} (hwell : service.WellFormed)
      (hports : service.ports = before ++ port :: after) (hexposed : port.protocol ≠ .udp)
      (hreserved : port.number = mesh.listenPort ∨ port.number = mesh.adminPort)
      (hfirst : ∀ other ∈ before, other.protocol ≠ .udp →
        other.number ≠ mesh.listenPort ∧ other.number ≠ mesh.adminPort) :
      Offends mesh service (.reservedPort port.number service.hostname)

end Service

/-- What is held against the first service that counts and has something held against it. -/
def FirstOffence (services : List Service) (mesh : MeshSettings) (error : GenerateError) : Prop :=
  ∃ before service after, services = before ++ service :: after ∧
    service.hostname ∉ before.map Service.hostname ∧ service.Offends mesh error ∧
    ∀ earlier ∈ before, Counts services earlier → ¬ earlier.Offending mesh

/-- Two services or more expose a port, and one of them does not speak HTTP there. -/
def Contested (services : List Service) (number : UInt16) : Prop :=
  ∃ first second p q, Exposes services first p ∧ Exposes services second q ∧
    first.hostname ≠ second.hostname ∧ p.number = number ∧ q.number = number ∧
    p.protocol.isHttp = false

/-- The least port that is contested, with the host names of all services that expose it. -/
structure LeastConflict (services : List Service) (number : UInt16) (hostnames : List String) :
    Prop where
  contested : Contested services number
  least : ∀ other, Contested services other → number ≤ other
  ascending : hostnames.Pairwise (· < ·)
  claimants : ∀ hostname, hostname ∈ hostnames ↔ ∃ service port,
    Exposes services service port ∧ service.hostname = hostname ∧ port.number = number

-- ── One service ─────────────────────────────────────────────────────────────

namespace Service

variable {mesh : MeshSettings} {service : Service} {error : GenerateError}

/-- What is held against a service is found. -/
theorem offence_eq_some_iff : service.offence mesh = some error ↔ service.Offends mesh error := by
  have hfind : ∀ p : Port → Bool, service.forwardedPorts.find? p
      = service.ports.find? fun port => port.protocol ≠ .udp ∧ p port := by
    intro p
    rw [forwardedPorts, List.find?_filter]
    simp only [decide_eq_true_eq]
  rw [offence]
  constructor
  · intro h
    cases hvalidate : service.validate with
    | error invalid =>
        rw [hvalidate] at h
        obtain ⟨hmalformed, rfl⟩ := validate_eq_error_iff.mp hvalidate
        rw [← Option.some.inj h]
        exact .malformed hmalformed
    | ok _ =>
        rw [hvalidate] at h
        obtain ⟨port, hport, rfl⟩ := Option.map_eq_some_iff.mp h
        rw [hfind] at hport
        obtain ⟨hreserved, before, after, hports, hbefore⟩ := List.find?_eq_some_iff_append.mp hport
        simp only [Bool.or_eq_true, decide_eq_true_eq] at hreserved
        refine .reserved (validate_eq_ok_iff.mp hvalidate) hports hreserved.1 hreserved.2 ?_
        intro other hother hexposed
        simpa [hexposed] using hbefore other hother
  · intro h
    cases h with
    | malformed hmalformed => rw [validate_eq_error_iff.mpr ⟨hmalformed, rfl⟩]
    | @reserved before after port hwell hports hexposed hreserved hfirst =>
        rw [validate_eq_ok_iff.mpr hwell]
        refine Option.map_eq_some_iff.mpr ⟨port, ?_, rfl⟩
        rw [hfind]
        refine List.find?_eq_some_iff_append.mpr ⟨?_, before, after, hports, ?_⟩
        · simpa [hexposed] using hreserved
        · intro other hother
          simpa [Decidable.or_iff_not_imp_left] using hfirst other hother

/-- Nothing is held against a service that is not offending. -/
theorem offence_eq_none_iff_not_offending :
    service.offence mesh = none ↔ ¬ service.Offending mesh := by
  rw [offence_eq_none_iff, Offending, not_or, not_not]
  refine and_congr_right fun _ => ?_
  simp [forwardedPorts]

/-- What is held against a service is no conflict with others. -/
theorem Offends.ne_portConflict (h : service.Offends mesh error) (number : UInt16)
    (hostnames : List String) : error ≠ .portConflict number hostnames := by
  cases h with
  | malformed _ => exact nofun
  | reserved _ _ _ _ _ => exact nofun

end Service

-- ── The first offence ───────────────────────────────────────────────────────

/-- Among the services up to some point the same ones count as among all. -/
theorem counts_append_iff {before after : List Service} {service : Service}
    (h : service ∈ before) : Counts (before ++ after) service ↔ Counts before service := by
  rw [Counts, Counts, List.find?_append]
  cases hfind : before.find? (·.hostname = service.hostname) with
  | none => exact absurd (decide_eq_true rfl) (List.find?_eq_none.mp hfind service h)
  | some _ => rfl

/-- A service that is kept is the first one with its host name, and what is kept before it is kept
    of the services before it. -/
theorem exists_of_firstOfEachHost {seen : List String} {services kept more : List Service}
    {service : Service} (h : firstOfEachHost seen services = kept ++ service :: more) :
    ∃ before after, services = before ++ service :: after ∧
      service.hostname ∉ before.map Service.hostname ∧ firstOfEachHost seen before = kept := by
  have hnew : service.hostname ∉ seen :=
    (mem_firstOfEachHost.mp (h ▸ List.mem_append_right _ (List.mem_cons_self ..))).1
  induction services generalizing seen kept with
  | nil => exact absurd h.symm (List.append_ne_nil_of_right_ne_nil _ (List.cons_ne_nil _ _))
  | cons first rest ih =>
      rw [firstOfEachHost] at h
      by_cases hseen : first.hostname ∈ seen
      · rw [if_pos (List.contains_iff_mem.mpr hseen)] at h
        obtain ⟨before, after, rfl, hfirst, hkept⟩ := ih h hnew
        refine ⟨first :: before, after, rfl, ?_, ?_⟩
        · rw [List.map_cons, List.mem_cons, not_or]
          exact ⟨fun heq => hnew (heq ▸ hseen), hfirst⟩
        · rw [firstOfEachHost, if_pos (List.contains_iff_mem.mpr hseen), hkept]
      · rw [if_neg (by simpa using hseen)] at h
        cases kept with
        | nil =>
            obtain ⟨rfl, -⟩ := List.cons.inj h
            exact ⟨[], rest, rfl, List.not_mem_nil, rfl⟩
        | cons other kept =>
            obtain ⟨rfl, hrest⟩ := List.cons.inj h
            have hmem : service ∈ firstOfEachHost (first.hostname :: seen) rest :=
              hrest.symm ▸ List.mem_append_right kept (List.mem_cons_self ..)
            have hapart := (mem_firstOfEachHost.mp hmem).1
            obtain ⟨before, after, rfl, hfirst, hkept⟩ := ih hrest hapart
            refine ⟨first :: before, after, rfl, ?_, ?_⟩
            · rw [List.map_cons, List.mem_cons, not_or]
              exact ⟨fun heq => hapart (heq ▸ List.mem_cons_self ..), hfirst⟩
            · rw [firstOfEachHost, if_neg (by simpa using hseen), hkept]

/-- The first service with its host name is kept, after what is kept of the services before it. -/
theorem firstOfEachHost_append_cons {seen : List String} {before after : List Service}
    {service : Service} (hseen : service.hostname ∉ seen)
    (hnew : service.hostname ∉ before.map Service.hostname) :
    ∃ more, firstOfEachHost seen (before ++ service :: after)
      = firstOfEachHost seen before ++ service :: more := by
  induction before generalizing seen with
  | nil =>
      refine ⟨firstOfEachHost (service.hostname :: seen) after, ?_⟩
      show firstOfEachHost seen (service :: after) = service :: _
      rw [firstOfEachHost, if_neg (by simpa using hseen)]
  | cons first rest ih =>
      rw [List.map_cons, List.mem_cons, not_or] at hnew
      rw [List.cons_append, firstOfEachHost, firstOfEachHost]
      split
      · exact ih hseen hnew.2
      · obtain ⟨more, hmore⟩ := ih (List.not_mem_cons_of_ne_of_not_mem hnew.1 hseen) hnew.2
        exact ⟨more, by rw [hmore, List.cons_append]⟩

/-- What is found first is the first offence. -/
theorem findSome?_offence_eq_some_iff {services : List Service} {mesh : MeshSettings}
    {error : GenerateError} :
    (firstOfEachHost [] services).findSome? (Service.offence mesh) = some error ↔
      FirstOffence services mesh error := by
  rw [List.findSome?_eq_some_iff]
  constructor
  · rintro ⟨kept, service, more, hsplit, hoffence, hnone⟩
    obtain ⟨before, after, rfl, hnew, hkept⟩ := exists_of_firstOfEachHost hsplit
    refine ⟨before, service, after, rfl, hnew, Service.offence_eq_some_iff.mp hoffence, ?_⟩
    intro earlier hearlier hcounts
    have hmem : earlier ∈ kept :=
      hkept ▸ mem_firstOfEachHost_nil.mpr ((counts_append_iff hearlier).mp hcounts)
    exact Service.offence_eq_none_iff_not_offending.mp (hnone earlier hmem)
  · rintro ⟨before, service, after, rfl, hnew, hoffends, hnone⟩
    have hunseen : service.hostname ∉ ([] : List String) := List.not_mem_nil
    obtain ⟨more, hmore⟩ := firstOfEachHost_append_cons hunseen hnew
    refine ⟨_, service, more, hmore, Service.offence_eq_some_iff.mpr hoffends, ?_⟩
    intro earlier hearlier
    have hcounts := mem_firstOfEachHost_nil.mp hearlier
    have hmem : earlier ∈ before := List.mem_of_find?_eq_some hcounts
    exact Service.offence_eq_none_iff_not_offending.mpr
      (hnone earlier hmem ((counts_append_iff hmem).mpr hcounts))

-- ── The least conflict ──────────────────────────────────────────────────────

/-- Routes on a port conflict if there are several and one of them does not speak HTTP. -/
theorem portListener_eq_error_iff (number : UInt16) {routes : List Route} :
    portListener number routes = .error (.portConflict number (routes.map (·.hostname))) ↔
      2 ≤ routes.length ∧ ∃ route ∈ routes, route.isHttp = false := by
  constructor
  · exact fun h => (portListener_eq_error h).2
  · rintro ⟨hseveral, route, hroute, hother⟩
    cases h : portListener number routes with
    | error error => rw [(portListener_eq_error h).1]
    | ok listener =>
        exfalso
        cases portListener_eq_ok h with
        | http hhttp => exact Bool.false_ne_true (hother.symm.trans (hhttp route hroute))
        | tcp _ => exact absurd hseveral (Nat.not_succ_le_self 1)

section

variable {services : List Service} {mesh : MeshSettings} {error : GenerateError}
  {number : UInt16} {hostnames : List String}

/-- A port is contested if the routes on it conflict. -/
theorem contested_iff (hsound : RoutesSound mesh (routesOf services)) :
    Contested services number ↔
      2 ≤ (routesOn (routesOf services) number).length ∧
        ∃ route ∈ routesOn (routesOf services) number, route.isHttp = false := by
  have hmem : ∀ route, route ∈ routesOn (routesOf services) number ↔ ∃ service port,
      Exposes services service port ∧ port.number = number ∧
        Route.ofPort service.hostname port = route := by
    intro route
    rw [mem_routesOn, mem_routesOf_iff]
    constructor
    · rintro ⟨⟨service, port, hexposes, rfl⟩, hnumber⟩
      exact ⟨service, port, hexposes, hnumber, rfl⟩
    · rintro ⟨service, port, hexposes, hnumber, rfl⟩
      exact ⟨⟨service, port, hexposes, rfl⟩, hnumber⟩
  have hascend := hsound.routesOn_pairwise number
  generalize routesOn (routesOf services) number = routes at hmem hascend
  constructor
  · rintro ⟨first, second, p, q, hfirst, hsecond, hapart, hp, hq, hother⟩
    have hpmem := (hmem _).mpr ⟨first, p, hfirst, hp, rfl⟩
    have hqmem := (hmem _).mpr ⟨second, q, hsecond, hq, rfl⟩
    refine ⟨?_, _, hpmem, hother⟩
    match routes with
    | [] => exact nomatch hpmem
    | [only] =>
        have hsame := (List.mem_singleton.mp hpmem).trans (List.mem_singleton.mp hqmem).symm
        exact absurd (congrArg Route.hostname hsame) hapart
    | _ :: _ :: rest => exact Nat.le_add_left 2 rest.length
  · rintro ⟨hseveral, route, hroute, hother⟩
    -- one of the first two routes is not the one that does not speak HTTP
    have hsecond : ∃ other ∈ routes, other.hostname ≠ route.hostname := by
      match routes, hseveral with
      | a :: b :: rest, _ =>
          have hlt : a.hostname < b.hostname :=
            (List.pairwise_cons.mp hascend).1 b (List.mem_cons_self ..)
          by_cases ha : a.hostname = route.hostname
          · refine ⟨b, List.mem_cons_of_mem _ (List.mem_cons_self ..), fun hb => ?_⟩
            exact String.lt_irrefl _ (ha.trans hb.symm ▸ hlt)
          · exact ⟨a, List.mem_cons_self .., ha⟩
    obtain ⟨other, hmember, hapart⟩ := hsecond
    obtain ⟨first, p, hfirst, hp, rfl⟩ := (hmem route).mp hroute
    obtain ⟨second, q, hsecond, hq, rfl⟩ := (hmem other).mp hmember
    exact ⟨first, second, p, q, hfirst, hsecond, hapart.symm, hp, hq, hother⟩

/-- There is no more than one least conflict. -/
theorem LeastConflict.unique {other : UInt16} {others : List String}
    (h : LeastConflict services number hostnames) (h' : LeastConflict services other others) :
    number = other ∧ hostnames = others := by
  have hnumber : number = other :=
    UInt16.le_antisymm (h.least other h'.contested) (h'.least number h.contested)
  subst hnumber
  refine ⟨rfl, eq_of_ascending id h.ascending h'.ascending fun hostname => ?_⟩
  rw [h.claimants, h'.claimants]

namespace Config

/-- If nothing is held against any service, what fails is the least conflict. -/
theorem leastConflict_of_ofRoutes_error
    (hoffence : ∀ service ∈ firstOfEachHost [] services, service.offence mesh = none)
    (h : ofRoutes mesh (routesOf services) = .error error) :
    ∃ number hostnames, LeastConflict services number hostnames ∧
      error = .portConflict number hostnames := by
  have hsound := routesSound_routesOf hoffence
  obtain ⟨number, hnone, hless⟩ := ofRoutes_eq_error h
  obtain ⟨rfl, hconflict⟩ := portListener_eq_error hnone
  refine ⟨number, _, ?_, rfl⟩
  constructor
  case contested => exact (contested_iff hsound).mpr hconflict
  case least =>
    intro other hother
    by_contra hlt
    have hfails := (portListener_eq_error_iff other).mpr ((contested_iff hsound).mp hother)
    obtain ⟨first, _, p, _, hexposes, _, _, hnumber, _⟩ := hother
    have hport : other ∈ portNumbers (routesOf services) :=
      mem_portNumbers.mpr ⟨_, mem_routesOf_iff.mpr ⟨first, p, hexposes, rfl⟩, hnumber⟩
    obtain ⟨listener, hlistener⟩ := hless other hport (UInt16.not_le.mp hlt)
    exact nomatch hfails.symm.trans hlistener
  case ascending => exact List.pairwise_map.mpr (hsound.routesOn_pairwise number)
  case claimants => exact fun hostname => mem_hostnames_routesOn

/-- In a list that has a configuration no port is contested. -/
theorem not_contested_of_generate_ok {config : Config} (h : generate services mesh = .ok config)
    (number : UInt16) : ¬ Contested services number := by
  intro hcontested
  have hsound := routesSound_routesOf (generate_eq_ok_iff.mp h).1
  obtain ⟨hseveral, -⟩ := (contested_iff hsound).mp hcontested
  obtain ⟨first, _, p, _, hexposes, _, _, hnumber, _, hother⟩ := hcontested
  refine generate_ne_ok_of_claims (.conflict (fun hostname => mem_hostnames_routesOn) ?_ ?_
    ⟨first, p, hexposes, hnumber, hother⟩) config h
  · refine List.pairwise_map.mpr ((hsound.routesOn_pairwise number).imp fun {a b} hlt heq => ?_)
    exact String.lt_irrefl b.hostname (heq ▸ hlt)
  · rwa [List.length_map]

/-- Nothing is found if no service that counts is offending. -/
theorem offence_eq_none_of_counts
    (h : ∀ service, Counts services service → ¬ service.Offending mesh) :
    ∀ service ∈ firstOfEachHost [] services, service.offence mesh = none := by
  intro service hmem
  exact Service.offence_eq_none_iff_not_offending.mpr
    (h service (mem_firstOfEachHost_nil.mp hmem))

/-- The first offence decides, whatever else there is. -/
theorem generate_of_firstOffence (h : FirstOffence services mesh error) :
    generate services mesh = .error error := by
  rw [generate, findSome?_offence_eq_some_iff.mpr h]

theorem exists_firstOffence {service : Service} (hcounts : Counts services service)
    (hoffending : service.Offending mesh) : ∃ error, FirstOffence services mesh error := by
  cases hfind : (firstOfEachHost [] services).findSome? (Service.offence mesh) with
  | some error => exact ⟨error, findSome?_offence_eq_some_iff.mp hfind⟩
  | none =>
      have hnone := List.findSome?_eq_none_iff.mp hfind service
        (mem_firstOfEachHost_nil.mpr hcounts)
      exact absurd hoffending (Service.offence_eq_none_iff_not_offending.mp hnone)

/-- Without an offence all depends on the routes. -/
theorem generate_eq_ofRoutes
    (h : ∀ service, Counts services service → ¬ service.Offending mesh) :
    generate services mesh = ofRoutes mesh (routesOf services) := by
  rw [generate, List.findSome?_eq_none_iff.mpr (offence_eq_none_of_counts h)]

/-- Without an offence there is a configuration, or the least conflict. -/
theorem generate_of_not_offending
    (h : ∀ service, Counts services service → ¬ service.Offending mesh) :
    (∃ config, generate services mesh = .ok config ∧ ∀ number, ¬ Contested services number) ∨
      ∃ number hostnames, LeastConflict services number hostnames ∧
        generate services mesh = .error (.portConflict number hostnames) := by
  cases hgenerate : generate services mesh with
  | ok config => exact Or.inl ⟨config, rfl, not_contested_of_generate_ok hgenerate⟩
  | error error =>
      rw [generate_eq_ofRoutes h] at hgenerate
      obtain ⟨number, hostnames, hleast, rfl⟩ :=
        leastConflict_of_ofRoutes_error (offence_eq_none_of_counts h) hgenerate
      exact Or.inr ⟨number, hostnames, hleast, rfl⟩

-- ── Services that stand elsewhere ───────────────────────────────────────────

/-- Every service counts if their host names differ. -/
theorem counts_iff_mem (hapart : services.Pairwise fun a b => a.hostname ≠ b.hostname)
    {service : Service} : Counts services service ↔ service ∈ services := by
  rw [← mem_firstOfEachHost_nil, firstOfEachHost_eq_self (fun _ _ => List.not_mem_nil) hapart]

/-- A service whose host name is taken is as good as not there. -/
theorem generate_of_taken {before after : List Service} {service : Service}
    (htaken : service.hostname ∈ before.map Service.hostname) :
    generate (before ++ service :: after) mesh = generate (before ++ after) mesh := by
  refine generate_congr mesh (firstOfEachHost_append_congr
    (fun other => other.hostname ∉ before.map Service.hostname) ?_ ?_)
  · exact fun other _ hnew => decide_eq_true hnew
  · rw [List.filter_cons_of_neg (by simpa using htaken)]

/-- Services with different host names that are not offending lead to the same in any order. -/
theorem generate_perm {other : List Service} (hperm : services.Perm other)
    (hapart : services.Pairwise fun a b => a.hostname ≠ b.hostname)
    (h : ∀ service ∈ services, ¬ service.Offending mesh) :
    generate services mesh = generate other mesh := by
  have hother := (hperm.pairwise_iff fun hne => hne.symm).mp hapart
  have hfirst : ∀ service, Counts services service → ¬ service.Offending mesh :=
    fun service hcounts => h service ((counts_iff_mem hapart).mp hcounts)
  have hsecond : ∀ service, Counts other service → ¬ service.Offending mesh :=
    fun service hcounts => h service (hperm.mem_iff.mpr ((counts_iff_mem hother).mp hcounts))
  have hroutes : (routesOf services).Perm (routesOf other) := by
    rw [routesOf, routesOf, firstOfEachHost_eq_self (fun _ _ => List.not_mem_nil) hapart,
      firstOfEachHost_eq_self (fun _ _ => List.not_mem_nil) hother]
    exact hperm.flatMap_right _
  rw [generate_eq_ofRoutes hfirst, generate_eq_ofRoutes hsecond]
  exact ofRoutes_congr ⟨rfl, rfl, rfl, rfl⟩
    (routesSound_routesOf (offence_eq_none_of_counts hfirst))
    (routesSound_routesOf (offence_eq_none_of_counts hsecond)) hroutes

/-- What a list of services leads to. If there is an offence, the first one is the error; otherwise,
    if a port is contested, the least conflict is; otherwise there is a configuration. A service
    whose host name is taken changes nothing. In whatever order services with different host names
    stand, they have the same configuration, or the same conflict, or neither. -/
theorem generate_exact (services : List Service) (mesh : MeshSettings) :
    (∀ error, FirstOffence services mesh error → generate services mesh = .error error) ∧
    ((∃ service, Counts services service ∧ service.Offending mesh) →
      ∃ error, FirstOffence services mesh error) ∧
    ((∀ service, Counts services service → ¬ service.Offending mesh) →
      (∀ number hostnames, LeastConflict services number hostnames →
        generate services mesh = .error (.portConflict number hostnames)) ∧
      ((∃ number, Contested services number) →
        ∃ number hostnames, LeastConflict services number hostnames) ∧
      ((∀ number, ¬ Contested services number) →
        ∃ config, generate services mesh = .ok config)) ∧
    (∀ before service after, services = before ++ service :: after →
      service.hostname ∈ before.map Service.hostname →
      generate services mesh = generate (before ++ after) mesh) ∧
    (∀ other, services.Perm other → services.Pairwise (fun a b => a.hostname ≠ b.hostname) →
      (∀ config, generate services mesh = .ok config ↔ generate other mesh = .ok config) ∧
      ∀ number hostnames, generate services mesh = .error (.portConflict number hostnames) ↔
        generate other mesh = .error (.portConflict number hostnames)) := by
  refine ⟨fun error => generate_of_firstOffence, ?_, ?_, ?_, ?_⟩
  · rintro ⟨service, hcounts, hoffending⟩
    exact exists_firstOffence hcounts hoffending
  · intro hnone
    rcases generate_of_not_offending hnone with ⟨config, hok, hfree⟩ | ⟨number, hostnames, h, herror⟩
    · refine ⟨?_, ?_, fun _ => ⟨config, hok⟩⟩
      · exact fun number hostnames h => absurd h.contested (hfree number)
      · rintro ⟨number, hcontested⟩
        exact absurd hcontested (hfree number)
    · refine ⟨?_, fun _ => ⟨number, hostnames, h⟩, fun hfree => absurd h.contested (hfree number)⟩
      intro other others h'
      obtain ⟨rfl, rfl⟩ := h.unique h'
      exact herror
  · rintro before service after rfl htaken
    exact generate_of_taken htaken
  · intro other hperm hapart
    by_cases hnone : ∀ service ∈ services, ¬ service.Offending mesh
    · rw [generate_perm hperm hapart hnone]
      exact ⟨fun _ => Iff.rfl, fun _ _ => Iff.rfl⟩
    · -- with an offence neither list has a configuration or a conflict
      simp only [not_forall, not_not] at hnone
      obtain ⟨service, hmem, hoffending⟩ := hnone
      have hother := (hperm.pairwise_iff fun hne => hne.symm).mp hapart
      obtain ⟨first, hfirst⟩ := exists_firstOffence ((counts_iff_mem hapart).mpr hmem) hoffending
      obtain ⟨second, hsecond⟩ :=
        exists_firstOffence ((counts_iff_mem hother).mpr (hperm.mem_iff.mp hmem)) hoffending
      rw [generate_of_firstOffence hfirst, generate_of_firstOffence hsecond]
      obtain ⟨_, _, _, -, -, hfirst, -⟩ := hfirst
      obtain ⟨_, _, _, -, -, hsecond, -⟩ := hsecond
      refine ⟨fun _ => iff_of_false nofun nofun, fun number hostnames => ?_⟩
      exact iff_of_false (fun h => hfirst.ne_portConflict _ _ (Except.error.inj h))
        fun h => hsecond.ne_portConflict _ _ (Except.error.inj h)

end Config

end

/-- A service that claims the ports of two others, all for HTTP. -/
def gateway : Service where
  name := "gateway"
  ns := none
  tags := ∅
  ports := [⟨"web", 9080, .http⟩, ⟨"db", 3306, .http⟩]

/-- Three services, and one whose host name is taken and which would not be accepted. -/
def rivals : List Service := [reviews, mysql, staleReviews, gateway]

/-- Only one of the two ports that are claimed twice is contested. -/
theorem leastConflict_rivals : LeastConflict rivals 3306 ["gateway", "mysql"] := by
  constructor
  case contested =>
    exact ⟨mysql, gateway, ⟨"", 3306, .tcp⟩, ⟨"db", 3306, .http⟩, by decide +kernel,
      by decide +kernel, by decide, rfl, rfl, rfl⟩
  case least =>
    rintro other ⟨first, _, p, _, hexposes, _, _, rfl, _⟩
    have hleast : ∀ route ∈ routesOf rivals, 3306 ≤ route.number := by decide +kernel
    exact hleast _ (mem_routesOf_iff.mpr ⟨first, p, hexposes, rfl⟩)
  case ascending => decide
  case claimants =>
    intro hostname
    have hroutes : (routesOf rivals).filter (·.number = 3306) =
        [⟨"mysql", 3306, "3306", false⟩, ⟨"gateway", 3306, "db", true⟩] := by decide +kernel
    rw [← mem_hostnames_routesOn, routesOn, hroutes]
    simp [or_comm, eq_comm]

/-- What is held against a service comes before the conflict. Without it, neither the service whose
    host name is taken nor the order matters. -/
theorem rivals_exact :
    Config.generate (staleReviews :: rivals) {} =
        .error (.invalidService ⟨"reviews.default", [.noPort]⟩) ∧
      Config.generate rivals {} = .error (.portConflict 3306 ["gateway", "mysql"]) ∧
      Config.generate [gateway, mysql, reviews] {} =
        .error (.portConflict 3306 ["gateway", "mysql"]) ∧
      ∃ config, Config.generate [reviews, mysql, staleReviews] {} = .ok config := by
  have hstale : ¬ staleReviews.WellFormed := fun h => h.ports_nonempty rfl
  have hfree : ∀ services mesh,
      (∀ service ∈ firstOfEachHost [] services, service.offence mesh = none) →
      ∀ service, Counts services service → ¬ service.Offending mesh :=
    fun services mesh h service hcounts => Service.offence_eq_none_iff_not_offending.mp
      (h service (mem_firstOfEachHost_nil.mpr hcounts))
  obtain ⟨-, -, hconflict, htaken, -⟩ := Config.generate_exact rivals {}
  have hrivals := (hconflict (hfree _ _ (by decide +kernel))).1 _ _ leastConflict_rivals
  have hdistinct : Config.generate [reviews, mysql, gateway] {} =
      .error (.portConflict 3306 ["gateway", "mysql"]) :=
    (htaken [reviews, mysql] staleReviews [gateway] rfl (by decide)).symm.trans hrivals
  have horder : [reviews, mysql, gateway].Perm [gateway, mysql, reviews] :=
    (List.reverse_perm [reviews, mysql, gateway]).symm
  refine ⟨?_, hrivals, ?_, ?_⟩
  · exact (Config.generate_exact (staleReviews :: rivals) {}).1 _
      ⟨[], staleReviews, rivals, rfl, nofun, .malformed hstale, nofun⟩
  · exact (((Config.generate_exact [reviews, mysql, gateway] {}).2.2.2.2 _ horder
      (by decide)).2 _ _).mp hdistinct
  · have hsmall := (Config.generate_exact [reviews, mysql, staleReviews] {}).2.2.1
      (hfree _ _ (by decide +kernel))
    exact hsmall.2.2 (Config.not_contested_of_generate_ok generate_small)

end MeshSidecar
