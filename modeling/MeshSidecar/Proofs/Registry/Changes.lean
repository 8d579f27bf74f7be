import MeshSidecar.Proofs.Names.Ascending
import MeshSidecar.Registry.Basic

/-!
# Changes of services are told

A mutation after which the services are not what they were tells of at least one service
(`Mutation.services_eq_of_changes`), and a registry passes all of this on to everyone who listens
to services (`Registry.mem_deliveries`). So whoever is told nothing has missed nothing.
-/

namespace MeshSidecar

namespace Changes

/-- Nothing becomes of a service that is stored as it was. -/
theorem ofStored_eq_none_iff {prior : NameTable Service} {hostname : String} {service : Service} :
    ofStored prior hostname service = Option.none ↔ prior.get? hostname = some service := by
  rw [ofStored]
  cases prior.get? hostname with
  | none => exact iff_of_false nofun nofun
  | some old =>
      by_cases hsame : old = service
      · show (if old = service then Option.none else some (service, Event.update)) = Option.none ↔ _
        rw [if_pos hsame, hsame]
        exact iff_of_true rfl rfl
      · show (if old = service then Option.none else some (service, Event.update)) = Option.none ↔ _
        rw [if_neg hsame]
        exact iff_of_false nofun fun heq => hsame (Option.some.inj heq)

/-- Between tables that differ there is a change. -/
theorem eq_of_servicesBetween_eq_nil {prior next : NameTable Service}
    (h : servicesBetween prior next = []) : next = prior := by
  obtain ⟨hstored, hgone⟩ := List.append_eq_nil_iff.mp h
  rw [List.filterMap_eq_nil_iff] at hstored hgone
  refine NameTable.ext_get? fun name => ?_
  cases hnext : next.get? name with
  | some service =>
      have hmem := NameTable.mem_entries_iff.mpr hnext
      exact (ofStored_eq_none_iff.mp (hstored (name, service) hmem)).symm
  | none =>
      cases hprior : prior.get? name with
      | none => rfl
      | some service =>
          have hmem := NameTable.mem_entries_iff.mpr hprior
          have hdelete := hgone (name, service) hmem
          simp [hnext] at hdelete

end Changes

/-- A mutation that tells of no service leaves the services as they are. -/
theorem Mutation.services_eq_of_changes {mutation : Mutation} {catalog : Catalog}
    (h : (mutation.changes catalog).services = []) :
    (mutation.apply catalog).services = catalog.services := by
  cases mutation with
  | addService service =>
      have hstored : Changes.ofStored catalog.services service.hostname service = none :=
        Option.toList_eq_nil_iff.mp h
      exact NameTable.insert_eq_self (Changes.ofStored_eq_none_iff.mp hstored)
  | removeService hostname =>
      cases hfind : catalog.service? hostname with
      | none => simp only [Mutation.apply, hfind]
      | some service =>
          simp only [Mutation.changes, hfind] at h
          exact nomatch h
  | addInstance inst =>
      show (if catalog.instances.contains inst then catalog
        else catalog.withInstance inst).services = catalog.services
      split <;> rfl
  | removeInstance inst => rfl
  | setManagementPorts address ports => rfl
  | setServiceAccounts hostname accounts => rfl
  | replace next => exact Changes.eq_of_servicesBetween_eq_nil h

/-- Those who listen to services are told of each service that changed. -/
theorem Registry.mem_deliveries {registry : Registry} {mutation : Mutation} {handler : Handler}
    {service : Service} {event : Event} (hhandler : handler ∈ registry.serviceHandlers)
    (h : (service, event) ∈ (mutation.changes registry.catalog).services) :
    ⟨handler, .serviceChanged service event⟩ ∈ registry.deliveries mutation := by
  have hnotice : Notice.serviceChanged service event
      ∈ (mutation.changes registry.catalog).notices := by
    refine List.mem_append_left _ (List.mem_append_right _ ?_)
    exact List.mem_map.mpr ⟨(service, event), h, rfl⟩
  exact List.mem_flatMap.mpr ⟨_, hnotice, List.mem_map_of_mem hhandler⟩

end MeshSidecar
