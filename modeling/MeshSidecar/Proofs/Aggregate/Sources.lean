import MeshSidecar.Aggregate.Basic
import MeshSidecar.Proofs.Registry.Coherence

/-!
# Registries of either sort

An aggregate may hold registries that are changed from within next to registries that follow a
file. Both answer from a catalog, and whatever happens to a registry of either sort, the services
of its catalog stand under their own host names (`Source.Reached.keyed`). What it finds under a
host name is therefore the one service in its list that has this host name
(`Source.Reached.find?_services`).
-/

namespace MeshSidecar

/-- A registry of an aggregate. -/
inductive Source where
  /-- It is changed from within. -/
  | memory (registry : Registry)
  /-- It follows a file. -/
  | file (registry : FileRegistry)
deriving DecidableEq

/-- A registry answers as one of its sort. -/
instance : Discovery Source where
  services
    | .memory registry => Discovery.services registry
    | .file registry => Discovery.services registry
  service?
    | .memory registry => Discovery.service? registry
    | .file registry => Discovery.service? registry
  instancesOf
    | .memory registry => Discovery.instancesOf registry
    | .file registry => Discovery.instancesOf registry
  instancesAt
    | .memory registry => Discovery.instancesAt registry
    | .file registry => Discovery.instancesAt registry
  managementPorts?
    | .memory registry => Discovery.managementPorts? registry
    | .file registry => Discovery.managementPorts? registry
  serviceAccounts?
    | .memory registry => Discovery.serviceAccounts? registry
    | .file registry => Discovery.serviceAccounts? registry

namespace Source

/-- What a registry knows. -/
def catalog : Source → Catalog
  | .memory registry => registry.catalog
  | .file registry => registry.registry.catalog

/-- The registry with one more handler of a kind. -/
def appendHandler (kind : HandlerKind) (handler : Handler) : Source → Source
  | .memory registry => .memory (registry.appendHandler kind handler)
  | .file registry => .file (registry.appendHandler kind handler)

/-- The registries to which their operations lead. -/
inductive Reached : Source → Prop where
  | memory {catalog : Catalog} (h : catalog.Built) : Reached (.memory { catalog })
  | mutate {registry : Registry} (h : Reached (.memory registry)) {mutation : Mutation}
      (hmutation : mutation.Built) : Reached (.memory (registry.mutate mutation))
  | load {path : String} {interval : Nat} {reading : Reading} {registry : FileRegistry}
      (h : FileRegistry.load path interval reading = .ok registry) : Reached (.file registry)
  | poll {registry : FileRegistry} (h : Reached (.file registry)) (reading : Reading) :
      Reached (.file (registry.poll reading).registry)
  | stop {registry : FileRegistry} (h : Reached (.file registry)) :
      Reached (.file registry.stop)
  | append {source : Source} (h : Reached source) (kind : HandlerKind) (handler : Handler) :
      Reached (source.appendHandler kind handler)

theorem services_eq (source : Source) :
    Discovery.services source = source.catalog.services.values := by
  cases source <;> rfl

theorem service?_eq (source : Source) (hostname : String) :
    Discovery.service? source hostname = source.catalog.service? hostname := by
  cases source <;> rfl

theorem instancesOf_eq (source : Source) (hostname : String) (ports tags : List String) :
    Discovery.instancesOf source hostname ports tags =
      source.catalog.instancesOf hostname ports tags := by
  cases source <;> rfl

theorem catalog_appendHandler (source : Source) (kind : HandlerKind) (handler : Handler) :
    (source.appendHandler kind handler).catalog = source.catalog := by
  cases source <;> cases kind <;> rfl

/-- Whatever happens to a registry, its services stand under their own host names. -/
theorem Reached.keyed {source : Source} (h : source.Reached) : source.catalog.Keyed := by
  induction h with
  | memory h => exact h.keyed
  | mutate _ hmutation ih => exact Mutation.keyed_apply ih hmutation.keyed
  | load h =>
      obtain ⟨catalog, hcatalog, hregistry⟩ := FileRegistry.registry_of_load h
      rw [Source.catalog, hregistry]
      exact hcatalog.keyed
  | @poll registry _ reading ih =>
      rcases registry.poll_cases reading with ⟨hsame, -⟩ | ⟨next, hnext, hregistry, -⟩
      · rw [hsame]
        exact ih
      · rw [Source.catalog, hregistry]
        exact hnext.keyed
  | stop _ ih =>
      rw [Source.catalog, FileRegistry.registry_stop]
      exact ih
  | append _ kind handler ih =>
      rw [catalog_appendHandler]
      exact ih

theorem Reached.find?_services {source : Source} (h : source.Reached) (hostname : String) :
    (Discovery.services source).find? (·.hostname = hostname) =
      Discovery.service? source hostname := by
  rw [services_eq, service?_eq]
  exact h.keyed.find?_values hostname

end Source

end MeshSidecar
