import MeshSidecar.Proofs.Registry.ChangeLog

/-!
# What mutations leave alone

A mutation other than a replacement *concerns* one service by its host name, or one address, or one
instance, and a service that is removed concerns its instances as well. All other parts of the
catalog stay as they are, the instances in their order (`Mutation.keeps_apply`).

What a registry lists is therefore in order after any mutations (`Registry.contents_in_order`): the
services ascend by host name, each found under its own, and if instances are only added to host
names that are listed, then no instance is left without one. A service that is removed leaves no
instance behind, whatever is asked for.
-/

namespace MeshSidecar

/-- A part of a catalog that a mutation may concern. -/
inductive Part where
  | service (hostname : String)
  | managementPorts (address : String)
  | accounts (hostname : String)
  | inst (inst : Instance)

namespace Mutation

/-- Whether a mutation has to do with a part of the catalog. -/
def concerns : Mutation → Part → Bool
  | .addService service, .service hostname => service.hostname = hostname
  | .removeService hostname, .service other => hostname = other
  | .removeService hostname, .inst inst => inst.service.hostname = hostname
  | .addInstance added, .inst inst => added = inst
  | .removeInstance removed, .inst inst => removed = inst
  | .setManagementPorts address _, .managementPorts other => address = other
  | .setServiceAccounts hostname _, .accounts other => hostname = other
  | .replace _, _ => true
  | _, _ => false

/-- What a mutation keeps: all that it does not concern, with the instances in their order. -/
structure Keeps (mutation : Mutation) (before after : Catalog) : Prop where
  services : ∀ hostname, mutation.concerns (.service hostname) = false →
    after.service? hostname = before.service? hostname
  managementPorts : ∀ address, mutation.concerns (.managementPorts address) = false →
    after.managementPorts.get? address = before.managementPorts.get? address
  accounts : ∀ hostname, mutation.concerns (.accounts hostname) = false →
    after.serviceAccounts.get? hostname = before.serviceAccounts.get? hostname
  instances : after.instances.filter (fun inst => !mutation.concerns (.inst inst)) =
    before.instances.filter fun inst => !mutation.concerns (.inst inst)

theorem Keeps.refl (mutation : Mutation) (catalog : Catalog) : mutation.Keeps catalog catalog :=
  ⟨fun _ _ => rfl, fun _ _ => rfl, fun _ _ => rfl, rfl⟩

/-- A mutation keeps what it does not concern. -/
theorem keeps_apply (mutation : Mutation) (catalog : Catalog) :
    mutation.Keeps catalog (mutation.apply catalog) := by
  cases mutation with
  | addService service =>
      refine ⟨fun hostname hother => ?_, fun _ _ => rfl, fun _ _ => rfl, rfl⟩
      have hne : service.hostname ≠ hostname := of_decide_eq_false hother
      show (catalog.services.insert service.hostname service).get? hostname = _
      rw [NameTable.get?_insert, if_neg hne]
      rfl
  | removeService hostname =>
      rw [apply]
      cases hfind : catalog.service? hostname with
      | none => exact .refl _ _
      | some _ =>
          refine ⟨fun other hother => ?_, fun _ _ => rfl, fun _ _ => rfl, ?_⟩
          · have hne : hostname ≠ other := of_decide_eq_false hother
            show (catalog.services.erase hostname).get? other = _
            rw [NameTable.get?_erase, if_neg hne]
            rfl
          · show (catalog.instances.filter _).filter _ = _
            simp [concerns, List.filter_filter]
  | addInstance added =>
      rw [apply]
      by_cases hlisted : catalog.instances.contains added = true
      · rw [if_pos hlisted]
        exact .refl _ _
      · rw [if_neg hlisted]
        refine ⟨fun _ _ => rfl, fun _ _ => rfl, fun _ _ => rfl, ?_⟩
        show (catalog.instances ++ [added]).filter _ = _
        simp [concerns]
  | removeInstance removed =>
      refine ⟨fun _ _ => rfl, fun _ _ => rfl, fun _ _ => rfl, ?_⟩
      show (catalog.instances.filter _).filter _ = _
      simp [concerns, List.filter_filter, eq_comm]
  | setManagementPorts address ports =>
      refine ⟨fun _ _ => rfl, fun other hother => ?_, fun _ _ => rfl, rfl⟩
      have hne : address ≠ other := of_decide_eq_false hother
      show (catalog.managementPorts.insert address ports).get? other = _
      rw [NameTable.get?_insert, if_neg hne]
  | setServiceAccounts hostname accounts =>
      refine ⟨fun _ _ => rfl, fun _ _ => rfl, fun other hother => ?_, rfl⟩
      have hne : hostname ≠ other := of_decide_eq_false hother
      show (catalog.serviceAccounts.insert hostname accounts).get? other = _
      rw [NameTable.get?_insert, if_neg hne]
  | replace next =>
      -- it concerns everything
      have hnone : ∀ part, (replace next).concerns part ≠ false := fun _ => Bool.false_ne_true.symm
      exact ⟨fun hostname h => absurd h (hnone _), fun address h => absurd h (hnone _),
        fun hostname h => absurd h (hnone _), by simp [concerns]⟩

end Mutation

-- ── Instances and their services ────────────────────────────────────────────

/-- Every instance belongs to a host name that is listed. -/
def Catalog.Attached (catalog : Catalog) : Prop :=
  ∀ inst ∈ catalog.instances, (catalog.service? inst.service.hostname).isSome = true

namespace Mutation

/-- Whether a mutation adds instances to listed host names only. -/
def Attaches (catalog : Catalog) : Mutation → Prop
  | .addInstance inst => (catalog.service? inst.service.hostname).isSome = true
  | .replace next => next.Attached
  | .addService _ | .removeService _ | .removeInstance _ | .setManagementPorts _ _
  | .setServiceAccounts _ _ => True

/-- No instance is left without a service. -/
theorem attached_apply {mutation : Mutation} {catalog : Catalog} (h : catalog.Attached)
    (hmutation : mutation.Attaches catalog) : (mutation.apply catalog).Attached := by
  cases mutation with
  | addService service =>
      intro inst hmem
      show ((catalog.services.insert service.hostname service).get? _).isSome = true
      rw [NameTable.get?_insert]
      split
      · rfl
      · exact h inst hmem
  | removeService hostname =>
      rw [apply]
      cases hfind : catalog.service? hostname with
      | none => exact h
      | some _ =>
          intro inst hmem
          obtain ⟨hmem, hother⟩ := List.mem_filter.mp hmem
          have hne : hostname ≠ inst.service.hostname :=
            fun heq => of_decide_eq_true hother heq.symm
          show ((catalog.services.erase hostname).get? _).isSome = true
          rw [NameTable.get?_erase, if_neg hne]
          exact h inst hmem
  | addInstance added =>
      rw [apply]
      split
      · exact h
      · intro inst hmem
        rcases List.mem_append.mp hmem with hmem | hmem
        · exact h inst hmem
        · rw [List.mem_singleton.mp hmem]
          exact hmutation
  | removeInstance removed => exact fun inst hmem => h inst (List.mem_of_mem_filter hmem)
  | setManagementPorts address ports => exact h
  | setServiceAccounts hostname accounts => exact h
  | replace next => exact hmutation

/-- When a service is removed none of its instances is left. -/
theorem hostname_ne_of_removed {catalog : Catalog} {hostname : String} {service : Service}
    (h : catalog.service? hostname = some service) {inst : Instance}
    (hmem : inst ∈ ((removeService hostname).apply catalog).instances) :
    inst.service.hostname ≠ hostname := by
  rw [apply, h] at hmem
  exact of_decide_eq_true (List.mem_filter.mp hmem).2

/-- To remove what is not there is to do nothing. -/
theorem apply_removeService_of_none {catalog : Catalog} {hostname : String}
    (h : catalog.service? hostname = none) :
    (removeService hostname).apply catalog = catalog ∧
      (removeService hostname).changes catalog = .none := by
  rw [apply, changes, h]
  exact ⟨rfl, rfl⟩

end Mutation

-- ── Histories ───────────────────────────────────────────────────────────────

/-- Services that stand under their own host names ascend by them. -/
theorem Catalog.Keyed.services_ascending {catalog : Catalog} (h : catalog.Keyed) :
    catalog.services.values.Pairwise fun a b => a.hostname < b.hostname := by
  rw [NameTable.values, List.pairwise_map]
  refine catalog.services.ascending.imp_of_mem fun {a b} ha hb hlt => ?_
  rwa [h a.1 a.2 (NameTable.mem_entries_iff.mp ha), h b.1 b.2 (NameTable.mem_entries_iff.mp hb)]

namespace Registry

/-- If no mutation adds an instance to a host name that is not listed, none is left without a
    service. -/
theorem attached_mutateAll {registry : Registry} {mutations : List Mutation}
    (hattached : registry.catalog.Attached)
    (h : ∀ before mutation after, mutations = before ++ mutation :: after →
      mutation.Attaches (registry.mutateAll before).catalog) :
    (registry.mutateAll mutations).catalog.Attached := by
  induction mutations generalizing registry with
  | nil => exact hattached
  | cons mutation rest ih =>
      obtain ⟨hfirst, hrest⟩ := forall_split_cons.mp h
      have hnext : (registry.mutate mutation).catalog.Attached :=
        Mutation.attached_apply hattached hfirst
      exact ih hnext hrest

/-- What a registry holds is in order after any mutations. Services stand under their own host
    names, are listed in ascending order, and are found exactly if they are listed. Instances belong
    to listed host names, as long as none is added to another one. A service that is removed takes
    its instances along. What a mutation does not concern stays as it was, and to remove what is not
    listed changes nothing. -/
theorem contents_in_order {catalog : Catalog} (hcatalog : catalog.Built)
    (handlers : List (HandlerKind × Handler)) {mutations : List Mutation}
    (hmutations : ∀ mutation ∈ mutations, mutation.Built) {registry : Registry}
    (hregistry : (listening catalog handlers).mutateAll mutations = registry) :
    (∀ entry ∈ registry.catalog.services.entries, entry.2.hostname = entry.1) ∧
    (Discovery.services registry).Pairwise (fun a b => a.hostname < b.hostname) ∧
    (∀ hostname service, Discovery.service? registry hostname = some service ↔
      service ∈ Discovery.services registry ∧ service.hostname = hostname) ∧
    (catalog.Attached →
      (∀ before mutation after, mutations = before ++ mutation :: after →
        mutation.Attaches ((listening catalog handlers).mutateAll before).catalog) →
      registry.catalog.Attached) ∧
    (∀ hostname service,
      (Mutation.removeService hostname).reply registry.catalog = .service (some service) →
      ∀ inst, inst.service.hostname = hostname →
        (∀ other ports tags, inst ∉
          Discovery.instancesOf (registry.mutate (.removeService hostname)) other ports tags) ∧
        ∀ addresses, inst ∉
          Discovery.instancesAt (registry.mutate (.removeService hostname)) addresses) ∧
    (∀ mutation : Mutation, mutation.Keeps registry.catalog (registry.mutate mutation).catalog) ∧
    (∀ hostname, Discovery.service? registry hostname = none →
      registry.mutate (.removeService hostname) = registry ∧
        registry.deliveries (.removeService hostname) = []) := by
  have hkeyed : registry.catalog.Keyed := by
    subst hregistry
    refine keyed_mutateAll ?_ fun mutation hmem => (hmutations mutation hmem).keyed
    rw [catalog_listening]
    exact hcatalog.keyed
  refine ⟨Catalog.forall_service?_iff.mp hkeyed, hkeyed.services_ascending, ?found, ?attached,
    ?removed, fun mutation => mutation.keeps_apply registry.catalog, ?unlisted⟩
  case found =>
    intro hostname service
    show registry.catalog.service? hostname = some service ↔
      service ∈ registry.catalog.services.values ∧ service.hostname = hostname
    rw [hkeyed.mem_values_iff]
    constructor
    · intro hfind
      have hhost := hkeyed hostname service hfind
      exact ⟨hhost ▸ hfind, hhost⟩
    · rintro ⟨hfind, rfl⟩
      exact hfind
  case attached =>
    intro hattached hattaches
    subst hregistry
    refine attached_mutateAll ?_ hattaches
    rwa [catalog_listening]
  case removed =>
    intro hostname service hreply inst hhost
    have hfind : registry.catalog.service? hostname = some service := Reply.service.inj hreply
    have hgone : inst ∉ (registry.mutate (.removeService hostname)).catalog.instances :=
      fun hmem => Mutation.hostname_ne_of_removed hfind hmem hhost
    exact ⟨fun other ports tags hmem => hgone (List.mem_of_mem_filter hmem),
      fun addresses hmem => hgone (List.mem_of_mem_filter hmem)⟩
  case unlisted =>
    intro hostname hnone
    obtain ⟨hsame, huntold⟩ := Mutation.apply_removeService_of_none hnone
    refine ⟨?_, ?_⟩
    · rw [mutate, hsame]
    · rw [deliveries, huntold]
      rfl

/-- Another service. -/
def details : Service where
  name := "details"
  ns := some ""
  tags := ∅
  ports := [⟨"", 9080, .tcp⟩]

/-- An instance of it. -/
def firstDetails : Instance := ⟨⟨"10.0.0.2", 9080, ⟨"", 9080, .tcp⟩⟩, details, none⟩

/-- A service comes with an instance, and another one goes, with the two instances listed. -/
def exchange : List Mutation :=
  [.addService details, .addInstance firstDetails, .setManagementPorts "10.0.0.2" [],
   .removeService "reviews"]

/-- After it only the new service and its instance are listed, and to remove the old one again
    changes nothing. -/
theorem exchange_in_order :
    ((listening listedTwice [(.services, 7)]).mutateAll exchange).catalog.instances =
        [firstDetails] ∧
      ((listening listedTwice [(.services, 7)]).mutateAll exchange).catalog.Attached ∧
      ((listening listedTwice [(.services, 7)]).mutateAll exchange).mutate
          (.removeService "reviews") =
        (listening listedTwice [(.services, 7)]).mutateAll exchange := by
  have hbuilt : listedTwice.Built :=
    ((Catalog.Built.empty.withService _).withInstance _).withInstance _
  have hexchange : ∀ mutation ∈ exchange, mutation.Built := by
    simp only [exchange, List.forall_mem_cons]
    exact ⟨trivial, trivial, trivial, trivial, nofun⟩
  obtain ⟨-, -, -, hattached, -, -, hunlisted⟩ :=
    contents_in_order hbuilt [(.services, 7)] hexchange rfl
  refine ⟨by decide +kernel, hattached ?_ ?_, (hunlisted "reviews" (by decide +kernel)).1⟩
  · rw [Catalog.Attached]
    decide +kernel
  · refine forall_split_cons.mpr ⟨trivial, forall_split_cons.mpr ⟨?_, forall_split_cons.mpr
      ⟨trivial, forall_split_cons.mpr ⟨trivial, forall_split_nil _⟩⟩⟩⟩
    rw [Mutation.Attaches]
    decide +kernel

end Registry

end MeshSidecar
