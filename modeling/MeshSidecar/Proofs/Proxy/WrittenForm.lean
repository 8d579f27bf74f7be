import MeshSidecar.Proofs.Json.Unambiguous
import MeshSidecar.Proxy.Config

/-!
# The written form tells configurations apart

Flags that are not set, filters and service names that are not there and empty lists of hosts are
left out of what is written. None of this can be taken for something else: a member that may be
left out has a name that no member after it has (`Json.append_inj_of_named`). So two configurations
that are written alike are equal, part by part (`Config.toJson_injective`), and since no text spells
two values, so are two configurations with the same bytes in their files
(`Config.bytes_text_injective`).
-/

namespace MeshSidecar

open Function (Injective)

-- ── Members that may be left out ────────────────────────────────────────────

/-- Whether all members have a name, as do the ones of a field that may be left out. -/
def Json.Named (name : String) (members : List (String × Json)) : Prop :=
  ∀ member ∈ members, member.1 = name

/-- A field that may be left out is known, and so is what follows it, if nothing in there has its
    name. -/
theorem Json.append_inj_of_named {name : String} {field other more rest : List (String × Json)}
    (hfield : Named name field) (hother : Named name other)
    (hmore : ∀ member ∈ more, member.1 ≠ name) (hrest : ∀ member ∈ rest, member.1 ≠ name)
    (h : field ++ more = other ++ rest) : field = other ∧ more = rest := by
  have hfilter : ∀ {field more : List (String × Json)}, Named name field →
      (∀ member ∈ more, member.1 ≠ name) →
      (field ++ more).filter (fun member => member.1 = name) = field := by
    intro field more hfield hmore
    rw [List.filter_append, List.filter_eq_self.mpr (by simpa [Named] using hfield),
      List.filter_eq_nil_iff.mpr (by simpa using hmore), List.append_nil]
  have hsame : field = other := by
    rw [← hfilter hfield hmore, h, hfilter hother hrest]
  subst hsame
  exact ⟨rfl, List.append_cancel_left h⟩

variable {α : Type}

theorem named_optionalField (name : String) (encode : α → Json) (value : Option α) :
    Json.Named name (optionalField name encode value) := by
  cases value with
  | none => exact nofun
  | some value =>
      intro member hmember
      exact (List.mem_singleton.mp hmember) ▸ rfl

/-- What is left out is not there. -/
theorem optionalField_injective (name : String) {encode : α → Json} (h : Injective encode) :
    Injective (optionalField name encode) := by
  intro a b hab
  cases a with
  | none =>
      cases b with
      | none => rfl
      | some _ => exact nomatch hab
  | some a =>
      cases b with
      | none => exact nomatch hab
      | some b =>
          have hvalue : encode a = encode b := (Prod.mk.inj (List.singleton_injective hab)).2
          rw [h hvalue]

theorem named_ite (name : String) (value : Json) (p : Prop) [Decidable p] :
    Json.Named name (if p then [(name, value)] else []) := by
  intro member hmember
  split at hmember
  · exact (List.mem_singleton.mp hmember) ▸ rfl
  · exact nomatch hmember

theorem string_injective : Injective Json.string := fun _ _ => Json.string.inj

/-- A list is known from an array of its elements as they are written. -/
theorem array_map_injective {encode : α → Json} (h : Injective encode) :
    Injective fun items : List α => Json.array (items.map encode) := by
  intro a b hab
  exact List.map_injective_iff.mpr h (Json.array.inj hab)

-- ── Listeners ───────────────────────────────────────────────────────────────

theorem VirtualHost.toJson_injective : Injective VirtualHost.toJson := by
  rintro ⟨name, domains, cluster⟩ ⟨name', domains', cluster'⟩ h
  have hmembers := Json.object.inj h
  simp only [List.cons.injEq, Prod.mk.injEq, true_and, and_true, Json.string.injEq] at hmembers
  obtain ⟨rfl, hdomains, rfl⟩ := hmembers
  obtain rfl := array_map_injective string_injective hdomains
  rfl

/-- The kind of a filter is the name of its only member. -/
theorem Filter.toJson_injective : Injective Filter.toJson := by
  intro a b h
  cases a with
  | httpConnections hosts =>
      cases b with
      | httpConnections others =>
          simp only [toJson, Json.object.injEq, List.cons.injEq, Prod.mk.injEq, true_and,
            and_true] at h
          rw [array_map_injective VirtualHost.toJson_injective h]
      | tcpProxy cluster => simp [toJson] at h
  | tcpProxy cluster =>
      cases b with
      | httpConnections others => simp [toJson] at h
      | tcpProxy other =>
          simp only [toJson, Json.object.injEq, List.cons.injEq, Prod.mk.injEq, true_and,
            and_true, Json.string.injEq] at h
          rw [h]

theorem Listener.toJson_injective : Injective Listener.toJson := by
  rintro ⟨name, address, bind, dst, filter⟩ ⟨name', address', bind', dst', filter'⟩ h
  have hmembers := Json.object.inj h
  simp only [List.cons_append, List.nil_append, List.cons.injEq, Prod.mk.injEq, true_and,
    Json.string.injEq, Json.bool.injEq] at hmembers
  obtain ⟨rfl, rfl, rfl, hmore⟩ := hmembers
  have hnames : ∀ filter : Option Filter, ∀ member ∈ optionalField "filter" Filter.toJson filter,
      member.1 ≠ "use_original_dst" := by
    intro filter member hmember
    rw [named_optionalField _ _ filter member hmember]
    decide
  obtain ⟨hdst, hfilter⟩ := Json.append_inj_of_named (named_ite _ _ _) (named_ite _ _ _)
    (hnames filter) (hnames filter') hmore
  have hflag : dst = dst' := by
    cases dst <;> cases dst' <;> simp at hdst ⊢
  rw [hflag, optionalField_injective "filter" Filter.toJson_injective hfilter]

theorem Admin.toJson_injective : Injective Admin.toJson := by
  rintro ⟨path, address⟩ ⟨path', address'⟩ h
  have hmembers := Json.object.inj h
  simp only [List.cons.injEq, Prod.mk.injEq, true_and, and_true, Json.string.injEq] at hmembers
  obtain ⟨rfl, rfl⟩ := hmembers
  rfl

-- ── Clusters ────────────────────────────────────────────────────────────────

theorem ClusterKind.name_injective : Injective ClusterKind.name := by
  intro a b h
  cases a <;> cases b <;> first | rfl | simp [name] at h

namespace Cluster

/-- The field for the hosts of a cluster, which is not there if there is no host. -/
def hostsField (hosts : List String) : List (String × Json) :=
  if hosts.isEmpty then []
  else [("hosts", .array (hosts.map fun url => .object [("url", .string url)]))]

/-- The members of a cluster as they are written, in order. -/
theorem toJson_eq (cluster : Cluster) : cluster.toJson =
    .object (("name", .string cluster.name) ::
      (optionalField "service_name" .string cluster.serviceName ++
        ("connect_timeout_ms", .number cluster.connectTimeoutMs.toNat) ::
        ("type", .string cluster.kind.name) ::
        ("lb_type", .string cluster.lbType) :: hostsField cluster.hosts)) := by
  simp only [toJson, hostsField, List.append_assoc, List.cons_append, List.nil_append]

theorem named_hostsField (hosts : List String) : Json.Named "hosts" (hostsField hosts) := by
  intro member hmember
  rw [hostsField] at hmember
  split at hmember
  · exact nomatch hmember
  · exact (List.mem_singleton.mp hmember) ▸ rfl

theorem hostsField_injective : Injective hostsField := by
  have hurl : Injective fun url : String => Json.object [("url", .string url)] := by
    intro a b h
    simpa using h
  intro a b h
  cases a with
  | nil =>
      cases b with
      | nil => rfl
      | cons _ _ => exact nomatch h
  | cons _ _ =>
      cases b with
      | nil => exact nomatch h
      | cons _ _ => exact array_map_injective hurl (Prod.mk.inj (List.singleton_injective h)).2

/-- Neither a cluster without a service name nor one without hosts is taken for another one. -/
theorem toJson_injective : Injective Cluster.toJson := by
  rintro ⟨name, service, timeout, kind, lb, hosts⟩ ⟨name', service', timeout', kind', lb', hosts'⟩ h
  rw [toJson_eq, toJson_eq] at h
  simp only [Json.object.injEq, List.cons.injEq, Prod.mk.injEq, true_and, Json.string.injEq] at h
  obtain ⟨rfl, hmore⟩ := h
  have hnames : ∀ (timeout : Nat) (kind lb : String) (hosts : List String),
      ∀ member ∈ ("connect_timeout_ms", Json.number timeout) :: ("type", Json.string kind) ::
        ("lb_type", Json.string lb) :: hostsField hosts, member.1 ≠ "service_name" := by
    intro timeout kind lb hosts
    simp only [List.forall_mem_cons, ne_eq, String.reduceEq, not_false_eq_true, true_and]
    intro member hmember
    rw [named_hostsField hosts member hmember]
    decide
  obtain ⟨hservice, hrest⟩ := Json.append_inj_of_named (named_optionalField _ _ _)
    (named_optionalField _ _ _) (hnames _ _ _ _) (hnames _ _ _ _) hmore
  simp only [List.cons.injEq, Prod.mk.injEq, true_and, Json.string.injEq, Json.number.injEq]
    at hrest
  obtain ⟨htimeout, hkind, rfl, hhosts⟩ := hrest
  rw [optionalField_injective "service_name" string_injective hservice,
    UInt64.toNat_inj.mp htimeout, ClusterKind.name_injective hkind, hostsField_injective hhosts]

end Cluster

theorem DiscoverySource.toJson_injective : Injective DiscoverySource.toJson := by
  rintro ⟨cluster, delay⟩ ⟨cluster', delay'⟩ h
  have hmembers := Json.object.inj h
  simp only [List.cons.injEq, Prod.mk.injEq, true_and, and_true, Json.number.injEq] at hmembers
  rw [Cluster.toJson_injective hmembers.1, UInt64.toNat_inj.mp hmembers.2]

theorem ClusterManager.toJson_injective : Injective ClusterManager.toJson := by
  rintro ⟨clusters, sds⟩ ⟨clusters', sds'⟩ h
  have hmembers := Json.object.inj h
  simp only [List.cons.injEq, Prod.mk.injEq, true_and, and_true] at hmembers
  obtain rfl := array_map_injective Cluster.toJson_injective hmembers.1
  rw [DiscoverySource.toJson_injective hmembers.2]

-- ── Configurations ──────────────────────────────────────────────────────────

namespace Config

/-- Configurations that are written alike are equal. -/
theorem toJson_injective : Injective Config.toJson := by
  rintro ⟨listeners, admin, manager⟩ ⟨listeners', admin', manager'⟩ h
  have hmembers := Json.object.inj h
  simp only [List.cons.injEq, Prod.mk.injEq, true_and, and_true] at hmembers
  obtain ⟨hlisteners, hadmin, hmanager⟩ := hmembers
  obtain rfl := array_map_injective Listener.toJson_injective hlisteners
  rw [Admin.toJson_injective hadmin, ClusterManager.toJson_injective hmanager]

/-- The bytes of its file tell a configuration apart from all others. -/
theorem bytes_text_injective : Injective fun config : Config => Text.bytes config.text := by
  intro a b h
  exact toJson_injective (Json.bytes_pretty_injective h)

end Config

end MeshSidecar
