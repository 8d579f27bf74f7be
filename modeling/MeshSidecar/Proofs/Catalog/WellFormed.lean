import MeshSidecar.Catalog.Document
import MeshSidecar.Proofs.Names.Ascending
import MeshSidecar.Proofs.Service.WellFormed

/-!
# What a document describes

A document is turned into a catalog exactly if it `Describes` that catalog: its services are
well-formed and are, each under its own host name, the services of the catalog, and its entries
mean the instances of the catalog one by one. The port that an entry means is the one that it
names, since no two ports of a well-formed service share a name, or else the only one.

What is described is `Catalog.WellFormed`: every service and every instance is accepted, a service
stands under its own host name, and an instance carries the service that stands under the host
name of its own. The last two are all that matters to those who follow the changes of a catalog,
so they have names of their own, `Catalog.Keyed` and `Catalog.Coherent`.
-/

namespace MeshSidecar

namespace Catalog

/-- Every service stands under its own host name. -/
def Keyed (catalog : Catalog) : Prop :=
  ∀ hostname service, catalog.service? hostname = some service → service.hostname = hostname

/-- Every instance carries the service that stands under the host name of its own. -/
def Coherent (catalog : Catalog) : Prop :=
  ∀ inst ∈ catalog.instances, catalog.service? inst.service.hostname = some inst.service

/-- A well-formed catalog. -/
structure WellFormed (catalog : Catalog) : Prop where
  keyed : catalog.Keyed
  services : ∀ hostname service, catalog.service? hostname = some service →
    service.validate = .ok ()
  instances : ∀ inst ∈ catalog.instances, inst.validate = .ok ()
  coherent : catalog.Coherent

/-- What is asked of the services is asked of the entries of their table. -/
theorem forall_service?_iff {catalog : Catalog} {p : String → Service → Prop} :
    (∀ hostname service, catalog.service? hostname = some service → p hostname service) ↔
      ∀ entry ∈ catalog.services.entries, p entry.1 entry.2 :=
  ⟨fun h _ hentry => h _ _ (NameTable.mem_entries_iff.mp hentry),
    fun h _ _ hfind => h _ (NameTable.mem_entries_iff.mpr hfind)⟩

/-- Whether a catalog is well-formed can be told from its entries and its instances. -/
theorem wellFormed_iff {catalog : Catalog} :
    catalog.WellFormed ↔
      (∀ entry ∈ catalog.services.entries, entry.2.hostname = entry.1) ∧
      (∀ entry ∈ catalog.services.entries, entry.2.validate = .ok ()) ∧
      (∀ inst ∈ catalog.instances, inst.validate = .ok ()) ∧
      ∀ inst ∈ catalog.instances, catalog.service? inst.service.hostname = some inst.service :=
  ⟨fun h => ⟨forall_service?_iff.mp h.keyed, forall_service?_iff.mp h.services, h.instances,
      h.coherent⟩,
    fun h => ⟨forall_service?_iff.mpr h.1, forall_service?_iff.mpr h.2.1, h.2.2.1, h.2.2.2⟩⟩

instance (catalog : Catalog) : Decidable catalog.WellFormed :=
  decidable_of_iff _ wellFormed_iff.symm

theorem keyed_empty : (∅ : Catalog).Keyed := fun _ _ h => nomatch h

/-- A service that is stored stands under its host name. -/
theorem Keyed.withService {catalog : Catalog} (h : catalog.Keyed) (service : Service) :
    (catalog.withService service).Keyed := by
  intro hostname other hfind
  have hinsert : (catalog.services.insert service.hostname service).get? hostname
      = some other := hfind
  rw [NameTable.get?_insert] at hinsert
  split at hinsert
  · rename_i heq
    rw [← Option.some.inj hinsert, heq]
  · exact h hostname other hinsert

/-- So do the services that are left when one is removed. -/
theorem Keyed.erase {catalog : Catalog} (h : catalog.Keyed) (hostname : String) :
    ∀ name service, (catalog.services.erase hostname).get? name = some service →
      service.hostname = name := by
  intro name service hfind
  rw [NameTable.get?_erase] at hfind
  split at hfind
  · exact nomatch hfind
  · exact h name service hfind

end Catalog

namespace Catalog.Keyed

variable {catalog : Catalog}

/-- A service is listed exactly if it stands under its own host name. -/
theorem mem_values_iff (h : catalog.Keyed) {service : Service} :
    service ∈ catalog.services.values ↔ catalog.service? service.hostname = some service := by
  constructor
  · intro hmem
    obtain ⟨⟨name, stored⟩, hentry, rfl⟩ := List.mem_map.mp hmem
    have hfound : catalog.service? name = some stored := NameTable.mem_entries_iff.mp hentry
    rw [h name stored hfound]
    exact hfound
  · intro hfound
    exact List.mem_map.mpr ⟨_, NameTable.mem_entries_iff.mpr hfound, rfl⟩

/-- What is found under a host name is the service in the list that has it. -/
theorem find?_values (h : catalog.Keyed) (hostname : String) :
    catalog.services.values.find? (·.hostname = hostname) = catalog.service? hostname := by
  cases hfind : catalog.services.values.find? (·.hostname = hostname) with
  | some service =>
      have hhost : service.hostname = hostname := by simpa using List.find?_some hfind
      rw [← hhost]
      exact (h.mem_values_iff.mp (List.mem_of_find?_eq_some hfind)).symm
  | none =>
      refine (Option.eq_none_iff_forall_not_mem.mpr fun service hfound => ?_).symm
      have hhost := h hostname service hfound
      have hlisted : service ∈ catalog.services.values := h.mem_values_iff.mpr (hhost ▸ hfound)
      exact List.find?_eq_none.mp hfind service hlisted (decide_eq_true hhost)

end Catalog.Keyed

-- ── Ports ───────────────────────────────────────────────────────────────────

/-- Among ports of different names the one that is found under a name is the one that has it. -/
theorem PortList.get?_eq_some_iff {ports : PortList} {name : String} {port : Port}
    (h : ports.Pairwise fun a b => a.name ≠ b.name) :
    PortList.get? ports name = some port ↔ port ∈ ports ∧ port.name = name := by
  constructor
  · intro hfind
    rw [PortList.get?] at hfind
    exact ⟨List.mem_of_find?_eq_some hfind, by simpa using List.find?_some hfind⟩
  · rintro ⟨hmem, rfl⟩
    induction ports with
    | nil => exact nomatch hmem
    | cons first rest ih =>
        obtain ⟨hfirst, hrest⟩ := List.pairwise_cons.mp h
        rw [PortList.get?, List.find?_cons]
        rcases List.mem_cons.mp hmem with rfl | hmem
        · rw [decide_eq_true rfl]
        · rw [decide_eq_false (hfirst port hmem)]
          exact ih hrest hmem

theorem Service.WellFormed.portNames_pairwise {service : Service} (h : service.WellFormed) :
    service.ports.Pairwise fun a b => a.name ≠ b.name := by
  by_cases hsingle : service.ports.length ≤ 1
  · match hports : service.ports, hsingle with
    | [], _ => exact List.Pairwise.nil
    | [port], _ => exact List.pairwise_singleton ..
  · -- of several ports none goes without a name
    refine h.ports.names_distinct.imp_of_mem fun {a b} _ hb hne => hne fun hempty => ?_
    exact hsingle (of_decide_eq_true (h.ports.unnamed b hb hempty))

namespace InstanceEntry

/-- The port that an entry means: the one that it names, or else the only one. -/
def NamesPort (entry : InstanceEntry) (ports : PortList) (port : Port) : Prop :=
  match entry.portName with
  | some name => port ∈ ports ∧ port.name = name
  | none => ports = [port]

/-- The port of a well-formed service that is found for an entry is the one that it means. -/
theorem port?_eq_some_iff {entry : InstanceEntry} {service : Service} {port : Port}
    (h : service.WellFormed) :
    entry.port? service = some port ↔ entry.NamesPort service.ports port := by
  rw [port?, NamesPort]
  cases entry.portName with
  | some name => exact PortList.get?_eq_some_iff h.portNames_pairwise
  | none =>
      match service.ports with
      | [] => exact iff_of_false nofun nofun
      | [only] =>
          show some only = some port ↔ [only] = [port]
          rw [Option.some_inj, List.singleton_inj]
      | first :: second :: rest => exact iff_of_false nofun nofun

/-- An instance that an entry means among the services of a table. -/
structure Means (entry : InstanceEntry) (services : NameTable Service) (inst : Instance) :
    Prop where
  service : services.get? entry.service = some inst.service
  address : inst.endpoint.address = entry.address
  port : inst.endpoint.port = entry.port
  tag : inst.tag = entry.tag
  servicePort : entry.port? inst.service = some inst.endpoint.servicePort
  valid : inst.validate = .ok ()

/-- An entry is resolved to the instance that it means. -/
theorem resolve_eq_ok_iff {entry : InstanceEntry} {services : NameTable Service}
    {inst : Instance} : entry.resolve services = .ok inst ↔ entry.Means services inst := by
  constructor
  · intro h
    rw [resolve] at h
    cases hservice : services.get? entry.service with
    | none => rw [hservice] at h; exact nomatch h
    | some service =>
        simp only [hservice] at h
        cases hport : entry.port? service with
        | none => rw [hport] at h; exact nomatch h
        | some servicePort =>
            simp only [hport] at h
            split at h
            · rename_i hvalid
              obtain rfl := Except.ok.inj h
              exact ⟨hservice, rfl, rfl, rfl, hport, hvalid⟩
            · exact nomatch h
  · obtain ⟨⟨address, port, servicePort⟩, service, tag⟩ := inst
    rintro ⟨hservice, rfl, rfl, rfl, hport, hvalid⟩
    simp only [resolve, hservice, hport, hvalid]

end InstanceEntry

-- ── Documents ───────────────────────────────────────────────────────────────

namespace Catalog

/-- A service with its host name. -/
def named (service : Service) : String × Service := (service.hostname, service)

/-- Services are added exactly if they are well-formed, and the table then has them and what it
    had before. -/
theorem addServices_eq_ok_iff {table result : NameTable Service} {services : List Service} :
    addServices table services = .ok result ↔
      (∀ service ∈ services, service.validate = .ok ()) ∧
        result.entries.Perm (services.map named ++ table.entries) := by
  induction services generalizing table with
  | nil =>
      rw [addServices]
      constructor
      · intro h
        obtain rfl := Except.ok.inj h
        exact ⟨nofun, List.Perm.refl _⟩
      · rintro ⟨-, hperm⟩
        rw [NameTable.eq_of_entries_perm hperm]
  | cons service rest ih =>
      rw [addServices, List.forall_mem_cons]
      cases hvalid : service.validate with
      | error invalid => exact iff_of_false nofun fun h => nomatch h.1.1
      | ok =>
          cases hfind : table.get? service.hostname with
          | some old =>
              refine iff_of_false nofun fun h => ?_
              -- the host name would stand twice among the entries of the result
              have hnodup := (h.2.map (·.1)).nodup_iff.mp result.names_nodup
              refine (List.nodup_cons.mp hnodup).1 ?_
              show service.hostname ∈ (rest.map named ++ table.entries).map (·.1)
              rw [List.map_append]
              refine List.mem_append_right _ ?_
              exact List.mem_map_of_mem (NameTable.mem_entries_iff.mpr hfind)
          | none =>
              have hplaced := NameTable.entries_insert_perm service hfind
              have hentries : ((service :: rest).map named ++ table.entries).Perm
                  (rest.map named ++ (table.insert service.hostname service).entries) :=
                List.perm_middle.symm.trans (hplaced.symm.append_left _)
              show addServices _ rest = .ok result ↔ _
              rw [ih, ← hentries.congr_right]
              exact ⟨fun h => ⟨⟨rfl, h.1⟩, h.2⟩, fun h => ⟨h.1.2, h.2⟩⟩

/-- Whatever stands on the right of lists that are related item by item is related to something
    on the left. -/
theorem exists_of_forall₂ {α β : Type} {r : α → β → Prop} {left : List α} {right : List β}
    (h : List.Forall₂ r left right) : ∀ b ∈ right, ∃ a ∈ left, r a b := by
  induction h with
  | nil => exact nofun
  | cons hfirst _ ih =>
      intro b hb
      rcases List.mem_cons.mp hb with rfl | hb
      · exact ⟨_, List.mem_cons_self .., hfirst⟩
      · obtain ⟨a, ha, hr⟩ := ih b hb
        exact ⟨a, List.mem_cons_of_mem _ ha, hr⟩

/-- Entries are resolved one by one. -/
theorem resolveAll_eq_ok_iff {services : NameTable Service} {entries : List InstanceEntry}
    {instances : List Instance} :
    resolveAll services entries = .ok instances ↔
      List.Forall₂ (fun entry inst => entry.Means services inst) entries instances := by
  induction entries generalizing instances with
  | nil =>
      rw [resolveAll, List.forall₂_nil_left_iff]
      exact ⟨fun h => (Except.ok.inj h).symm, fun h => by rw [h]⟩
  | cons entry rest ih =>
      rw [resolveAll, List.forall₂_cons_left_iff]
      constructor
      · intro h
        cases hfirst : entry.resolve services with
        | error offence => rw [hfirst] at h; exact nomatch h
        | ok inst =>
            simp only [hfirst] at h
            cases hmore : resolveAll services rest with
            | error offence => rw [hmore] at h; exact nomatch h
            | ok more =>
                simp only [hmore] at h
                exact ⟨inst, more, InstanceEntry.resolve_eq_ok_iff.mp hfirst, ih.mp hmore,
                  (Except.ok.inj h).symm⟩
      · rintro ⟨inst, more, hfirst, hmore, rfl⟩
        simp only [InstanceEntry.resolve_eq_ok_iff.mpr hfirst, ih.mpr hmore]

end Catalog

/-- What a document says of a catalog. -/
structure CatalogDocument.Describes (document : CatalogDocument) (catalog : Catalog) : Prop where
  valid : ∀ service ∈ document.services, service.validate = .ok ()
  services : catalog.services.entries.Perm (document.services.map Catalog.named)
  instances : List.Forall₂ (fun entry inst => entry.Means catalog.services inst)
    document.instances catalog.instances
  managementPorts : catalog.managementPorts = document.managementPorts
  serviceAccounts : catalog.serviceAccounts = document.serviceAccounts

namespace Catalog

/-- A document is turned into the catalog that it describes, and into no other. -/
theorem ofDocument_eq_ok_iff {document : CatalogDocument} {catalog : Catalog} :
    ofDocument document = .ok catalog ↔ document.Describes catalog := by
  constructor
  · intro h
    rw [ofDocument] at h
    cases hservices : addServices ∅ document.services with
    | error offence => rw [hservices] at h; exact nomatch h
    | ok services =>
        simp only [hservices] at h
        cases hinstances : resolveAll services document.instances with
        | error offence => rw [hinstances] at h; exact nomatch h
        | ok instances =>
            simp only [hinstances] at h
            obtain rfl := Except.ok.inj h
            obtain ⟨hvalid, hperm⟩ := addServices_eq_ok_iff.mp hservices
            rw [show (∅ : NameTable Service).entries = [] from rfl, List.append_nil] at hperm
            exact ⟨hvalid, hperm, resolveAll_eq_ok_iff.mp hinstances, rfl, rfl⟩
  · obtain ⟨services, instances, managementPorts, serviceAccounts⟩ := catalog
    rintro ⟨hvalid, hperm, hinstances, rfl, rfl⟩
    have hservices : addServices ∅ document.services = .ok services := by
      refine addServices_eq_ok_iff.mpr ⟨hvalid, ?_⟩
      rw [show (∅ : NameTable Service).entries = [] from rfl, List.append_nil]
      exact hperm
    simp only [ofDocument, hservices, resolveAll_eq_ok_iff.mpr hinstances]

end Catalog

/-- A catalog that is described is well-formed. -/
theorem CatalogDocument.Describes.wellFormed {document : CatalogDocument} {catalog : Catalog}
    (h : document.Describes catalog) : catalog.WellFormed := by
  have hlisted : ∀ hostname service, catalog.service? hostname = some service →
      service ∈ document.services ∧ service.hostname = hostname := by
    intro hostname service hfind
    have hmem := h.services.mem_iff.mp (NameTable.mem_entries_iff.mpr hfind)
    obtain ⟨other, hother, heq⟩ := List.mem_map.mp hmem
    obtain ⟨rfl, rfl⟩ := Prod.mk.inj heq
    exact ⟨hother, rfl⟩
  have hmeans : ∀ inst ∈ catalog.instances, ∃ entry : InstanceEntry,
      entry.Means catalog.services inst := by
    intro inst hinst
    obtain ⟨entry, -, hentry⟩ := Catalog.exists_of_forall₂ h.instances inst hinst
    exact ⟨entry, hentry⟩
  constructor
  case keyed => exact fun hostname service hfind => (hlisted hostname service hfind).2
  case services =>
    exact fun hostname service hfind => h.valid service (hlisted hostname service hfind).1
  case instances =>
    intro inst hinst
    obtain ⟨entry, hentry⟩ := hmeans inst hinst
    exact hentry.valid
  case coherent =>
    intro inst hinst
    obtain ⟨entry, hentry⟩ := hmeans inst hinst
    have hname := (hlisted entry.service inst.service hentry.service).2
    rw [hname]
    exact hentry.service

namespace Catalog

/-- What is read from a file was read as a document that describes it. -/
theorem describes_of_ofBytes {bytes : Bytes} {catalog : Catalog} (h : ofBytes bytes = .ok catalog) :
    ∃ document, CatalogDocument.record.read.document bytes = .ok document ∧
      document.Describes catalog := by
  rw [ofBytes] at h
  cases hread : CatalogDocument.record.read.document bytes with
  | error fault => rw [hread] at h; exact nomatch h
  | ok document =>
      simp only [hread] at h
      exact ⟨document, rfl, ofDocument_eq_ok_iff.mp h⟩

/-- What is read from a file is well-formed. -/
theorem wellFormed_of_ofBytes {bytes : Bytes} {catalog : Catalog}
    (h : ofBytes bytes = .ok catalog) : catalog.WellFormed := by
  obtain ⟨document, -, hdescribes⟩ := describes_of_ofBytes h
  exact hdescribes.wellFormed

end Catalog

end MeshSidecar
