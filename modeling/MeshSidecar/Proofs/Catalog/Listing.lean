import MeshSidecar.Proofs.Catalog.WellFormed
import MeshSidecar.Proofs.Service.Document

/-!
# Catalogs are read back

A catalog may be *listed* in many ways: the services in any order, the tables in any order of
their names, and an instance with or without the name of its port if its service has a single
one. A well-formed catalog is read from every text of every listing of it, and nothing but
well-formed catalogs is ever read (`Catalog.ofBytes_exact`).
-/

namespace MeshSidecar

-- ── Listings ────────────────────────────────────────────────────────────────

namespace InstanceEntry

/-- An entry as it is written: what is absent is left out. -/
def toJson (entry : InstanceEntry) : Json :=
  .object
    ([("service", .string entry.service), ("address", .string entry.address),
      ("port", .number entry.port.toNat)] ++
     (match entry.portName with
       | none => []
       | some portName => [("portName", .string portName)]) ++
     match entry.tag with
     | none => []
     | some tag => [("tag", .string tag)])

/-- An entry is read as it was written. -/
theorem reads (entry : InstanceEntry) : Reads record.read entry.toJson entry := by
  obtain ⟨service, address, port, portName, tag⟩ := entry
  refine Record.Takes.reads ?_
  refine .field rfl rfl ((Reads.text service).mandatory _ _) ?_
  refine .field rfl rfl ((Reads.text address).mandatory _ _) ?_
  refine .field rfl rfl ((Reads.word16 port).mandatory _ _) ?_
  cases portName with
  | none =>
      cases tag with
      | none => exact .done rfl
      | some tag =>
          exact .field rfl rfl (((Reads.text tag).optional nofun).defaulted _ _) (.done rfl)
  | some portName =>
      refine .field rfl rfl (((Reads.text portName).optional nofun).defaulted _ _) ?_
      cases tag with
      | none => exact .done rfl
      | some tag =>
          exact .field rfl rfl (((Reads.text tag).optional nofun).defaulted _ _) (.done rfl)

/-- What is written of an instance, apart from the port of the service. -/
structure Writes (entry : InstanceEntry) (inst : Instance) : Prop where
  service : entry.service = inst.service.hostname
  address : entry.address = inst.endpoint.address
  port : entry.port = inst.endpoint.port
  tag : entry.tag = inst.tag

/-- An entry lists an instance. The port of the service goes by its name, which may be left out
    where the service has a single port. -/
structure Lists (entry : InstanceEntry) (inst : Instance) : Prop extends entry.Writes inst where
  portName : entry.portName = some inst.endpoint.servicePort.name ∨
    entry.portName = none ∧ inst.service.ports.length = 1

end InstanceEntry

/-- What is listed of a catalog, in order. -/
structure CatalogListing where
  services : List Service
  instances : List InstanceEntry
  managementPorts : List (String × PortList)
  serviceAccounts : List (String × List String)

namespace CatalogListing

/-- A listing as it is written. -/
def toJson (listing : CatalogListing) : Json :=
  .object
    [("services", .array (listing.services.map Service.toJson)),
     ("instances", .array (listing.instances.map InstanceEntry.toJson)),
     ("managementPorts", .object (listing.managementPorts.map fun (address, ports) =>
       (address, PortList.toJson ports))),
     ("serviceAccounts", .object (listing.serviceAccounts.map fun (hostname, accounts) =>
       (hostname, .array (accounts.map .string))))]

/-- The document that a listing makes. -/
def document (listing : CatalogListing) : CatalogDocument where
  services := listing.services
  instances := listing.instances
  managementPorts := .ofList listing.managementPorts
  serviceAccounts := .ofList listing.serviceAccounts

/-- A listing is read as the document that it makes. -/
theorem reads (listing : CatalogListing) :
    Reads CatalogDocument.record.read listing.toJson listing.document := by
  have haccounts := Reads.tableOf_map (Reads.listOf_map Reads.text) listing.serviceAccounts
  refine Record.Takes.reads ?_
  refine .field rfl rfl ((Reads.listOf_map Service.reads listing.services).defaulted _ _) ?_
  refine .field rfl rfl ((Reads.listOf_map InstanceEntry.reads listing.instances).defaulted _ _) ?_
  refine .field rfl rfl
    ((Reads.tableOf_map PortList.reads listing.managementPorts).defaulted _ _) ?_
  exact .field rfl rfl (haccounts.defaulted _ _) (.done rfl)

/-- What it takes to list a catalog. -/
structure Lists (listing : CatalogListing) (catalog : Catalog) : Prop where
  services : listing.services.Perm catalog.services.values
  instances : List.Forall₂ (fun entry inst => entry.Lists inst) listing.instances catalog.instances
  managementPorts : listing.managementPorts.Perm catalog.managementPorts.entries
  serviceAccounts : listing.serviceAccounts.Perm catalog.serviceAccounts.entries

end CatalogListing

-- ── Well-formed catalogs ────────────────────────────────────────────────────

/-- A well-formed instance serves a port of its service. -/
theorem Instance.servicePort_mem {inst : Instance} (h : inst.validate = .ok ()) :
    inst.endpoint.servicePort ∈ inst.service.ports := by
  rw [validate] at h
  cases hflaw : inst.flaw with
  | some flaw => rw [hflaw] at h; exact nomatch h
  | none =>
      rw [flaw] at hflaw
      split at hflaw
      · exact nomatch hflaw
      · split at hflaw
        · exact nomatch hflaw
        · split at hflaw
          · rename_i hport
            exact List.contains_iff_mem.mp hport
          · exact nomatch hflaw

/-- The port of a listed instance is the one that the entry means. -/
theorem InstanceEntry.Lists.namesPort {entry : InstanceEntry} {inst : Instance}
    (h : entry.Lists inst) (hvalid : inst.validate = .ok ()) :
    entry.NamesPort inst.service.ports inst.endpoint.servicePort := by
  have hmem := Instance.servicePort_mem hvalid
  rw [NamesPort]
  rcases h.portName with hname | ⟨hnone, hsingle⟩
  · rw [hname]
    exact ⟨hmem, rfl⟩
  · rw [hnone]
    obtain ⟨port, hport⟩ := List.length_eq_one_iff.mp hsingle
    rw [hport] at hmem ⊢
    rw [List.mem_singleton.mp hmem]

namespace Catalog

/-- The entries of a table in which every service stands under its host name. -/
theorem Keyed.entries_eq {catalog : Catalog} (h : catalog.Keyed) :
    catalog.services.values.map named = catalog.services.entries := by
  rw [NameTable.values, List.map_map]
  refine (List.map_congr_left fun entry hentry => ?_).trans (List.map_id _)
  have hname := h entry.1 entry.2 (NameTable.mem_entries_iff.mp hentry)
  exact Prod.ext hname rfl

/-- What a well-formed catalog is listed as describes it. -/
theorem describes_of_lists {catalog : Catalog} {listing : CatalogListing}
    (h : catalog.WellFormed) (hlists : listing.Lists catalog) :
    listing.document.Describes catalog := by
  constructor
  case valid =>
    intro service hservice
    obtain ⟨⟨hostname, _⟩, hentry, rfl⟩ :=
      List.mem_map.mp ((hlists.services.mem_iff).mp hservice)
    exact h.services hostname _ (NameTable.mem_entries_iff.mp hentry)
  case services =>
    rw [← h.keyed.entries_eq]
    exact (hlists.services.map named).symm
  case instances =>
    have hlisted : List.Forall₂ (fun inst entry => inst ∈ catalog.instances ∧ entry.Lists inst)
        catalog.instances listing.instances :=
      (List.forall₂_and_left _ _).mpr ⟨fun _ hinst => hinst, hlists.instances.flip⟩
    refine (hlisted.imp fun inst entry => ?_).flip
    rintro ⟨hinst, hentry⟩
    have hservice := h.coherent inst hinst
    have hvalid := Service.validate_eq_ok_iff.mp (h.services _ _ hservice)
    exact
      { service := hentry.service ▸ hservice
        address := hentry.address.symm
        port := hentry.port.symm
        tag := hentry.tag.symm
        servicePort := (InstanceEntry.port?_eq_some_iff hvalid).mpr
          (hentry.namesPort (h.instances inst hinst))
        valid := h.instances inst hinst }
  case managementPorts => exact (NameTable.ofList_eq_of_perm hlists.managementPorts).symm
  case serviceAccounts => exact (NameTable.ofList_eq_of_perm hlists.serviceAccounts).symm

/-- A text of a listing is turned into a catalog as the document that the listing makes. -/
theorem ofBytes_of_spells (listing : CatalogListing) {before text after : Bytes}
    (hbefore : Json.Blank before) (hspells : Json.Spells listing.toJson text)
    (hafter : Json.Blank after) :
    ofBytes (before ++ (text ++ after)) = ofDocument listing.document := by
  have hread : CatalogDocument.record.read.document (before ++ (text ++ after))
      = .ok listing.document := listing.reads.document hbefore hspells hafter
  rw [ofBytes, hread]

/-- So is what is written without white space. -/
theorem ofBytes_compact (listing : CatalogListing) :
    ofBytes (Text.bytes listing.toJson.compact) = ofDocument listing.document := by
  rw [ofBytes, listing.reads.document_compact]

/-- Exactly the well-formed catalogs are read. Whatever is read from a file is well-formed and is
    what the document lists: as many services, and the instances in order, each as it is written,
    with the service under its host name and the port that is named or else the only one. And a
    well-formed catalog is read from every text of every listing of it. -/
theorem ofBytes_exact :
    (∀ bytes catalog, ofBytes bytes = .ok catalog →
      catalog.WellFormed ∧
      ∃ document, CatalogDocument.record.read.document bytes = .ok document ∧
        document.services.length = catalog.services.entries.length ∧
        document.services.Perm catalog.services.values ∧
        List.Forall₂ (fun entry inst => entry.Writes inst ∧
          entry.NamesPort inst.service.ports inst.endpoint.servicePort)
          document.instances catalog.instances ∧
        document.managementPorts = catalog.managementPorts ∧
        document.serviceAccounts = catalog.serviceAccounts) ∧
    (∀ (catalog : Catalog) (listing : CatalogListing), catalog.WellFormed → listing.Lists catalog →
      ∀ before text after, Json.Blank before → Json.Spells listing.toJson text → Json.Blank after →
        ofBytes (before ++ (text ++ after)) = .ok catalog) := by
  constructor
  · intro bytes catalog h
    obtain ⟨document, hread, hdescribes⟩ := describes_of_ofBytes h
    have hwf := hdescribes.wellFormed
    have hservices : document.services.Perm catalog.services.values := by
      have hvalues : (document.services.map named).map (·.2) = document.services :=
        List.map_map.trans (List.map_id _)
      exact hvalues ▸ hdescribes.services.symm.map (·.2)
    refine ⟨hwf, document, hread, ?_, hservices, ?_, hdescribes.managementPorts.symm,
      hdescribes.serviceAccounts.symm⟩
    · rw [hservices.length_eq, NameTable.values, List.length_map]
    · refine hdescribes.instances.imp fun entry inst hmeans => ?_
      have hservice := hwf.services _ _ hmeans.service
      refine ⟨?_, (InstanceEntry.port?_eq_some_iff (Service.validate_eq_ok_iff.mp hservice)).mp
        hmeans.servicePort⟩
      exact ⟨(hwf.keyed _ _ hmeans.service).symm, hmeans.address.symm, hmeans.port.symm,
        hmeans.tag.symm⟩
  · intro catalog listing hwf hlists before text after hbefore hspells hafter
    rw [ofBytes_of_spells listing hbefore hspells hafter]
    exact ofDocument_eq_ok_iff.mpr (describes_of_lists hwf hlists)

/-- A catalog with one service and one instance of it. -/
def small : Catalog where
  services := .ofList [("reviews.default", ⟨"reviews", some "default", .ofList ["v1"],
    [⟨"http", 9080, .http⟩]⟩)]
  instances := [⟨⟨"10.0.0.1", 8080, ⟨"http", 9080, .http⟩⟩,
    ⟨"reviews", some "default", .ofList ["v1"], [⟨"http", 9080, .http⟩]⟩, some "v1"⟩]
  managementPorts := .ofList [("10.0.0.1", [⟨"health", 15020, .tcp⟩])]
  serviceAccounts := ∅

/-- A listing of it that leaves out the name of the port. -/
def smallListing : CatalogListing where
  services := [⟨"reviews", some "default", .ofList ["v1"], [⟨"http", 9080, .http⟩]⟩]
  instances := [⟨"reviews.default", "10.0.0.1", 8080, none, some "v1"⟩]
  managementPorts := [("10.0.0.1", [⟨"health", 15020, .tcp⟩])]
  serviceAccounts := []

/-- The catalog is read from the text of the listing without white space. -/
theorem small_exact :
    ofBytes (Text.bytes smallListing.toJson.compact) = .ok small ∧ small.WellFormed ∧
      ∃ document, CatalogDocument.record.read.document (Text.bytes smallListing.toJson.compact)
          = .ok document ∧ document.services.length = 1 := by
  have hlists : smallListing.Lists small :=
    { services := .refl _
      instances := .cons ⟨⟨by decide, rfl, rfl, rfl⟩, Or.inr ⟨rfl, rfl⟩⟩ .nil
      managementPorts := .refl _
      serviceAccounts := .refl _ }
  have hread := ofBytes_exact.2 small smallListing (by decide +kernel) hlists [] _ []
    Json.blank_nil (Json.spells_compact _) Json.blank_nil
  rw [List.nil_append, List.append_nil] at hread
  obtain ⟨hwf, document, hdocument, hlength, -⟩ := ofBytes_exact.1 _ _ hread
  exact ⟨hread, hwf, document, hdocument, hlength⟩

end Catalog

end MeshSidecar
