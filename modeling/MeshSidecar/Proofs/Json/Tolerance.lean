import MeshSidecar.Catalog.Document
import MeshSidecar.Mesh
import MeshSidecar.Proofs.Json.Layouts
import MeshSidecar.Proofs.Service.Document

/-!
# What the reader tolerates

Services, instances and the settings of the mesh are read from every document that holds them: with
any white space, with the fields in any order, with or without those that are as by default, and
with the tags in any order and repeated. Unknown fields are skipped in ports, services, endpoints
and instances, also where these stand in a catalog; the settings of the mesh, a catalog and its
listed instances refuse them. No record takes a known field twice (`read_tolerates`).

Each type has its `layout`, which tells what its fields hold and how that is written.
-/

namespace MeshSidecar

open Json Scan Reader

variable {α : Type}

-- ── Fields ──────────────────────────────────────────────────────────────────

namespace Slot

/-- A field that is a string. -/
def text (name : String) (required : Bool) (get : α → String) (set : String → α → α)
    (get_set : ∀ part value, get (set part value) = part) : Slot α where
  Part := String
  name := name
  required := required
  read := Reader.text
  get := get
  set := set
  Holds := Tree.HoldsText
  get_set := get_set
  isLocal := local_text
  outcome := text_outcome

/-- A field that is a string or absent. -/
def optionalText (name : String) (get : α → Option String) (set : Option String → α → α)
    (get_set : ∀ part value, get (set part value) = part) : Slot α where
  Part := Option String
  name := name
  required := false
  read := Reader.optional Reader.text
  get := get
  set := set
  Holds := Tree.HoldsOptionalText
  get_set := get_set
  isLocal := local_optional local_text
  outcome := optional_text_outcome

/-- A field that is a number of sixteen bits. -/
def word16 (name : String) (required : Bool) (get : α → UInt16) (set : UInt16 → α → α)
    (get_set : ∀ part value, get (set part value) = part) : Slot α where
  Part := UInt16
  name := name
  required := required
  read := Reader.word16
  get := get
  set := set
  Holds number := Tree.HoldsNatural number.toNat
  get_set := get_set
  isLocal := local_word16
  outcome := word16_outcome

/-- A field that is a number of 64 bits, and may be left out. -/
def word64 (name : String) (get : α → UInt64) (set : UInt64 → α → α)
    (get_set : ∀ part value, get (set part value) = part) : Slot α where
  Part := UInt64
  name := name
  required := false
  read := Reader.word64
  get := get
  set := set
  Holds number := Tree.HoldsNatural number.toNat
  get_set := get_set
  isLocal := local_word64
  outcome := word64_outcome

/-- A field that is a record of its own. -/
def nested {β : Type} {record : Record β} (layout : Layout record) (name : String)
    (get : α → β) (set : β → α → α) (get_set : ∀ part value, get (set part value) = part) :
    Slot α where
  Part := β
  name := name
  required := true
  read := record.read
  get := get
  set := set
  Holds := layout.Holds
  get_set := get_set
  isLocal := layout.isLocal.read
  outcome := Layout.outcome_of_holds

end Slot

-- ── Ports ───────────────────────────────────────────────────────────────────

/-- A protocol is read from its name. -/
theorem Protocol.outcome {protocol : Protocol} {tree : Tree}
    (h : Tree.HoldsText protocol.name tree) : Protocol.reader.outcome tree = .ok protocol := by
  obtain ⟨token, rfl, hspells⟩ := h
  exact outcome_of_reads (Protocol.reads protocol) (by rw [Tree.text]; exact .string hspells)

namespace Port

/-- The fields of a port, and what they hold. -/
def slots : List (Slot Port) :=
  [.text "name" false Port.name (fun name port => { port with name }) fun _ _ => rfl,
   .word16 "port" true Port.number (fun number port => { port with number }) fun _ _ => rfl,
   { Part := Protocol
     name := "protocol"
     required := false
     read := Protocol.reader
     get := Port.protocol
     set := fun protocol port => { port with protocol }
     Holds := fun protocol => Tree.HoldsText protocol.name
     get_set := fun _ _ => rfl
     isLocal := local_variant _
     outcome := Protocol.outcome }]

theorem independent_slots : slots.Pairwise Slot.Independent := by
  simp only [slots, List.pairwise_cons, List.forall_mem_cons, List.not_mem_nil, false_implies,
    implies_true, List.Pairwise.nil, and_true]
  and_intros <;> exact fun _ _ _ => ⟨rfl, rfl⟩

theorem eq_of_slots {a b : Port} (h : ∀ slot ∈ slots, slot.get a = slot.get b) : a = b := by
  simp only [slots, List.forall_mem_cons] at h
  obtain ⟨hname, hnumber, hprotocol, -⟩ := h
  cases a
  cases b
  exact (Port.mk.injEq ..).mpr ⟨hname, hnumber, hprotocol⟩

/-- What a port is made of. -/
def layout : Layout record where
  slots := slots
  fields_eq := rfl
  names_nodup := by decide
  independent := independent_slots
  ext := eq_of_slots

end Port

-- ── Services ────────────────────────────────────────────────────────────────

namespace Service

/-- The fields of a service, and what they hold. -/
def slots : List (Slot Service) :=
  [.text "name" true Service.name (fun name service => { service with name }) fun _ _ => rfl,
   .optionalText "namespace" Service.ns (fun ns service => { service with ns }) fun _ _ => rfl,
   { Part := NameSet
     name := "tags"
     required := false
     read := Reader.nameSet
     get := Service.tags
     set := fun tags service => { service with tags }
     Holds := Tree.HoldsNames
     get_set := fun _ _ => rfl
     isLocal := local_nameSet
     outcome := nameSet_outcome },
   { Part := PortList
     name := "ports"
     required := false
     read := PortList.reader
     get := Service.ports
     set := fun ports service => { service with ports }
     Holds := Tree.HoldsList Port.layout.Holds
     get_set := fun _ _ => rfl
     isLocal := local_listOf Port.layout.isLocal.read
     outcome := listOf_outcome Port.layout.isLocal.read Layout.outcome_of_holds }]

theorem independent_slots : slots.Pairwise Slot.Independent := by
  simp only [slots, List.pairwise_cons, List.forall_mem_cons, List.not_mem_nil, false_implies,
    implies_true, List.Pairwise.nil, and_true]
  and_intros <;> exact fun _ _ _ => ⟨rfl, rfl⟩

theorem eq_of_slots {a b : Service} (h : ∀ slot ∈ slots, slot.get a = slot.get b) : a = b := by
  simp only [slots, List.forall_mem_cons] at h
  obtain ⟨hname, hns, htags, hports, -⟩ := h
  cases a
  cases b
  exact (Service.mk.injEq ..).mpr ⟨hname, hns, htags, hports⟩

/-- What a service is made of. -/
def layout : Layout record where
  slots := slots
  fields_eq := rfl
  names_nodup := by decide
  independent := independent_slots
  ext := eq_of_slots

end Service

-- ── Instances ───────────────────────────────────────────────────────────────

namespace Endpoint

/-- The fields of an endpoint, and what they hold. -/
def slots : List (Slot Endpoint) :=
  [.text "address" true Endpoint.address
     (fun address endpoint => { endpoint with address }) fun _ _ => rfl,
   .word16 "port" true Endpoint.port (fun port endpoint => { endpoint with port }) fun _ _ => rfl,
   .nested Port.layout "servicePort" Endpoint.servicePort
     (fun servicePort endpoint => { endpoint with servicePort }) fun _ _ => rfl]

theorem independent_slots : slots.Pairwise Slot.Independent := by
  simp only [slots, List.pairwise_cons, List.forall_mem_cons, List.not_mem_nil, false_implies,
    implies_true, List.Pairwise.nil, and_true]
  and_intros <;> exact fun _ _ _ => ⟨rfl, rfl⟩

theorem eq_of_slots {a b : Endpoint} (h : ∀ slot ∈ slots, slot.get a = slot.get b) : a = b := by
  simp only [slots, List.forall_mem_cons] at h
  obtain ⟨haddress, hport, hservicePort, -⟩ := h
  cases a
  cases b
  exact (Endpoint.mk.injEq ..).mpr ⟨haddress, hport, hservicePort⟩

/-- What an endpoint is made of. -/
def layout : Layout record where
  slots := slots
  fields_eq := rfl
  names_nodup := by decide
  independent := independent_slots
  ext := eq_of_slots

end Endpoint

namespace Instance

/-- The fields of an instance, and what they hold. -/
def slots : List (Slot Instance) :=
  [.nested Endpoint.layout "endpoint" Instance.endpoint
     (fun endpoint inst => { inst with endpoint }) fun _ _ => rfl,
   .nested Service.layout "service" Instance.service
     (fun service inst => { inst with service }) fun _ _ => rfl,
   .optionalText "tag" Instance.tag (fun tag inst => { inst with tag }) fun _ _ => rfl]

theorem independent_slots : slots.Pairwise Slot.Independent := by
  simp only [slots, List.pairwise_cons, List.forall_mem_cons, List.not_mem_nil, false_implies,
    implies_true, List.Pairwise.nil, and_true]
  and_intros <;> exact fun _ _ _ => ⟨rfl, rfl⟩

theorem eq_of_slots {a b : Instance} (h : ∀ slot ∈ slots, slot.get a = slot.get b) : a = b := by
  simp only [slots, List.forall_mem_cons] at h
  obtain ⟨hendpoint, hservice, htag, -⟩ := h
  cases a
  cases b
  exact (Instance.mk.injEq ..).mpr ⟨hendpoint, hservice, htag⟩

/-- What an instance is made of. -/
def layout : Layout record where
  slots := slots
  fields_eq := rfl
  names_nodup := by decide
  independent := independent_slots
  ext := eq_of_slots

end Instance

-- ── Settings of the mesh ────────────────────────────────────────────────────

namespace MeshSettings

/-- The fields of the settings of the mesh, and what they hold. -/
def slots : List (Slot MeshSettings) :=
  [.word16 "proxyListenPort" false MeshSettings.listenPort
     (fun listenPort mesh => { mesh with listenPort }) fun _ _ => rfl,
   .word16 "proxyAdminPort" false MeshSettings.adminPort
     (fun adminPort mesh => { mesh with adminPort }) fun _ _ => rfl,
   .text "discoveryAddress" false MeshSettings.discoveryAddress
     (fun discoveryAddress mesh => { mesh with discoveryAddress }) fun _ _ => rfl,
   .word64 "connectTimeoutMs" MeshSettings.connectTimeoutMs
     (fun connectTimeoutMs mesh => { mesh with connectTimeoutMs }) fun _ _ => rfl,
   .word64 "drainDurationSecs" MeshSettings.drainSecs
     (fun drainSecs mesh => { mesh with drainSecs }) fun _ _ => rfl,
   .word64 "parentShutdownDurationSecs" MeshSettings.parentShutdownSecs
     (fun parentShutdownSecs mesh => { mesh with parentShutdownSecs }) fun _ _ => rfl,
   .text "serviceCluster" false MeshSettings.serviceCluster
     (fun serviceCluster mesh => { mesh with serviceCluster }) fun _ _ => rfl]

theorem independent_slots : slots.Pairwise Slot.Independent := by
  simp only [slots, List.pairwise_cons, List.forall_mem_cons, List.not_mem_nil, false_implies,
    implies_true, List.Pairwise.nil, and_true]
  and_intros <;> exact fun _ _ _ => ⟨rfl, rfl⟩

theorem eq_of_slots {a b : MeshSettings} (h : ∀ slot ∈ slots, slot.get a = slot.get b) : a = b := by
  simp only [slots, List.forall_mem_cons] at h
  obtain ⟨hlisten, hadmin, hdiscovery, hconnect, hdrain, hshutdown, hcluster, -⟩ := h
  cases a
  cases b
  exact (MeshSettings.mk.injEq ..).mpr
    ⟨hlisten, hadmin, hdiscovery, hconnect, hdrain, hshutdown, hcluster⟩

/-- What the settings of the mesh are made of. -/
def layout : Layout record where
  slots := slots
  fields_eq := rfl
  names_nodup := by decide
  independent := independent_slots
  ext := eq_of_slots

/-- The settings by default, overridden by some fields of other settings. -/
def overriding (mesh : MeshSettings) (names : List String) : MeshSettings where
  listenPort := if "proxyListenPort" ∈ names then mesh.listenPort else 15001
  adminPort := if "proxyAdminPort" ∈ names then mesh.adminPort else 15000
  discoveryAddress :=
    if "discoveryAddress" ∈ names then mesh.discoveryAddress else "istio-pilot:8080"
  connectTimeoutMs := if "connectTimeoutMs" ∈ names then mesh.connectTimeoutMs else 1000
  drainSecs := if "drainDurationSecs" ∈ names then mesh.drainSecs else 2
  parentShutdownSecs :=
    if "parentShutdownDurationSecs" ∈ names then mesh.parentShutdownSecs else 3
  serviceCluster := if "serviceCluster" ∈ names then mesh.serviceCluster else "istio-proxy"

/-- The fields that are written override the settings by default. -/
theorem overridden_eq_overriding {chosen : List (Slot MeshSettings)}
    (hchosen : ∀ slot ∈ chosen, slot ∈ layout.slots) (mesh : MeshSettings) :
    Layout.overridden chosen mesh record.blank = mesh.overriding (chosen.map Slot.name) := by
  refine layout.ext fun slot hslot => ?_
  rw [Layout.get_overridden hchosen hslot]
  simp only [layout, slots, List.mem_cons, List.not_mem_nil, or_false] at hslot
  rcases hslot with rfl | rfl | rfl | rfl | rfl | rfl | rfl <;> rfl

end MeshSettings

-- ── Catalogs ────────────────────────────────────────────────────────────────

namespace Record

theorem local_instanceEntry : InstanceEntry.record.Local := by
  simp only [Local, InstanceEntry.record, List.forall_mem_cons, List.not_mem_nil, false_implies,
    implies_true, and_true]
  exact ⟨local_mandatory local_text _ _, local_mandatory local_text _ _,
    local_mandatory local_word16 _ _, local_defaulted (local_optional local_text) _ _,
    local_defaulted (local_optional local_text) _ _⟩

theorem local_catalogDocument : CatalogDocument.record.Local := by
  simp only [Local, CatalogDocument.record, List.forall_mem_cons, List.not_mem_nil, false_implies,
    implies_true, and_true]
  exact ⟨local_defaulted (local_listOf Service.layout.isLocal.read) _ _,
    local_defaulted (local_listOf local_instanceEntry.read) _ _,
    local_defaulted (local_tableOf (local_listOf Port.layout.isLocal.read)) _ _,
    local_defaulted (local_tableOf (local_listOf local_text)) _ _⟩

end Record

-- ── Where the objects stand ─────────────────────────────────────────────────

section

variable {key : StringToken} (before after : List (StringToken × Tree)) (items more : List Tree)

/-- A port stands in the ports of a service. -/
theorem Service.standsIn_ports (hkey : key.Spells "ports") :
    StandsIn Port.record.read record.read fun tree =>
      .object (before ++ (key, .array (items ++ tree :: more)) :: after) :=
  .field layout.isLocal rfl hkey before after
    (.defaulted (.item items more .here) _ _)

/-- A port stands in an endpoint. -/
theorem Endpoint.standsIn_servicePort (hkey : key.Spells "servicePort") :
    StandsIn Port.record.read record.read fun tree => .object (before ++ (key, tree) :: after) :=
  .field layout.isLocal rfl hkey before after (.mandatory .here _ _)

/-- An endpoint stands in an instance. -/
theorem Instance.standsIn_endpoint (hkey : key.Spells "endpoint") :
    StandsIn Endpoint.record.read record.read fun tree =>
      .object (before ++ (key, tree) :: after) :=
  .field layout.isLocal rfl hkey before after (.mandatory .here _ _)

/-- A service stands in an instance. -/
theorem Instance.standsIn_service (hkey : key.Spells "service") :
    StandsIn Service.record.read record.read fun tree =>
      .object (before ++ (key, tree) :: after) :=
  .field layout.isLocal rfl hkey before after (.mandatory .here _ _)

/-- A service stands in the services of a catalog. -/
theorem CatalogDocument.standsIn_services (hkey : key.Spells "services") :
    StandsIn Service.record.read record.read fun tree =>
      .object (before ++ (key, .array (items ++ tree :: more)) :: after) :=
  .field Record.local_catalogDocument rfl hkey before after
    (.defaulted (.item items more .here) _ _)

/-- A listed instance stands in the instances of a catalog. -/
theorem CatalogDocument.standsIn_instances (hkey : key.Spells "instances") :
    StandsIn InstanceEntry.record.read record.read fun tree =>
      .object (before ++ (key, .array (items ++ tree :: more)) :: after) :=
  .field Record.local_catalogDocument rfl hkey before after
    (.defaulted (.item items more .here) _ _)

end

-- ── Documents with unknown fields ───────────────────────────────────────────

/-- One more unknown field at one object of a port, a service, an endpoint or an instance. -/
inductive InsertsUnknown (outer : Reader α) (a b : Tree) : Prop where
  | port (h : Port.record.Inserts outer a b)
  | service (h : Service.record.Inserts outer a b)
  | endpoint (h : Endpoint.record.Inserts outer a b)
  | inst (h : Instance.record.Inserts outer a b)

/-- It changes nothing. -/
theorem InsertsUnknown.document_eq {outer : Reader α} {a b : Tree} (h : InsertsUnknown outer a b)
    {x y : Bytes} (hx : a.WrittenIn x) (hy : b.WrittenIn y) :
    outer.document y = outer.document x := by
  cases h with
  | port h => exact h.document_eq Port.layout.isLocal rfl hx hy
  | service h => exact h.document_eq Service.layout.isLocal rfl hx hy
  | endpoint h => exact h.document_eq Endpoint.layout.isLocal rfl hx hy
  | inst h => exact h.document_eq Instance.layout.isLocal rfl hx hy

/-- One or more of them change nothing. -/
theorem document_eq_of_insertions {outer : Reader α} {a b : Tree}
    (h : Relation.TransGen (InsertsUnknown outer) a b) {x y : Bytes} (hx : a.WrittenIn x)
    (hy : b.WrittenIn y) : outer.document y = outer.document x := by
  induction h generalizing y with
  | single hfirst => exact hfirst.document_eq hx hy
  | @tail middle last _ hlast ih =>
      have hmiddle : middle.WrittenIn middle.text := middle.writtenIn_text
      rw [hlast.document_eq hmiddle hy, ih hmiddle]

/-- What the reader tolerates. Every document that holds a service, an instance or the settings of
    the mesh is read as these, whatever white space it has, in whatever order its fields and tags
    stand, however often tags are repeated, and whichever fields it leaves out that are as by
    default. Fields of unknown names that are inserted at objects of ports, services, endpoints and
    instances change nothing, whatever they hold and however deep in a document these objects stand;
    one at an object of the settings of the mesh, of a catalog or of an instance that it lists makes
    the document fail, and so does a known field that any of these objects has twice. So of a
    document that has some of the settings of the mesh, the settings by default are read, overridden
    by exactly these. -/
theorem read_tolerates :
    (∀ (service : Service) (tree : Tree) (document : Bytes), Service.layout.Holds service tree →
      tree.WrittenIn document → Service.record.read.document document = .ok service) ∧
    (∀ (inst : Instance) (tree : Tree) (document : Bytes), Instance.layout.Holds inst tree →
      tree.WrittenIn document → Instance.record.read.document document = .ok inst) ∧
    (∀ (mesh : MeshSettings) (tree : Tree) (document : Bytes), MeshSettings.layout.Holds mesh tree →
      tree.WrittenIn document → MeshSettings.ofBytes document = .ok mesh) ∧
    (∀ {α : Type} (outer : Reader α) (a b : Tree) (x y : Bytes),
      Relation.TransGen (InsertsUnknown outer) a b → a.WrittenIn x → b.WrittenIn y →
      outer.document y = outer.document x) ∧
    (MeshSettings.record.RefusesUnknown ∧ CatalogDocument.record.RefusesUnknown ∧
      InstanceEntry.record.RefusesUnknown) ∧
    (Service.record.RefusesRepeated ∧ Port.record.RefusesRepeated ∧
      Endpoint.record.RefusesRepeated ∧ Instance.record.RefusesRepeated ∧
      MeshSettings.record.RefusesRepeated ∧ CatalogDocument.record.RefusesRepeated ∧
      InstanceEntry.record.RefusesRepeated) ∧
    (∀ (mesh : MeshSettings) (chosen : List (Slot MeshSettings))
      (members : List (StringToken × Tree)) (document : Bytes),
      MeshSettings.layout.HoldsFields chosen mesh members →
      (Tree.object members).WrittenIn document →
      MeshSettings.ofBytes document = .ok (mesh.overriding (chosen.map Slot.name))) := by
  refine ⟨?_, ?_, ?_, ?_, ⟨?_, ?_, ?_⟩, ⟨?_, ?_, ?_, ?_, ?_, ?_, ?_⟩, ?_⟩
  · intro service tree document hholds hdocument
    rw [Service.layout.isLocal.read.document hdocument, Layout.outcome_of_holds hholds]
  · intro inst tree document hholds hdocument
    rw [Instance.layout.isLocal.read.document hdocument, Layout.outcome_of_holds hholds]
  · intro mesh tree document hholds hdocument
    rw [MeshSettings.ofBytes, MeshSettings.layout.isLocal.read.document hdocument,
      Layout.outcome_of_holds hholds]
  · intro α outer a b x y h hx hy
    exact document_eq_of_insertions h hx hy
  · exact Record.refusesUnknown MeshSettings.layout.isLocal rfl
  · exact Record.refusesUnknown Record.local_catalogDocument rfl
  · exact Record.refusesUnknown Record.local_instanceEntry rfl
  · exact Record.refusesRepeated Service.layout.isLocal
  · exact Record.refusesRepeated Port.layout.isLocal
  · exact Record.refusesRepeated Endpoint.layout.isLocal
  · exact Record.refusesRepeated Instance.layout.isLocal
  · exact Record.refusesRepeated MeshSettings.layout.isLocal
  · exact Record.refusesRepeated Record.local_catalogDocument
  · exact Record.refusesRepeated Record.local_instanceEntry
  · intro mesh chosen members document hfields hdocument
    rw [MeshSettings.ofBytes, MeshSettings.layout.isLocal.read.document hdocument,
      Layout.outcome_of_holdsFields hfields,
      MeshSettings.overridden_eq_overriding hfields.known]

-- ── One document ────────────────────────────────────────────────────────────

namespace Reviews

/-- A port with some fields between its own, and without a name. -/
def portWith (more : List (StringToken × Tree)) : Tree :=
  .object ((.ofString "protocol", .string (.ofString "HTTP")) ::
    (more ++ [(.ofString "port", .number (.ofNat 9080))]))

/-- A service with a port, whose tags are out of order and repeated, and without a namespace. -/
def serviceWith (port : Tree) : Tree :=
  .object
    [(.ofString "ports", .array [port]),
     (.ofString "tags", .array
       [.string (.ofString "v2"), .string (.ofString "v1"), .string (.ofString "v2")]),
     (.ofString "name", .string (.ofString "reviews"))]

/-- An instance with a port of its endpoint and one of its service, and without a tag. -/
def instanceWith (servicePort port : Tree) : Tree :=
  .object
    [(.ofString "service", serviceWith port),
     (.ofString "endpoint", .object
       [(.ofString "servicePort", servicePort),
        (.ofString "address", .string (.ofString "10.0.0.1")),
        (.ofString "port", .number (.ofNat 9080))])]

/-- The instance that is meant. -/
def inst : Instance where
  endpoint := ⟨"10.0.0.1", 9080, ⟨"", 9080, .http⟩⟩
  service := ⟨"reviews", none, .ofList ["v1", "v2"], [⟨"", 9080, .http⟩]⟩
  tag := none

theorem holds_port : Port.layout.Holds ⟨"", 9080, .http⟩ (portWith []) := by
  refine ⟨[Port.slots.get (2 : Fin 3), Port.slots.get (1 : Fin 3)], _, rfl,
    ⟨?_, by decide, by decide, ?_⟩, ?_⟩
  · intro slot hslot
    simp only [List.mem_cons, List.not_mem_nil, or_false] at hslot
    rcases hslot with rfl | rfl <;> exact List.get_mem _ _
  · exact .cons ⟨StringToken.spells_ofString _, _, rfl, StringToken.spells_ofString _⟩
      (.cons ⟨StringToken.spells_ofString _, _, rfl, NumberToken.text_ofNat _⟩ .nil)
  · intro slot hslot hne
    simp only [Port.layout, Port.slots, List.mem_cons, List.not_mem_nil, or_false] at hslot
    rcases hslot with rfl | rfl | rfl
    · rfl
    · exact absurd (by decide) hne
    · exact absurd (by decide) hne

theorem holds_service : Service.layout.Holds inst.service (serviceWith (portWith [])) := by
  refine ⟨[Service.slots.get (3 : Fin 4), Service.slots.get (2 : Fin 4),
    Service.slots.get (0 : Fin 4)], _, rfl, ⟨?_, by decide, by decide, ?_⟩, ?_⟩
  · intro slot hslot
    simp only [List.mem_cons, List.not_mem_nil, or_false] at hslot
    rcases hslot with rfl | rfl | rfl <;> exact List.get_mem _ _
  · refine .cons ⟨StringToken.spells_ofString _, [portWith []], rfl, .cons holds_port .nil⟩
      (.cons ⟨StringToken.spells_ofString _, ["v2", "v1", "v2"], ⟨_, rfl, ?_⟩, ?_⟩
        (.cons ⟨StringToken.spells_ofString _, _, rfl, StringToken.spells_ofString _⟩ .nil))
    · exact .cons ⟨_, rfl, StringToken.spells_ofString _⟩
        (.cons ⟨_, rfl, StringToken.spells_ofString _⟩
          (.cons ⟨_, rfl, StringToken.spells_ofString _⟩ .nil))
    · intro name
      show _ ↔ (NameSet.ofList ["v1", "v2"]).contains name = true
      rw [← NameSet.mem_toList_iff, NameSet.ofList, NameSet.mem_toList_insertAll]
      have hempty : name ∉ NameSet.empty.toList := List.not_mem_nil
      simp only [List.mem_cons, List.not_mem_nil, or_false, hempty, false_or]
      tauto
  · intro slot hslot hne
    simp only [Service.layout, Service.slots, List.mem_cons, List.not_mem_nil, or_false] at hslot
    rcases hslot with rfl | rfl | rfl | rfl
    · exact absurd (by decide) hne
    · rfl
    · exact absurd (by decide) hne
    · exact absurd (by decide) hne

theorem holds_endpoint : Endpoint.layout.Holds inst.endpoint
    (.object
      [(.ofString "servicePort", portWith []),
       (.ofString "address", .string (.ofString "10.0.0.1")),
       (.ofString "port", .number (.ofNat 9080))]) := by
  refine ⟨[Endpoint.slots.get (2 : Fin 3), Endpoint.slots.get (0 : Fin 3),
    Endpoint.slots.get (1 : Fin 3)], _, rfl, ⟨?_, by decide, by decide, ?_⟩, ?_⟩
  · intro slot hslot
    simp only [List.mem_cons, List.not_mem_nil, or_false] at hslot
    rcases hslot with rfl | rfl | rfl <;> exact List.get_mem _ _
  · exact .cons ⟨StringToken.spells_ofString _, holds_port⟩
      (.cons ⟨StringToken.spells_ofString _, _, rfl, StringToken.spells_ofString _⟩
        (.cons ⟨StringToken.spells_ofString _, _, rfl, NumberToken.text_ofNat _⟩ .nil))
  · intro slot hslot hne
    simp only [Endpoint.layout, Endpoint.slots, List.mem_cons, List.not_mem_nil, or_false] at hslot
    rcases hslot with rfl | rfl | rfl <;> exact absurd (by decide) hne

theorem holds_instance :
    Instance.layout.Holds inst (instanceWith (portWith []) (portWith [])) := by
  refine ⟨[Instance.slots.get (1 : Fin 3), Instance.slots.get (0 : Fin 3)], _, rfl,
    ⟨?_, by decide, by decide, ?_⟩, ?_⟩
  · intro slot hslot
    simp only [List.mem_cons, List.not_mem_nil, or_false] at hslot
    rcases hslot with rfl | rfl <;> exact List.get_mem _ _
  · exact .cons ⟨StringToken.spells_ofString _, holds_service⟩
      (.cons ⟨StringToken.spells_ofString _, holds_endpoint⟩ .nil)
  · intro slot hslot hne
    simp only [Instance.layout, Instance.slots, List.mem_cons, List.not_mem_nil, or_false] at hslot
    rcases hslot with rfl | rfl | rfl
    · exact absurd (by decide) hne
    · exact absurd (by decide) hne
    · rfl

/-- A number with a sign, a fraction and an exponent, under a name that no port knows. -/
def weight : StringToken × Tree :=
  (.ofString "weight", .number
    { negative := true
      whole := .ofNat 1
      fraction := some (.ofNat 5)
      exponent := some ⟨0x65, [plus], .ofNat 3, rfl, .inr (.inl rfl)⟩
      noLeadingZero := by decide })

/-- A string that stands for no text, in an array with an empty object, under such a name. -/
def note : StringToken × Tree :=
  (.ofString "note", .array
    [.string ⟨[backslash, letterU, 0x64, 0x38, 0x30, 0x30, quote], .unit rfl .close⟩, .object []])

/-- Both are inserted, one after the other. -/
theorem insertions : Relation.TransGen (InsertsUnknown Instance.record.read)
    (instanceWith (portWith []) (portWith []))
    (instanceWith (portWith [weight]) (portWith [note])) := by
  have hservicePort : StandsIn Port.record.read Instance.record.read fun tree =>
      instanceWith tree (portWith []) :=
    (Instance.standsIn_endpoint [_] [] (StringToken.spells_ofString "endpoint")).trans
      (Endpoint.standsIn_servicePort [] _ (StringToken.spells_ofString "servicePort"))
  have hport : StandsIn Port.record.read Instance.record.read fun tree =>
      instanceWith (portWith [weight]) tree :=
    (Instance.standsIn_service [] [_] (StringToken.spells_ofString "service")).trans
      (Service.standsIn_ports [] _ [] [] (StringToken.spells_ofString "ports"))
  have hweight : Port.record.Inserts Instance.record.read
      (instanceWith (portWith []) (portWith [])) (instanceWith (portWith [weight]) (portWith [])) :=
    .intro hservicePort (StringToken.spells_ofString "weight") (by decide) weight.2 [_] [_]
  have hnote : Port.record.Inserts Instance.record.read
      (instanceWith (portWith [weight]) (portWith []))
      (instanceWith (portWith [weight]) (portWith [note])) :=
    .intro hport (StringToken.spells_ofString "note") (by decide) note.2 [_] [_]
  exact .tail (.single (.port hweight)) (.port hnote)

/-- What it says of the reader: the instance is read from a document with its fields out of order
    and unknown ones at two places; a document with one of the settings of the mesh leaves the
    others as by default; a catalog may neither list an instance with a field of an unknown name nor
    a service with a port that has two numbers. -/
theorem read_tolerates_reviews :
    Instance.record.read.document (instanceWith (portWith [weight]) (portWith [note])).text =
      .ok inst ∧
    MeshSettings.ofBytes
        (Tree.object [(.ofString "drainDurationSecs", .number (.ofNat 7))]).text =
      .ok { drainSecs := 7 } ∧
    Fails (CatalogDocument.record.read.document (Tree.object [(.ofString "instances", .array
      [.object
        [(.ofString "service", .string (.ofString "reviews")),
         (.ofString "address", .string (.ofString "10.0.0.1")),
         (.ofString "zone", .null),
         (.ofString "port", .number (.ofNat 9080))]])]).text) ∧
    Fails (CatalogDocument.record.read.document (Tree.object [(.ofString "services", .array
      [serviceWith (portWith [(.ofString "port", .number (.ofNat 80))])])]).text) := by
  obtain ⟨-, hinstance, -, hskip, ⟨-, -, hunknown⟩, ⟨-, hrepeated, -⟩, hsubset⟩ := read_tolerates
  refine ⟨?_, ?_, ?_, ?_⟩
  · rw [hskip Instance.record.read _ _ _ _ insertions (Tree.writtenIn_text _)
      (Tree.writtenIn_text _)]
    exact hinstance inst _ _ holds_instance (Tree.writtenIn_text _)
  · have hfields : MeshSettings.layout.HoldsFields
        [MeshSettings.slots.get (4 : Fin 7)] { drainSecs := 7 }
        [(.ofString "drainDurationSecs", .number (.ofNat 7))] := by
      refine ⟨?_, by decide, by decide, ?_⟩
      · exact List.forall_mem_singleton.mpr (List.get_mem _ _)
      · exact .cons ⟨StringToken.spells_ofString _, _, rfl, NumberToken.text_ofNat _⟩ .nil
    exact hsubset _ _ _ _ hfields (Tree.writtenIn_text _)
  · have hplace : StandsIn InstanceEntry.record.read CatalogDocument.record.read fun tree =>
        .object [(.ofString "instances", .array [tree])] :=
      CatalogDocument.standsIn_instances [] [] [] [] (StringToken.spells_ofString "instances")
    exact hunknown (.intro hplace (StringToken.spells_ofString "zone") (by decide) .null
      [_, _] [_]) (Tree.writtenIn_text _)
  · have hplace : StandsIn Port.record.read CatalogDocument.record.read fun tree =>
        .object [(.ofString "services", .array [serviceWith tree])] :=
      (CatalogDocument.standsIn_services [] [] [] [] (StringToken.spells_ofString "services")).trans
        (Service.standsIn_ports [] _ [] [] (StringToken.spells_ofString "ports"))
    exact hrepeated hplace (by decide) (StringToken.spells_ofString "port")
      (StringToken.spells_ofString "port") _ _ [_] [] [] (Tree.writtenIn_text _)

end Reviews

end MeshSidecar
