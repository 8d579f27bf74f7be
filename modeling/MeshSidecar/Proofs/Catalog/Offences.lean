import MeshSidecar.Proofs.Catalog.Listing
import MeshSidecar.Proofs.Lists.Places
import MeshSidecar.Proofs.Service.Display
import MeshSidecar.Proofs.Service.Problems

/-!
# Why a document is no catalog

A document that is no catalog is refused for its first offence (`Catalog.refused_iff_firstOffence`).
The services come before the entries. A service offends if anything is wrong with it, or else if its
host name was listed before (`Service.OffendsAfter`); an entry offends if its service is not listed,
or else if it means no port of the service, or else by its tag (`InstanceEntry.Offends`).

When an entry is looked at, its service is known to be well-formed and its port was taken from that
very service. So of all that may be wrong with an instance only its tag is ever told.
-/

namespace MeshSidecar

-- ── What may be held against services and entries ───────────────────────────

/-- What is held against a service that is listed after others: all that is wrong with it, or else
    that its host name is taken. -/
inductive Service.OffendsAfter (earlier : List Service) (service : Service) :
    CatalogError → Prop where
  | invalid (hfaults : service.faults ≠ []) :
      OffendsAfter earlier service (.invalidService ⟨service.hostname, service.faults⟩)
  | duplicate {other : Service} (hfaults : service.faults = []) (hother : other ∈ earlier)
      (hhostname : other.hostname = service.hostname) :
      OffendsAfter earlier service (.duplicateService service.hostname)

/-- What is wrong with a tag, where the service has some tags. An empty tag counts as none. -/
inductive TagOffends (tags : NameSet) (tag : Option String) : InstanceFlaw → Prop where
  | missing (htags : tags.toList ≠ []) (htag : tag = none ∨ tag = some "") :
      TagOffends tags tag .missingTag
  | unexpected {name : String} (htags : tags.toList = []) (htag : tag = some name)
      (hne : name ≠ "") : TagOffends tags tag (.unexpectedTag name)
  | unknown {name : String} (htags : tags.toList ≠ []) (htag : tag = some name) (hne : name ≠ "")
      (hunknown : name ∉ tags.toList) : TagOffends tags tag (.unknownTag name)

namespace InstanceEntry

/-- An entry means no port of a service: none has the name, or there is no name and not exactly one
    port. -/
def MissesPort (entry : InstanceEntry) (service : Service) : Prop :=
  match entry.portName with
  | some name => ∀ port ∈ service.ports, port.name ≠ name
  | none => service.ports.length ≠ 1

/-- What is held against an entry, where some services are listed. -/
inductive Offends (services : List Service) (entry : InstanceEntry) : CatalogError → Prop where
  | unknownService (hunknown : ∀ service ∈ services, service.hostname ≠ entry.service) :
      Offends services entry (.unknownService entry.address entry.service)
  | unknownPort {service : Service} (hservice : service ∈ services)
      (hhostname : service.hostname = entry.service) (hport : entry.MissesPort service) :
      Offends services entry
        (.unknownPort entry.address entry.service (entry.portName.getD ""))
  | tag {service : Service} {flaw : InstanceFlaw} (hservice : service ∈ services)
      (hhostname : service.hostname = entry.service) (hport : ¬ entry.MissesPort service)
      (htag : TagOffends service.tags entry.tag flaw) :
      Offends services entry (.invalidInstance ⟨entry.address, entry.service, flaw⟩)

end InstanceEntry

/-- The first offence of a document: that of the first service that offends, or else that of the
    first entry. -/
def CatalogDocument.FirstOffence (document : CatalogDocument) (offence : CatalogError) : Prop :=
  FirstHeld Service.OffendsAfter document.services offence ∨
    Unheld Service.OffendsAfter document.services ∧
      FirstHeld (fun _ => InstanceEntry.Offends document.services) document.instances offence

-- ── Services ────────────────────────────────────────────────────────────────

namespace Service

/-- A service is accepted without faults, and refused for all of them. -/
theorem validate_cases (service : Service) :
    (service.faults = [] ∧ service.validate = .ok ()) ∨
      (service.faults ≠ [] ∧ service.validate = .error ⟨service.hostname, service.faults⟩) := by
  by_cases hfaults : service.faults = []
  · have hproblems := (problems_eq_faults service).trans hfaults
    exact Or.inl ⟨hfaults, validate_eq_ok_iff_problems.mpr hproblems⟩
  · refine Or.inr ⟨hfaults, validate_eq_error_iff.mpr ⟨fun hwell => hfaults ?_, ?_⟩⟩
    · rw [← problems_eq_faults]
      exact validate_eq_ok_iff_problems.mp (validate_eq_ok_iff.mpr hwell)
    · rw [problems_eq_faults]

section

variable {earlier : List Service} {service : Service} {offence : CatalogError}

/-- Against a service with faults nothing else is held. -/
theorem offendsAfter_iff_of_faults (hfaults : service.faults ≠ []) :
    service.OffendsAfter earlier offence ↔
      offence = .invalidService ⟨service.hostname, service.faults⟩ := by
  constructor
  · intro h
    cases h with
    | invalid _ => rfl
    | duplicate hnil _ _ => exact absurd hnil hfaults
  · rintro rfl
    exact .invalid hfaults

/-- Against one without faults it is held that its host name is taken, if it is. -/
theorem offendsAfter_iff_of_sound (hfaults : service.faults = []) :
    service.OffendsAfter earlier offence ↔
      (∃ other ∈ earlier, other.hostname = service.hostname) ∧
        offence = .duplicateService service.hostname := by
  constructor
  · intro h
    cases h with
    | invalid hne => exact absurd hfaults hne
    | duplicate _ hother hhostname => exact ⟨⟨_, hother, hhostname⟩, rfl⟩
  · rintro ⟨⟨other, hother, hhostname⟩, rfl⟩
    exact .duplicate hfaults hother hhostname

end

end Service

namespace Catalog

/-- Services are added to the ones that are stored, or refused for the first offence. -/
theorem addServices_eq_error_iff {table : NameTable Service} {earlier services : List Service}
    {offence : CatalogError}
    (htable : ∀ hostname, table.get? hostname ≠ none ↔
      ∃ service ∈ earlier, service.hostname = hostname) :
    addServices table services = .error offence ↔
      FirstHeld (fun before => Service.OffendsAfter (earlier ++ before)) services offence := by
  -- on the services, while those before them move into the table
  induction services generalizing table earlier with
  | nil => exact iff_of_false (fun h => by cases h) not_firstHeld_nil
  | cons service rest ih =>
      have hfirst : ∀ other, service.OffendsAfter (earlier ++ []) other ↔
          service.OffendsAfter earlier other := fun other => by rw [List.append_nil]
      rw [addServices]
      rcases service.validate_cases with ⟨hfaults, hvalid⟩ | ⟨hfaults, hinvalid⟩
      · simp only [hvalid]
        cases hfind : table.get? service.hostname with
        | some old =>
            have htaken := (htable service.hostname).mp (by simp [hfind])
            rw [firstHeld_cons_of_iff fun other => (hfirst other).trans
              ((Service.offendsAfter_iff_of_sound hfaults).trans (and_iff_right htaken))]
            dsimp only
            rw [Except.error.injEq, eq_comm]
        | none =>
            have hfree : ∀ other, ¬ service.OffendsAfter (earlier ++ []) other := by
              intro other h
              rw [hfirst, Service.offendsAfter_iff_of_sound hfaults, ← htable] at h
              exact h.1 hfind
            have hnext : ∀ hostname,
                (table.insert service.hostname service).get? hostname ≠ none ↔
                  ∃ stored ∈ earlier ++ [service], stored.hostname = hostname := by
              intro hostname
              rw [NameTable.get?_insert]
              by_cases heq : service.hostname = hostname
              · rw [if_pos heq]
                exact iff_of_true (by simp) ⟨service, by simp, heq⟩
              · rw [if_neg heq, htable]
                simp [or_and_right, exists_or, heq]
            rw [firstHeld_cons_of_forall_not hfree]
            show addServices _ rest = .error offence ↔ _
            rw [ih hnext]
            simp only [List.append_assoc, List.singleton_append]
      · rw [firstHeld_cons_of_iff fun other => (hfirst other).trans
          (Service.offendsAfter_iff_of_faults hfaults)]
        simp only [hinvalid]
        rw [Except.error.injEq, eq_comm]

-- ── Entries ─────────────────────────────────────────────────────────────────

/-- An entry means no port exactly if none is found for it. -/
theorem port?_eq_none_iff {entry : InstanceEntry} {service : Service} :
    entry.port? service = none ↔ entry.MissesPort service := by
  rw [InstanceEntry.port?, InstanceEntry.MissesPort]
  cases entry.portName with
  | some name =>
      show PortList.get? service.ports name = none ↔ ∀ port ∈ service.ports, port.name ≠ name
      rw [PortList.get?, List.find?_eq_none]
      simp only [decide_eq_true_eq, ne_eq]
  | none =>
      rcases service.ports with _ | ⟨port, _ | ⟨second, rest⟩⟩
      · exact iff_of_true rfl (by simp)
      · exact iff_of_false (fun h => by cases h) fun h => h rfl
      · exact iff_of_true rfl (by simp)

/-- A port that is found for an entry is one of the service. -/
theorem mem_of_port? {entry : InstanceEntry} {service : Service} {port : Port}
    (h : entry.port? service = some port) : port ∈ service.ports := by
  rw [InstanceEntry.port?] at h
  cases hname : entry.portName with
  | some name =>
      rw [hname] at h
      exact List.mem_of_find?_eq_some h
  | none =>
      simp only [hname] at h
      split at h
      · rename_i hports
        obtain rfl := Option.some.inj h
        rw [hports]
        exact List.mem_singleton_self _
      · cases h

/-- Of an instance whose service is accepted and declares its port, only the tag can be wrong. -/
theorem flaw_eq_some_iff_tag {inst : Instance} {flaw : InstanceFlaw}
    (hvalid : inst.service.validate = .ok ())
    (hport : inst.endpoint.servicePort ∈ inst.service.ports) :
    inst.flaw = some flaw ↔ TagOffends inst.service.tags inst.tag flaw := by
  rw [Instance.flaw_eq_some_iff]
  constructor
  · intro h
    cases h with
    | service hinvalid => exact nomatch hvalid.symm.trans hinvalid
    | missingTag _ htags htag => exact .missing htags htag
    | unexpectedTag _ htags htag hne => exact .unexpected htags htag hne
    | unknownTag _ htags htag hne hunknown => exact .unknown htags htag hne hunknown
    | unknownPort _ _ hunknown => exact absurd hport hunknown
  · intro h
    cases h with
    | missing htags htag => exact .missingTag hvalid htags htag
    | unexpected htags htag hne => exact .unexpectedTag hvalid htags htag hne
    | unknown htags htag hne hunknown => exact .unknownTag hvalid htags htag hne hunknown

section

variable {services : List Service} {entry : InstanceEntry} {offence : CatalogError}

/-- Against an entry whose service is not listed nothing else is held. -/
theorem offends_iff_of_unlisted
    (hunlisted : ∀ service ∈ services, service.hostname ≠ entry.service) :
    entry.Offends services offence ↔
      offence = .unknownService entry.address entry.service := by
  constructor
  · intro h
    cases h with
    | unknownService _ => rfl
    | unknownPort hservice hhostname _ => exact absurd hhostname (hunlisted _ hservice)
    | tag hservice hhostname _ _ => exact absurd hhostname (hunlisted _ hservice)
  · rintro rfl
    exact .unknownService hunlisted

/-- Against an entry whose service is listed it is held that it means no port, or else its tag. -/
theorem offends_iff_of_listed {service : Service} (hservice : service ∈ services)
    (hhostname : service.hostname = entry.service)
    (honly : ∀ other ∈ services, other.hostname = entry.service → other = service) :
    entry.Offends services offence ↔
      (entry.MissesPort service ∧
        offence = .unknownPort entry.address entry.service (entry.portName.getD "")) ∨
      (¬ entry.MissesPort service ∧ ∃ flaw, TagOffends service.tags entry.tag flaw ∧
        offence = .invalidInstance ⟨entry.address, entry.service, flaw⟩) := by
  constructor
  · intro h
    cases h with
    | unknownService hunknown => exact absurd hhostname (hunknown _ hservice)
    | unknownPort hother hsame hmisses =>
        obtain rfl := honly _ hother hsame
        exact Or.inl ⟨hmisses, rfl⟩
    | tag hother hsame hport htag =>
        obtain rfl := honly _ hother hsame
        exact Or.inr ⟨hport, _, htag, rfl⟩
  · rintro (⟨hmisses, rfl⟩ | ⟨hport, flaw, htag, rfl⟩)
    · exact .unknownPort hservice hhostname hmisses
    · exact .tag hservice hhostname hport htag

end

/-- An instance whose port was taken from its service is refused for its tag. -/
theorem validate_eq_error_iff_tag {inst : Instance} {invalid : InvalidInstance}
    (hvalid : inst.service.validate = .ok ())
    (hport : inst.endpoint.servicePort ∈ inst.service.ports) :
    inst.validate = .error invalid ↔
      ∃ flaw, TagOffends inst.service.tags inst.tag flaw ∧
        invalid = ⟨inst.endpoint.address, inst.service.hostname, flaw⟩ := by
  obtain ⟨address, hostname, flaw⟩ := invalid
  rw [Instance.validate_eq_error_iff, ← Instance.flaw_eq_some_iff,
    flaw_eq_some_iff_tag hvalid hport]
  constructor
  · rintro ⟨rfl, rfl, htag⟩
    exact ⟨flaw, htag, rfl⟩
  · rintro ⟨other, htag, heq⟩
    obtain ⟨rfl, rfl, rfl⟩ := InvalidInstance.mk.inj heq
    exact ⟨rfl, rfl, htag⟩

/-- An entry is refused for what is held against it, where the services of the table are the listed
    ones. -/
theorem resolve_eq_error_iff {table : NameTable Service} {services : List Service}
    (htable : ∀ hostname service, table.get? hostname = some service ↔
      service ∈ services ∧ service.hostname = hostname)
    (hvalid : ∀ service ∈ services, service.validate = .ok ()) {entry : InstanceEntry}
    {offence : CatalogError} :
    entry.resolve table = .error offence ↔ entry.Offends services offence := by
  rw [InstanceEntry.resolve]
  cases hfind : table.get? entry.service with
  | none =>
      have hunlisted : ∀ service ∈ services, service.hostname ≠ entry.service := by
        intro service hservice hhostname
        have hstored := (htable _ _).mpr ⟨hservice, hhostname⟩
        cases hfind.symm.trans hstored
      rw [offends_iff_of_unlisted hunlisted, Except.error.injEq, eq_comm]
  | some service =>
      obtain ⟨hservice, hhostname⟩ := (htable _ _).mp hfind
      have honly : ∀ other ∈ services, other.hostname = entry.service → other = service := by
        intro other hother hsame
        exact Option.some.inj (((htable _ _).mpr ⟨hother, hsame⟩).symm.trans hfind)
      rw [offends_iff_of_listed hservice hhostname honly, ← port?_eq_none_iff]
      cases hport : entry.port? service with
      | none =>
          simp only [hport, true_and, not_true, false_and, or_false]
          rw [Except.error.injEq, eq_comm]
      | some port =>
          have hrefused : ∀ invalid,
              Instance.validate ⟨⟨entry.address, entry.port, port⟩, service, entry.tag⟩
                  = .error invalid ↔
                ∃ flaw, TagOffends service.tags entry.tag flaw ∧
                  invalid = ⟨entry.address, service.hostname, flaw⟩ := fun invalid =>
            validate_eq_error_iff_tag (hvalid _ hservice) (mem_of_port? hport)
          rw [hhostname] at hrefused
          simp only [hport, reduceCtorEq, false_and, not_false_iff, true_and, false_or]
          cases hwrong :
              Instance.validate ⟨⟨entry.address, entry.port, port⟩, service, entry.tag⟩ with
          | ok _ =>
              refine iff_of_false (fun h => by cases h) ?_
              rintro ⟨flaw, htag, -⟩
              cases hwrong.symm.trans ((hrefused _).mpr ⟨flaw, htag, rfl⟩)
          | error invalid =>
              obtain ⟨flaw, htag, rfl⟩ := (hrefused _).mp hwrong
              constructor
              · intro h
                exact ⟨flaw, htag, (Except.error.inj h).symm⟩
              · rintro ⟨other, hother, rfl⟩
                have hsame := (hrefused _).mpr ⟨other, hother, rfl⟩
                rw [Except.error.inj (hwrong.symm.trans hsame)]

/-- Entries are resolved one by one, and refused for the first offence. -/
theorem resolveAll_eq_error_iff {table : NameTable Service} {services : List Service}
    (htable : ∀ hostname service, table.get? hostname = some service ↔
      service ∈ services ∧ service.hostname = hostname)
    (hvalid : ∀ service ∈ services, service.validate = .ok ()) {entries : List InstanceEntry}
    {offence : CatalogError} :
    resolveAll table entries = .error offence ↔
      FirstHeld (fun _ => InstanceEntry.Offends services) entries offence := by
  have hresolve : ∀ {entry : InstanceEntry} {offence : CatalogError},
      entry.resolve table = .error offence ↔ entry.Offends services offence :=
    resolve_eq_error_iff htable hvalid
  induction entries with
  | nil => exact iff_of_false (fun h => by cases h) not_firstHeld_nil
  | cons entry rest ih =>
      rw [resolveAll]
      cases hfirst : entry.resolve table with
      | error first =>
          have honly : ∀ other, entry.Offends services other ↔ other = first := by
            intro other
            rw [← hresolve, hfirst, Except.error.injEq, eq_comm]
          rw [firstHeld_cons_of_iff honly]
          dsimp only
          rw [Except.error.injEq, eq_comm]
      | ok inst =>
          have hnone : ∀ other, ¬ entry.Offends services other := by
            intro other h
            cases hfirst.symm.trans (hresolve.mpr h)
          rw [firstHeld_cons_of_forall_not hnone]
          refine Iff.trans ?_ ih
          cases resolveAll table rest with
          | error other =>
              show Except.error other = _ ↔ Except.error other = _
              rw [Except.error.injEq]
          | ok more => exact iff_of_false (fun h => by cases h) fun h => by cases h

-- ── Documents ───────────────────────────────────────────────────────────────

/-- A document is refused for its first offence. -/
theorem ofDocument_eq_error_iff {document : CatalogDocument} {offence : CatalogError} :
    ofDocument document = .error offence ↔ document.FirstOffence offence := by
  have hempty : ∀ hostname, (∅ : NameTable Service).get? hostname ≠ none ↔
      ∃ service ∈ ([] : List Service), service.hostname = hostname :=
    fun hostname => iff_of_false (fun h => h rfl) (by simp)
  have hservices : ∀ other, addServices ∅ document.services = .error other ↔
      FirstHeld Service.OffendsAfter document.services other := fun other =>
    addServices_eq_error_iff hempty
  rw [ofDocument, CatalogDocument.FirstOffence]
  cases hadd : addServices ∅ document.services with
  | error other =>
      have hfirst := (hservices other).mp hadd
      have hheld : ¬ Unheld Service.OffendsAfter document.services := fun h =>
        unheld_iff_not_firstHeld.mp h other hfirst
      rw [or_iff_left fun h => hheld h.1, ← hservices offence, hadd]
      show Except.error other = _ ↔ _
      rw [Except.error.injEq, Except.error.injEq]
  | ok table =>
      have hnone : ∀ other, ¬ FirstHeld Service.OffendsAfter document.services other := by
        intro other h
        cases hadd.symm.trans ((hservices other).mpr h)
      obtain ⟨hvalid, hperm⟩ := addServices_eq_ok_iff.mp hadd
      rw [show (∅ : NameTable Service).entries = [] from rfl, List.append_nil] at hperm
      have htable : ∀ hostname service, table.get? hostname = some service ↔
          service ∈ document.services ∧ service.hostname = hostname := by
        intro hostname service
        rw [← NameTable.mem_entries_iff, hperm.mem_iff, List.mem_map]
        constructor
        · rintro ⟨other, hother, heq⟩
          obtain ⟨rfl, rfl⟩ := Prod.mk.inj heq
          exact ⟨hother, rfl⟩
        · rintro ⟨hservice, rfl⟩
          exact ⟨service, hservice, rfl⟩
      rw [or_iff_right (hnone offence), and_iff_right (unheld_iff_not_firstHeld.mpr hnone),
        ← resolveAll_eq_error_iff htable hvalid]
      dsimp only
      cases resolveAll table document.instances with
      | error other =>
          show Except.error other = _ ↔ Except.error other = _
          rw [Except.error.injEq, Except.error.injEq]
      | ok instances => exact iff_of_false (fun h => by cases h) fun h => by cases h

/-- So are the bytes from which it is read. -/
theorem ofBytes_eq_error_iff {bytes : Bytes} {document : CatalogDocument}
    (h : CatalogDocument.record.read.document bytes = .ok document) {offence : CatalogError} :
    ofBytes bytes = .error offence ↔ document.FirstOffence offence := by
  rw [ofBytes, h]
  exact ofDocument_eq_error_iff

-- ── Offences of an instance ─────────────────────────────────────────────────

/-- Nothing but a tag is held against an instance by the offences of a document. -/
theorem flaw_of_firstOffence {document : CatalogDocument} {address hostname : String}
    {flaw : InstanceFlaw} (h : document.FirstOffence (.invalidInstance ⟨address, hostname, flaw⟩)) :
    ∃ tags tag, TagOffends tags tag flaw := by
  rcases h with ⟨_, _, _, -, -, hservice⟩ | ⟨-, _, _, _, -, -, hentry⟩
  · exact nomatch hservice
  · cases hentry with
    | tag _ _ _ htag => exact ⟨_, _, htag⟩

/-- A listing with one service and one entry for it. -/
def reviewed (tags : NameSet) (tag : Option String) : CatalogListing where
  services := [⟨"reviews", none, tags, [⟨"http", 9080, .http⟩]⟩]
  instances := [⟨"reviews", "10.0.0.1", 8080, none, tag⟩]
  managementPorts := []
  serviceAccounts := []

/-- It is refused for what is wrong with the tag of the entry. -/
theorem ofBytes_reviewed {tags : NameSet} {tag : Option String} {flaw : InstanceFlaw}
    (hfaults : Service.faults ⟨"reviews", none, tags, [⟨"http", 9080, .http⟩]⟩ = [])
    (h : TagOffends tags tag flaw) :
    ofBytes (Text.bytes (reviewed tags tag).toJson.compact) =
      .error (.invalidInstance ⟨"10.0.0.1", "reviews", flaw⟩) := by
  rw [ofBytes_compact, ofDocument_eq_error_iff]
  have hunheld : Unheld Service.OffendsAfter (reviewed tags tag).services := by
    refine unheld_cons.mpr ⟨fun offence hheld => ?_, unheld_nil⟩
    cases hheld with
    | invalid hne => exact hne hfaults
    | duplicate _ hother _ => exact nomatch hother
  refine Or.inr ⟨hunheld, firstHeld_cons.mpr (Or.inl ?_)⟩
  exact .tag (List.mem_singleton_self _) rfl (fun hmisses => hmisses rfl) h

/-- Every offence of a tag is told of some document. -/
theorem exists_ofBytes_of_tagOffends {flaw : InstanceFlaw}
    (h : flaw = .missingTag ∨
      ∃ tag, tag ≠ "" ∧ (flaw = .unexpectedTag tag ∨ flaw = .unknownTag tag)) :
    ∃ bytes address hostname, ofBytes bytes =
      .error (.invalidInstance ⟨address, hostname, flaw⟩) := by
  have htold : ∀ (tags : NameSet) {tag : Option String}, TagOffends tags tag flaw →
      Service.faults ⟨"reviews", none, tags, [⟨"http", 9080, .http⟩]⟩ = [] →
      ∃ bytes address hostname, ofBytes bytes =
        .error (.invalidInstance ⟨address, hostname, flaw⟩) := fun tags _ htag hfaults =>
    ⟨_, _, _, ofBytes_reviewed hfaults htag⟩
  rcases h with rfl | ⟨tag, hne, rfl | rfl⟩
  · exact htold (.ofList ["v1"]) (.missing (by decide) (Or.inl rfl)) (by decide +kernel)
  · exact htold ∅ (.unexpected rfl rfl hne) (by decide +kernel)
  · -- one of two tags is not the one that is asked for
    by_cases hv1 : tag = "v1"
    · subst hv1
      exact htold (.ofList ["v2"]) (.unknown (by decide) rfl hne (by decide))
        (by decide +kernel)
    · have hunknown : tag ∉ (NameSet.ofList ["v1"]).toList := fun hmem =>
        hv1 (List.mem_singleton.mp hmem)
      exact htold (.ofList ["v1"]) (.unknown (by decide) rfl hne hunknown)
        (by decide +kernel)

-- ── The first offence ───────────────────────────────────────────────────────

/-- A document is refused exactly for its first offence: that of the first service, or else that of
    the first entry. Of well-formed services those repeat a host name that have the same name and the
    same namespace, where an empty one is none. Of all that may be wrong with an instance exactly the
    offences of its tag are ever told: that one is missing, unexpected or unknown. -/
theorem refused_iff_firstOffence :
    (∀ bytes document, CatalogDocument.record.read.document bytes = .ok document →
      ∀ offence, ofBytes bytes = .error offence ↔ document.FirstOffence offence) ∧
    (∀ a b : Service, a.faults = [] → b.faults = [] →
      (a.hostname = b.hostname ↔
        a.name = b.name ∧ a.ns.filter (· ≠ "") = b.ns.filter (· ≠ ""))) ∧
    (∀ flaw, (∃ bytes address hostname,
        ofBytes bytes = .error (.invalidInstance ⟨address, hostname, flaw⟩)) ↔
      flaw = .missingTag ∨
        ∃ tag, tag ≠ "" ∧ (flaw = .unexpectedTag tag ∨ flaw = .unknownTag tag)) := by
  refine ⟨fun bytes document h offence => ofBytes_eq_error_iff h, ?_, ?_⟩
  · intro a b ha hb
    have hplain : ∀ {service : Service}, service.faults = [] → '.' ∉ service.name.toList := by
      intro service hfaults
      have hproblems := (Service.problems_eq_faults service).trans hfaults
      have hvalid := Service.validate_eq_ok_iff_problems.mpr hproblems
      exact (Service.validate_eq_ok_iff.mp hvalid).spellable.name_plain.1
    exact Service.hostname_eq_iff (hplain ha) (hplain hb)
  · intro flaw
    refine ⟨?_, exists_ofBytes_of_tagOffends⟩
    rintro ⟨bytes, address, hostname, h⟩
    cases hread : CatalogDocument.record.read.document bytes with
    | error fault =>
        rw [ofBytes, hread] at h
        cases h
    | ok document =>
        obtain ⟨tags, tag, htag⟩ := flaw_of_firstOffence ((ofBytes_eq_error_iff hread).mp h)
        cases htag with
        | missing => exact Or.inl rfl
        | unexpected _ _ hne => exact Or.inr ⟨_, hne, Or.inl rfl⟩
        | unknown _ _ hne _ => exact Or.inr ⟨_, hne, Or.inr rfl⟩

/-- A listing with a service that is there already, once without a namespace and once with an empty
    one, ahead of one without a name and of an entry for a service that is not listed. -/
def repeated : CatalogListing where
  services := [⟨"reviews", none, ∅, [⟨"http", 9080, .http⟩]⟩,
    ⟨"reviews", some "", ∅, [⟨"http", 9080, .http⟩]⟩, ⟨"", none, ∅, []⟩]
  instances := [⟨"ratings", "10.0.0.1", 8080, none, none⟩]
  managementPorts := []
  serviceAccounts := []

/-- It is refused for the service that is there already. -/
theorem repeated_refused :
    CatalogDocument.record.read.document (Text.bytes repeated.toJson.compact)
        = .ok repeated.document ∧
      ofBytes (Text.bytes repeated.toJson.compact) = .error (.duplicateService "reviews") ∧
      (⟨"reviews", none, ∅, [⟨"http", 9080, .http⟩]⟩ : Service).hostname
        = (⟨"reviews", some "", ∅, [⟨"http", 9080, .http⟩]⟩ : Service).hostname := by
  have hread : CatalogDocument.record.read.document (Text.bytes repeated.toJson.compact)
      = .ok repeated.document := repeated.reads.document_compact
  obtain ⟨hrefused, hsame, -⟩ := refused_iff_firstOffence
  refine ⟨hread, (hrefused _ _ hread _).mpr (Or.inl ?_),
    (hsame _ _ (by decide +kernel) (by decide +kernel)).mpr ⟨rfl, rfl⟩⟩
  refine firstHeld_cons.mpr (Or.inr ⟨fun offence hheld => ?_, firstHeld_cons.mpr (Or.inl ?_)⟩)
  · cases hheld with
    | invalid hne => exact hne (by decide +kernel)
    | duplicate _ hother _ => exact nomatch hother
  · exact .duplicate (by decide +kernel) (List.mem_singleton_self _) (by decide +kernel)

end Catalog

end MeshSidecar
