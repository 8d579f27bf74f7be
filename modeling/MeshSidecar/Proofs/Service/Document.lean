import MeshSidecar.Proofs.Json.Reading
import MeshSidecar.Proofs.Names.Ascending
import MeshSidecar.Service.Document

/-!
# Services and instances are read back

A port, a list of ports, a service and an instance are read as they were written: what was left out
takes the default that it had. The tags are read as the same set, since a set is known by its
members.
-/

namespace MeshSidecar

theorem Protocol.reads (protocol : Protocol) :
    Reads Protocol.reader (.string protocol.name) protocol := by
  refine Reads.variant ?_
  cases protocol <;> rfl

theorem Port.reads (port : Port) : Reads Port.record.read port.toJson port := by
  refine Record.Takes.reads ?_
  refine .field rfl rfl ((Reads.text port.name).defaulted _ _) ?_
  refine .field rfl rfl ((Reads.word16 port.number).mandatory _ _) ?_
  exact .field rfl rfl ((Protocol.reads port.protocol).defaulted _ _) (.done rfl)

theorem PortList.reads (ports : PortList) : Reads PortList.reader (PortList.toJson ports) ports :=
  Reads.listOf_map Port.reads ports

theorem NameSet.eq_empty_of_isEmpty {names : NameSet} (h : names.isEmpty = true) : names = ∅ := by
  refine NameSet.ext_toList fun name => ?_
  rw [List.isEmpty_iff.mp h]
  rfl

namespace Service

/-- Nothing but the name must be written. -/
theorem firstMissing_eq_none {seen : List String} (h : "name" ∈ seen) :
    record.firstMissing seen = none := by
  rw [Record.firstMissing, List.find?_eq_none]
  simp [record, Field.mandatory, Field.defaulted, h]

/-- The ports of a service are taken last. -/
theorem takes_ports {seen : List String} (hname : "name" ∈ seen)
    (hnew : seen.contains "ports" = false) (service : Service) (ports : PortList) :
    record.Takes seen service [("ports", PortList.toJson ports)] { service with ports } :=
  .field rfl hnew ((PortList.reads ports).defaulted _ _)
    (.done (firstMissing_eq_none (List.mem_cons_of_mem _ hname)))

/-- The tags of a service are taken before its ports, unless there are none. -/
theorem takes_tags {seen : List String} (hname : "name" ∈ seen)
    (htags : seen.contains "tags" = false) (hports : seen.contains "ports" = false)
    (service : Service) (ports : PortList) :
    record.Takes seen { service with tags := ∅ }
      ((if service.tags.isEmpty then []
        else [("tags", .array (service.tags.toList.map .string))]) ++
        [("ports", PortList.toJson ports)]) { service with ports } := by
  by_cases hempty : service.tags.isEmpty = true
  · rw [if_pos hempty, List.nil_append, ← NameSet.eq_empty_of_isEmpty hempty]
    exact takes_ports hname hports service ports
  · rw [if_neg hempty]
    refine .field rfl htags ((Reads.nameSet service.tags.toList).defaulted _ _) ?_
    rw [NameSet.ofList_toList]
    exact takes_ports (List.mem_cons_of_mem _ hname) (by simpa using hports) service ports

/-- A service is read as it was written. -/
theorem reads (service : Service) : Reads record.read service.toJson service := by
  obtain ⟨name, ns, tags, ports⟩ := service
  refine Record.Takes.reads ?_
  rw [List.append_assoc, List.append_assoc]
  refine .field rfl rfl ((Reads.text name).mandatory _ _) ?_
  cases ns with
  | none => exact takes_tags (by decide) rfl rfl ⟨name, none, tags, []⟩ ports
  | some ns =>
      refine .field rfl rfl (((Reads.text ns).optional nofun).defaulted _ _) ?_
      exact takes_tags (by decide) rfl rfl ⟨name, some ns, tags, []⟩ ports

end Service

theorem Endpoint.reads (endpoint : Endpoint) : Reads record.read endpoint.toJson endpoint := by
  refine Record.Takes.reads ?_
  refine .field rfl rfl ((Reads.text endpoint.address).mandatory _ _) ?_
  refine .field rfl rfl ((Reads.word16 endpoint.port).mandatory _ _) ?_
  exact .field rfl rfl ((Port.reads endpoint.servicePort).mandatory _ _) (.done rfl)

/-- An instance is read as it was written. -/
theorem Instance.reads (inst : Instance) : Reads record.read inst.toJson inst := by
  obtain ⟨endpoint, service, tag⟩ := inst
  refine Record.Takes.reads ?_
  refine .field rfl rfl ((Endpoint.reads endpoint).mandatory _ _) ?_
  refine .field rfl rfl ((Service.reads service).mandatory _ _) ?_
  cases tag with
  | none => exact .done rfl
  | some tag => exact .field rfl rfl (((Reads.text tag).optional nofun).defaulted _ _) (.done rfl)

end MeshSidecar
