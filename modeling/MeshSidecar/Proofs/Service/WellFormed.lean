import MeshSidecar.Proofs.Text.Parts
import MeshSidecar.Service.Validate

/-!
# What a well-formed service is

`Service.validate` accepts exactly the services that are `Service.WellFormed`: the names are
labels, there is a port, and the ports can be told apart by number and by name. The ports are
checked one after the other against what stands before them, so what is shown of them by
induction is `PortsSound`, which speaks of the names and numbers seen before.

The host name of a well-formed service is made of labels and points. It never holds a colon or
a bar, which separate it from a port in the names that are built from it.
-/

namespace MeshSidecar

/-- Ports in which nothing is wrong, after some names and numbers and knowing whether there is
    only one port. -/
structure PortsSound (single : Bool) (names : List String) (numbers : List UInt16)
    (ports : PortList) : Prop where
  numbers_new : ∀ port ∈ ports, port.number ∉ numbers
  numbers_distinct : ports.Pairwise fun a b => a.number ≠ b.number
  unnamed : ∀ port ∈ ports, port.name = "" → single = true
  labels : ∀ port ∈ ports, port.name ≠ "" → Text.isLabel port.name = true
  names_new : ∀ port ∈ ports, port.name ≠ "" → port.name ∉ names
  names_distinct : ports.Pairwise fun a b => b.name ≠ "" → a.name ≠ b.name

/-- A well-formed service. -/
structure Service.WellFormed (service : Service) : Prop where
  name : Text.isLabel service.name = true
  space : ∀ ns, service.ns = some ns → ns = "" ∨ Text.isLabel ns = true
  tags : ∀ tag ∈ service.tags.toList, Text.isLabel tag = true
  ports_nonempty : service.ports ≠ []
  ports : PortsSound (service.ports.length ≤ 1) [] [] service.ports

-- ── Ports ───────────────────────────────────────────────────────────────────

/-- The names that are known after a port. -/
def namesAfter (names : List String) (port : Port) : List String :=
  if port.name = "" then names else port.name :: names

/-- What is right about one port, given what stands before it. -/
def PortFits (single : Bool) (names : List String) (numbers : List UInt16) (port : Port) : Prop :=
  port.number ∉ numbers ∧ (port.name = "" → single = true) ∧
    (port.name ≠ "" → Text.isLabel port.name = true ∧ port.name ∉ names)

/-- Ports are sound if the first one fits and the others are sound after it. -/
theorem portsSound_cons {single : Bool} {names : List String} {numbers : List UInt16}
    {port : Port} {rest : PortList} :
    PortsSound single names numbers (port :: rest) ↔
      PortFits single names numbers port ∧
        PortsSound single (namesAfter names port) (port.number :: numbers) rest := by
  constructor
  · intro h
    have hnumbers := List.pairwise_cons.mp h.numbers_distinct
    have hnames := List.pairwise_cons.mp h.names_distinct
    refine ⟨⟨h.numbers_new port (List.mem_cons_self ..), h.unnamed port (List.mem_cons_self ..),
      fun hne => ⟨h.labels port (List.mem_cons_self ..) hne,
        h.names_new port (List.mem_cons_self ..) hne⟩⟩, ?_⟩
    constructor
    · intro p hp hmem
      rcases List.mem_cons.mp hmem with heq | hmem
      · exact hnumbers.1 p hp heq.symm
      · exact h.numbers_new p (List.mem_cons_of_mem _ hp) hmem
    · exact hnumbers.2
    · exact fun p hp => h.unnamed p (List.mem_cons_of_mem _ hp)
    · exact fun p hp => h.labels p (List.mem_cons_of_mem _ hp)
    · intro p hp hne hmem
      have hold := h.names_new p (List.mem_cons_of_mem _ hp) hne
      rw [namesAfter] at hmem
      split at hmem
      · exact hold hmem
      · rcases List.mem_cons.mp hmem with heq | hmem
        · exact hnames.1 p hp hne heq.symm
        · exact hold hmem
    · exact hnames.2
  · rintro ⟨⟨hnumber, hunnamed, hname⟩, h⟩
    constructor
    · intro p hp
      rcases List.mem_cons.mp hp with rfl | hp
      · exact hnumber
      · exact fun hmem => h.numbers_new p hp (List.mem_cons_of_mem _ hmem)
    · exact List.pairwise_cons.mpr ⟨fun p hp heq =>
        h.numbers_new p hp (heq ▸ List.mem_cons_self ..), h.numbers_distinct⟩
    · intro p hp
      rcases List.mem_cons.mp hp with rfl | hp
      · exact hunnamed
      · exact h.unnamed p hp
    · intro p hp
      rcases List.mem_cons.mp hp with rfl | hp
      · exact fun hne => (hname hne).1
      · exact h.labels p hp
    · intro p hp hne
      rcases List.mem_cons.mp hp with rfl | hp
      · exact (hname hne).2
      · intro hmem
        refine h.names_new p hp hne ?_
        rw [namesAfter]
        split
        · exact hmem
        · exact List.mem_cons_of_mem _ hmem
    · refine List.pairwise_cons.mpr ⟨fun p hp hne heq => ?_, h.names_distinct⟩
      refine h.names_new p hp hne ?_
      rw [namesAfter, if_neg (heq ▸ hne), heq]
      exact List.mem_cons_self ..

/-- Nothing is found wrong with ports exactly if they are sound. -/
theorem portProblems_eq_nil_iff {single : Bool} {names : List String} {numbers : List UInt16}
    {ports : PortList} :
    portProblems single names numbers ports = [] ↔ PortsSound single names numbers ports := by
  induction ports generalizing names numbers with
  | nil =>
      exact iff_of_true rfl ⟨nofun, List.Pairwise.nil, nofun, nofun, nofun, List.Pairwise.nil⟩
  | cons port rest ih =>
      rw [portsSound_cons, ← ih, portProblems]
      rw [PortFits, namesAfter]
      by_cases hempty : port.name = ""
      · cases single <;> simp [hempty]
      · cases Text.isLabel port.name with
        | false => simp [hempty]
        | true => by_cases hmem : port.name ∈ names <;> simp [hempty, hmem]

namespace Service

/-- A service is accepted exactly if nothing is wrong with it. -/
theorem validate_eq_ok_iff_problems {service : Service} :
    service.validate = .ok () ↔ service.problems = [] := by
  rw [validate]
  cases service.problems with
  | nil => exact iff_of_true rfl rfl
  | cons problem rest => exact iff_of_false nofun nofun

/-- A service is accepted exactly if it is well-formed. -/
theorem validate_eq_ok_iff {service : Service} :
    service.validate = .ok () ↔ service.WellFormed := by
  rw [validate_eq_ok_iff_problems]
  simp only [problems, List.append_eq_nil_iff, portProblems_eq_nil_iff]
  constructor
  · rintro ⟨⟨⟨⟨hname, hspace⟩, htags⟩, hports⟩, hsound⟩
    refine ⟨by simpa using hname, ?_, by simpa using htags, by simpa using hports, hsound⟩
    intro ns hns
    rw [hns] at hspace
    simpa [Decidable.or_iff_not_imp_left] using hspace
  · rintro ⟨hname, hspace, htags, hports, hsound⟩
    refine ⟨⟨⟨⟨by simpa using hname, ?_⟩, by simpa using htags⟩, by simpa using hports⟩, hsound⟩
    cases hns : service.ns with
    | none => rfl
    | some ns => simpa [Decidable.or_iff_not_imp_left] using hspace ns hns

/-- A service that is refused is refused for everything that is wrong with it. -/
theorem validate_eq_error_iff {service : Service} {invalid : InvalidService} :
    service.validate = .error invalid ↔
      ¬ service.WellFormed ∧ invalid = ⟨service.hostname, service.problems⟩ := by
  rw [← validate_eq_ok_iff, validate]
  cases service.problems with
  | nil =>
      constructor
      · intro h
        cases h
      · rintro ⟨h, -⟩
        exact absurd rfl h
  | cons problem rest =>
      constructor
      · intro h
        refine ⟨fun hok => ?_, (Except.error.inj h).symm⟩
        cases hok
      · rintro ⟨-, rfl⟩
        rfl

-- ── Host names ──────────────────────────────────────────────────────────────

/-- The host name of a well-formed service holds no character but a point and those of
    labels. -/
theorem WellFormed.not_mem_hostname {service : Service} (h : service.WellFormed) {c : Char}
    (hlabel : Text.isLabelChar c = false) (hpoint : c ≠ '.') : c ∉ service.hostname.toList := by
  have hname : c ∉ service.name.toList := Text.not_mem_of_isLabel h.name hlabel
  rw [hostname]
  split
  · exact hname
  · rename_i ns hns
    split
    · exact hname
    · rename_i hne
      have hspace : c ∉ ns.toList :=
        Text.not_mem_of_isLabel ((h.space ns hns).resolve_left hne) hlabel
      have htext : (service.name ++ "." ++ ns).toList
          = service.name.toList ++ '.' :: ns.toList := by
        simp [String.toList_append]
      rw [htext]
      intro hmem
      rcases List.mem_append.mp hmem with hmem | hmem
      · exact hname hmem
      · rcases List.mem_cons.mp hmem with heq | hmem
        · exact hpoint heq
        · exact hspace hmem

/-- The host name of a well-formed service holds no colon. -/
theorem WellFormed.colon_not_mem_hostname {service : Service} (h : service.WellFormed) :
    ':' ∉ service.hostname.toList :=
  h.not_mem_hostname (by decide) (by decide)

/-- The host name of a well-formed service holds no bar. -/
theorem WellFormed.bar_not_mem_hostname {service : Service} (h : service.WellFormed) :
    '|' ∉ service.hostname.toList :=
  h.not_mem_hostname (by decide) (by decide)

end Service

end MeshSidecar
