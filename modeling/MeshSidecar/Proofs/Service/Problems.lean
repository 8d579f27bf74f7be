import MeshSidecar.Proofs.Names.Ascending
import MeshSidecar.Proofs.Service.WellFormed

/-!
# What validation accepts, and what it says

A `Text.Label` is described by its bytes, its characters and its two ends, and the check that walks
the text once finds exactly those (`Text.isLabel_iff`). The ports of a service are checked in one
pass that remembers numbers and names; what it says of a port depends on nothing but the ports
before it and on whether there are several (`portProblems_eq`).

So a service is accepted exactly if names, numbers and labels are as they should be, pair by pair,
and what is wrong is told in order and without gaps; an instance is accepted exactly if its service
is and the tag and the port are the service's, and otherwise the first offence is told
(`validation_exact`).
-/

namespace MeshSidecar

namespace Text

/-- One part of a host name. -/
structure Label (s : String) : Prop where
  length_pos : 1 ≤ s.utf8ByteSize
  length_le : s.utf8ByteSize ≤ 63
  chars : ∀ c ∈ s.toList, ('a' ≤ c ∧ c ≤ 'z') ∨ ('0' ≤ c ∧ c ≤ '9') ∨ c = '-'
  starts : s.toList.head? ≠ some '-'
  ends : s.toList.getLast? ≠ some '-'

theorem isLabelEdge_iff {c : Char} :
    isLabelEdge c = true ↔ ('a' ≤ c ∧ c ≤ 'z') ∨ ('0' ≤ c ∧ c ≤ '9') := by
  have hedge : isLabelEdge c =
      (decide ('a' ≤ c) && decide (c ≤ 'z') || decide ('0' ≤ c) && decide (c ≤ '9')) := rfl
  simp only [hedge, Bool.or_eq_true, Bool.and_eq_true, decide_eq_true_eq]

theorem isLabelChar_iff {c : Char} :
    isLabelChar c = true ↔ ('a' ≤ c ∧ c ≤ 'z') ∨ ('0' ≤ c ∧ c ≤ '9') ∨ c = '-' := by
  rw [isLabelChar, Bool.or_eq_true, isLabelEdge_iff, beq_iff_eq, or_assoc]

/-- A character of a label that is no hyphen may stand at its ends. -/
theorem isLabelEdge_iff_ne {c : Char} (h : isLabelChar c = true) :
    isLabelEdge c = true ↔ c ≠ '-' := by
  constructor
  · rintro hedge rfl
    exact absurd hedge (by decide)
  · intro hne
    rw [isLabelChar, Bool.or_eq_true, beq_iff_eq] at h
    exact h.resolve_right hne

/-- What completes a label has only characters of labels and does not end with a hyphen. -/
theorem completesLabel_iff {ended : Bool} {text : List Char} :
    completesLabel ended text = true ↔
      (∀ c ∈ text, isLabelChar c = true) ∧ (text.getLast?.map isLabelEdge).getD ended = true := by
  induction text generalizing ended with
  | nil => simp [completesLabel]
  | cons c rest ih =>
      have hlast : ((c :: rest).getLast?.map isLabelEdge).getD ended =
          (rest.getLast?.map isLabelEdge).getD (isLabelEdge c) := by
        cases rest with
        | nil => rfl
        | cons d more => simp [List.getLast?_cons]
      rw [completesLabel, List.forall_mem_cons, hlast]
      by_cases hedge : isLabelEdge c = true
      · rw [if_pos hedge, ih, hedge, isLabelChar, hedge]
        simp
      · rw [if_neg hedge, Bool.and_eq_true, ih, isLabelChar, Bool.eq_false_iff.mpr hedge,
          Bool.false_or, and_assoc]

/-- The check finds exactly the labels. -/
theorem isLabel_iff {s : String} : isLabel s = true ↔ Label s := by
  have hsize : 1 ≤ s.utf8ByteSize ↔ s.toList ≠ [] := by
    rw [Nat.one_le_iff_ne_zero, ne_eq, String.utf8ByteSize_eq_zero_iff, ← String.toList_eq_nil_iff]
  rw [isLabel, Bool.and_eq_true, decide_eq_true_eq]
  cases htext : s.toList with
  | nil =>
      rw [htext] at hsize
      exact iff_of_false (fun h => nomatch h.2) fun h => hsize.mp h.length_pos rfl
  | cons c rest =>
      rw [htext] at hsize
      -- a text that starts as a label is one if it completes what may as well be empty
      have hwhole : (isLabelEdge c && completesLabel true rest) = true ↔
          isLabelEdge c = true ∧ completesLabel true (c :: rest) = true := by
        rw [Bool.and_eq_true]
        exact and_congr_right fun hedge => by rw [completesLabel, if_pos hedge]
      obtain ⟨last, hlast⟩ : ∃ last, (c :: rest).getLast? = some last :=
        ⟨_, List.getLast?_eq_some_getLast (List.cons_ne_nil c rest)⟩
      have hmem : last ∈ c :: rest := List.mem_of_getLast? hlast
      show _ ∧ (isLabelEdge c && completesLabel true rest) = true ↔ _
      rw [hwhole, completesLabel_iff, hlast]
      constructor
      · rintro ⟨hle, hedge, hchars, hend⟩
        refine ⟨hsize.mpr (List.cons_ne_nil _ _), hle, ?_, ?_, ?_⟩
        · rw [htext]
          exact fun d hd => isLabelChar_iff.mp (hchars d hd)
        · rw [htext]
          have hne := (isLabelEdge_iff_ne (hchars c (List.mem_cons_self ..))).mp hedge
          exact fun h => hne (Option.some.inj h)
        · rw [htext, hlast]
          have hne := (isLabelEdge_iff_ne (hchars last hmem)).mp hend
          exact fun h => hne (Option.some.inj h)
      · rintro ⟨-, hle, hchars, hstarts, hends⟩
        rw [htext] at hchars hstarts hends
        rw [hlast] at hends
        have hlabel : ∀ d ∈ c :: rest, isLabelChar d = true :=
          fun d hd => isLabelChar_iff.mpr (hchars d hd)
        refine ⟨hle, ?_, hlabel, ?_⟩
        · exact (isLabelEdge_iff_ne (hlabel c (List.mem_cons_self ..))).mpr
            fun heq => hstarts (congrArg some heq)
        · exact (isLabelEdge_iff_ne (hlabel last hmem)).mpr fun heq => hends (congrArg some heq)

instance (s : String) : Decidable (Label s) := decidable_of_iff _ isLabel_iff

end Text

-- ── Ports ───────────────────────────────────────────────────────────────────

/-- What is wrong with the port at a position: its number if an earlier port has it, and its name
    if it is empty among several ports, or no label, or the name of an earlier port. -/
def PortList.faultsAt (ports : PortList) (position : Nat) (port : Port) : List Problem :=
  let earlier := ports.take position
  (if ∃ other ∈ earlier, other.number = port.number then [.repeatedNumber port.number] else []) ++
  (if port.name = "" then if 1 < ports.length then [.unnamedPort] else []
    else if ¬ Text.Label port.name then [.portName port.name]
    else if ∃ other ∈ earlier, other.name = port.name then [.repeatedName port.name]
    else [])

/-- What is remembered of ports: their numbers, and those of their names that are labels. -/
structure Remembered (names : List String) (numbers : List UInt16) (ports : PortList) : Prop where
  numbers : ∀ number, number ∈ numbers ↔ ∃ port ∈ ports, port.number = number
  names : ∀ name, Text.Label name → (name ∈ names ↔ ∃ port ∈ ports, port.name = name)

/-- After one more port its number is remembered, and its name if that is a label. -/
theorem Remembered.next {names more : List String} {numbers : List UInt16} {ports : PortList}
    {port : Port} (h : Remembered names numbers ports)
    (hmore : ∀ name, Text.Label name → (name ∈ more ↔ name = port.name ∨ name ∈ names)) :
    Remembered more (port.number :: numbers) (ports ++ [port]) := by
  constructor
  · intro number
    rw [List.mem_cons, h.numbers]
    constructor
    · rintro (rfl | ⟨other, hmem, rfl⟩)
      · exact ⟨port, List.mem_append_right _ (List.mem_singleton_self _), rfl⟩
      · exact ⟨other, List.mem_append_left _ hmem, rfl⟩
    · rintro ⟨other, hmem, rfl⟩
      rcases List.mem_append.mp hmem with hmem | hmem
      · exact Or.inr ⟨other, hmem, rfl⟩
      · exact Or.inl (congrArg Port.number (List.mem_singleton.mp hmem))
  · intro name hlabel
    rw [hmore name hlabel, h.names name hlabel]
    constructor
    · rintro (rfl | ⟨other, hmem, rfl⟩)
      · exact ⟨port, List.mem_append_right _ (List.mem_singleton_self _), rfl⟩
      · exact ⟨other, List.mem_append_left _ hmem, rfl⟩
    · rintro ⟨other, hmem, rfl⟩
      rcases List.mem_append.mp hmem with hmem | hmem
      · exact Or.inr ⟨other, hmem, rfl⟩
      · exact Or.inl (congrArg Port.name (List.mem_singleton.mp hmem))

/-- What is found after some ports is what is wrong with each of those that follow. -/
theorem portProblems_after {names : List String} {numbers : List UInt16}
    {ports before rest : PortList} (h : Remembered names numbers before)
    (hports : ports = before ++ rest) :
    portProblems (ports.length ≤ 1) names numbers rest =
      (rest.zipIdx before.length).flatMap fun (port, position) => ports.faultsAt position port := by
  induction rest generalizing names numbers before with
  | nil => rfl
  | cons port rest ih =>
      have hearlier : ports.take before.length = before := by rw [hports, List.take_left]
      have hrest : ∀ more : List String,
          (∀ name, Text.Label name → (name ∈ more ↔ name = port.name ∨ name ∈ names)) →
          portProblems (ports.length ≤ 1) more (port.number :: numbers) rest =
            (rest.zipIdx (before.length + 1)).flatMap
              fun (port, position) => ports.faultsAt position port := by
        intro more hmore
        have hsnoc : ports = (before ++ [port]) ++ rest := by rw [hports, List.append_assoc]; rfl
        rw [ih (h.next hmore) hsnoc, List.length_append, List.length_singleton]
      -- a name that is no label is not remembered
      have hskip : ¬ Text.Label port.name → ∀ name, Text.Label name →
          (name ∈ names ↔ name = port.name ∨ name ∈ names) := by
        intro hbad name hlabel
        have hne : name ≠ port.name := fun heq => hbad (heq ▸ hlabel)
        rw [or_iff_right hne]
      have hnumber : (if numbers.contains port.number then [Problem.repeatedNumber port.number]
          else []) = if ∃ other ∈ before, other.number = port.number
            then [Problem.repeatedNumber port.number] else [] := by
        simp only [List.contains_iff_mem, h.numbers]
      rw [List.zipIdx_cons, List.flatMap_cons, portProblems]
      show _ = ports.faultsAt before.length port ++ _
      rw [PortList.faultsAt, hearlier, hnumber]
      by_cases hempty : port.name = ""
      · have hbad : ¬ Text.Label port.name := by
          rw [hempty]
          decide
        simp only [if_pos hempty, hrest names (hskip hbad)]
        by_cases hone : ports.length ≤ 1
        · simp [hone, Nat.not_lt.mpr hone]
        · simp [hone, Nat.lt_of_not_le hone]
      simp only [if_neg hempty]
      by_cases hlabel : Text.Label port.name
      · have hcheck : ¬ (!Text.isLabel port.name) = true := by
          rw [Text.isLabel_iff.mpr hlabel]
          exact Bool.false_ne_true
        simp only [if_neg hcheck, List.contains_iff_mem, h.names _ hlabel,
          if_neg (not_not_intro hlabel)]
        by_cases hrepeated : ∃ other ∈ before, other.name = port.name
        · have hknown : ∀ name, Text.Label name →
              (name ∈ names ↔ name = port.name ∨ name ∈ names) := by
            rintro name -
            have hmem : port.name ∈ names := (h.names _ hlabel).mpr hrepeated
            exact ⟨Or.inr, fun hor => hor.elim (fun heq => heq ▸ hmem) id⟩
          simp only [if_pos hrepeated, hrest names hknown]
        · simp only [if_neg hrepeated, hrest _ fun name _ => List.mem_cons]
      · have hcheck : (!Text.isLabel port.name) = true := by
          rw [Bool.not_eq_true']
          exact Bool.eq_false_iff.mpr fun hcheck => hlabel (Text.isLabel_iff.mp hcheck)
        simp only [if_pos hcheck, if_pos hlabel, hrest names (hskip hlabel)]

-- ── Services ────────────────────────────────────────────────────────────────

/-- What is wrong with a service: name, namespace, tags in ascending order, the lack of ports, and
    then each port in turn. -/
def Service.faults (service : Service) : List Problem :=
  (if Text.Label service.name then [] else [.name service.name]) ++
  (service.ns.toList.filter fun ns => ns ≠ "" ∧ ¬ Text.Label ns).map .space ++
  (service.tags.toList.filter (¬ Text.Label ·)).map .tag ++
  (if service.ports = [] then [.noPort] else []) ++
  service.ports.zipIdx.flatMap fun (port, position) => service.ports.faultsAt position port

namespace Service

/-- The problems that are found are the faults of the service. -/
theorem problems_eq_faults (service : Service) : service.problems = service.faults := by
  have hcheck : ∀ s, Text.isLabel s = decide (Text.Label s) := by
    intro s
    rw [Bool.eq_iff_iff, decide_eq_true_eq, Text.isLabel_iff]
  have hnone : Remembered [] [] [] := ⟨by simp, by simp⟩
  have hports : portProblems (service.ports.length ≤ 1) [] [] service.ports =
      service.ports.zipIdx.flatMap fun (port, position) => service.ports.faultsAt position port :=
    portProblems_after hnone rfl
  rw [problems, faults, hports]
  simp only [hcheck, List.isEmpty_iff, decide_eq_true_eq]
  cases service.ns with
  | none => simp
  | some ns => by_cases hempty : ns = "" <;> by_cases hlabel : Text.Label ns <;>
      simp [hempty, hlabel]

/-- Ports among which none is wrong: one port, which may go without a name, or several with
    different names. -/
theorem portsSound_iff {ports : PortList} (h : ports ≠ []) :
    PortsSound (ports.length ≤ 1) [] [] ports ↔
      (ports.map (·.number)).Nodup ∧
        ((∃ port, ports = [port] ∧ (port.name = "" ∨ Text.Label port.name)) ∨
          ((∀ port ∈ ports, Text.Label port.name) ∧ (ports.map (·.name)).Nodup)) := by
  rw [List.nodup_iff_pairwise_ne, List.pairwise_map]
  constructor
  · intro hsound
    refine ⟨hsound.numbers_distinct, ?_⟩
    have hlabel : ∀ port ∈ ports, port.name ≠ "" → Text.Label port.name :=
      fun port hport hne => Text.isLabel_iff.mp (hsound.labels port hport hne)
    by_cases hone : ports.length ≤ 1
    · obtain ⟨port, rfl⟩ : ∃ port, ports = [port] :=
        List.length_eq_one_iff.mp (Nat.le_antisymm hone (List.length_pos_iff.mpr h))
      exact Or.inl ⟨port, rfl, Decidable.or_iff_not_imp_left.mpr
        (hlabel port (List.mem_singleton_self _))⟩
    · have hnamed : ∀ port ∈ ports, port.name ≠ "" :=
        fun port hport hempty => hone (of_decide_eq_true (hsound.unnamed port hport hempty))
      refine Or.inr ⟨fun port hport => hlabel port hport (hnamed port hport), ?_⟩
      rw [List.nodup_iff_pairwise_ne, List.pairwise_map]
      exact hsound.names_distinct.imp_of_mem fun _ hb hdistinct => hdistinct (hnamed _ hb)
  · rintro ⟨hnumbers, hnames⟩
    refine ⟨nofun, hnumbers, ?_, ?_, nofun, ?_⟩
    · intro port hport hempty
      rcases hnames with ⟨only, rfl, -⟩ | ⟨hlabels, -⟩
      · rfl
      · have hlabel := hlabels port hport
        rw [hempty] at hlabel
        exact absurd hlabel (by decide)
    · intro port hport hne
      rw [Text.isLabel_iff]
      rcases hnames with ⟨only, rfl, hname⟩ | ⟨hlabels, -⟩
      · rw [List.mem_singleton.mp hport] at hne ⊢
        exact hname.resolve_left hne
      · exact hlabels port hport
    · rcases hnames with ⟨only, rfl, -⟩ | ⟨-, hdistinct⟩
      · exact List.pairwise_singleton _ _
      · rw [List.nodup_iff_pairwise_ne, List.pairwise_map] at hdistinct
        refine hdistinct.imp ?_
        intro _ _ hne _
        exact hne

/-- What a well-formed service is, label by label. -/
theorem wellFormed_iff_labels {service : Service} :
    service.WellFormed ↔
      Text.Label service.name ∧ (∀ tag ∈ service.tags.toList, Text.Label tag) ∧
      (∀ ns, service.ns = some ns → ns = "" ∨ Text.Label ns) ∧ service.ports ≠ [] ∧
      (service.ports.map (·.number)).Nodup ∧
      ((∃ port, service.ports = [port] ∧ (port.name = "" ∨ Text.Label port.name)) ∨
        ((∀ port ∈ service.ports, Text.Label port.name) ∧
          (service.ports.map (·.name)).Nodup)) := by
  constructor
  · intro h
    refine ⟨Text.isLabel_iff.mp h.name, fun tag htag => Text.isLabel_iff.mp (h.tags tag htag),
      fun ns hns => (h.space ns hns).imp id Text.isLabel_iff.mp, h.ports_nonempty, ?_⟩
    exact (portsSound_iff h.ports_nonempty).mp h.ports
  · rintro ⟨hname, htags, hspace, hports, hsound⟩
    exact ⟨Text.isLabel_iff.mpr hname, fun ns hns => (hspace ns hns).imp id Text.isLabel_iff.mpr,
      fun tag htag => Text.isLabel_iff.mpr (htags tag htag), hports,
      (portsSound_iff hports).mpr hsound⟩

end Service

-- ── Instances ───────────────────────────────────────────────────────────────

namespace Instance

/-- The tag is one of the service's, or there is none where the service has none. An empty tag
    counts as none. -/
def TagFits (inst : Instance) : Prop :=
  (∃ tag, inst.tag = some tag ∧ tag ∈ inst.service.tags.toList) ∨
    (inst.service.tags.toList = [] ∧ (inst.tag = none ∨ inst.tag = some ""))

/-- What is told of an instance that is refused: its first offence. -/
inductive Refused (inst : Instance) : InstanceFlaw → Prop where
  | service {invalid : InvalidService} (hservice : inst.service.validate = .error invalid) :
      Refused inst (.service invalid)
  | missingTag (hservice : inst.service.validate = .ok ()) (htags : inst.service.tags.toList ≠ [])
      (htag : inst.tag = none ∨ inst.tag = some "") : Refused inst .missingTag
  | unexpectedTag {tag : String} (hservice : inst.service.validate = .ok ())
      (htags : inst.service.tags.toList = []) (htag : inst.tag = some tag) (hne : tag ≠ "") :
      Refused inst (.unexpectedTag tag)
  | unknownTag {tag : String} (hservice : inst.service.validate = .ok ())
      (htags : inst.service.tags.toList ≠ []) (htag : inst.tag = some tag) (hne : tag ≠ "")
      (hunknown : tag ∉ inst.service.tags.toList) : Refused inst (.unknownTag tag)
  | unknownPort (hservice : inst.service.validate = .ok ()) (htag : inst.TagFits)
      (hport : inst.endpoint.servicePort ∉ inst.service.ports) :
      Refused inst (.unknownPort inst.endpoint.servicePort.name)

theorem isTagless_iff {service : Service} :
    service.isTagless = true ↔ service.tags.toList = [] := List.isEmpty_iff

theorem tagFlaw_of_absent {inst : Instance} (h : inst.tag = none ∨ inst.tag = some "") :
    inst.tagFlaw = if inst.service.tags.toList = [] then none else some .missingTag := by
  have hnone : inst.tag.getD "" = "" := by rcases h with h | h <;> rw [h] <;> rfl
  rw [tagFlaw, hnone]
  simp only [isTagless_iff]

theorem tagFlaw_of_present {inst : Instance} {tag : String} (h : inst.tag = some tag)
    (hne : tag ≠ "") :
    inst.tagFlaw =
      if inst.service.tags.toList = [] then some (.unexpectedTag tag)
      else if tag ∈ inst.service.tags.toList then none
      else some (.unknownTag tag) := by
  have hsome : inst.tag.getD "" = tag := by rw [h]; rfl
  rw [tagFlaw, hsome]
  split
  · exact absurd rfl hne
  · simp only [isTagless_iff, NameSet.mem_toList_iff]

/-- A tag is absent, or empty, or a name. -/
theorem tag_cases (inst : Instance) :
    (inst.tag = none ∨ inst.tag = some "") ∨ ∃ tag, inst.tag = some tag ∧ tag ≠ "" := by
  cases inst.tag with
  | none => exact Or.inl (Or.inl rfl)
  | some tag =>
      by_cases hempty : tag = ""
      · exact Or.inl (Or.inr (congrArg some hempty))
      · exact Or.inr ⟨tag, rfl, hempty⟩

/-- Nothing is said of a tag that fits. -/
theorem tagFlaw_eq_none_iff {inst : Instance} (h : inst.service.WellFormed) :
    inst.tagFlaw = none ↔ inst.TagFits := by
  rcases inst.tag_cases with habsent | ⟨tag, htag, hne⟩
  · -- no tag of a well-formed service is empty
    have hnone : ¬ ∃ tag, inst.tag = some tag ∧ tag ∈ inst.service.tags.toList := by
      rintro ⟨tag, htag, hmem⟩
      have hempty : tag = "" := by
        rcases habsent with habsent | habsent <;> rw [habsent] at htag
        · exact nomatch htag
        · exact (Option.some.inj htag).symm
      have hlabel := h.tags tag hmem
      rw [hempty] at hlabel
      exact nomatch hlabel
    rw [tagFlaw_of_absent habsent, TagFits, or_iff_right hnone, and_iff_left habsent]
    by_cases htags : inst.service.tags.toList = [] <;> simp [htags]
  · rw [tagFlaw_of_present htag hne, TagFits, htag]
    by_cases htags : inst.service.tags.toList = []
    · simp [htags, hne]
    · by_cases hmem : tag ∈ inst.service.tags.toList <;> simp [htags, hmem]

/-- What is said of a tag that does not fit. -/
theorem tagFlaw_eq_some_iff {inst : Instance} {flaw : InstanceFlaw} :
    inst.tagFlaw = some flaw ↔
      (flaw = .missingTag ∧ inst.service.tags.toList ≠ [] ∧
        (inst.tag = none ∨ inst.tag = some "")) ∨
      ∃ tag, inst.tag = some tag ∧ tag ≠ "" ∧
        ((flaw = .unexpectedTag tag ∧ inst.service.tags.toList = []) ∨
          (flaw = .unknownTag tag ∧ inst.service.tags.toList ≠ [] ∧
            tag ∉ inst.service.tags.toList)) := by
  rcases inst.tag_cases with habsent | ⟨tag, htag, hne⟩
  · have hnone : ¬ ∃ tag, inst.tag = some tag ∧ tag ≠ "" := by
      rintro ⟨tag, htag, hne⟩
      rcases habsent with habsent | habsent <;> rw [habsent] at htag
      · exact nomatch htag
      · exact hne (Option.some.inj htag).symm
    rw [tagFlaw_of_absent habsent, or_iff_left fun ⟨tag, htag, hne, _⟩ => hnone ⟨tag, htag, hne⟩,
      and_iff_left habsent]
    by_cases htags : inst.service.tags.toList = []
    · simp [htags]
    · simp [htags, eq_comm]
  · have habsent : ¬ (inst.tag = none ∨ inst.tag = some "") := by
      rw [htag]
      rintro (h | h)
      · exact nomatch h
      · exact hne (Option.some.inj h)
    rw [tagFlaw_of_present htag hne, or_iff_right fun h => habsent h.2.2, htag]
    by_cases htags : inst.service.tags.toList = []
    · simp [htags, hne, eq_comm]
    · by_cases hmem : tag ∈ inst.service.tags.toList <;> simp [htags, hmem, hne, eq_comm]

/-- With a well-formed service the tag is looked at first, and then the port. -/
theorem flaw_of_valid {inst : Instance} (h : inst.service.validate = .ok ())
    {flaw : InstanceFlaw} :
    inst.flaw = some flaw ↔
      inst.tagFlaw = some flaw ∨
        (inst.tagFlaw = none ∧ inst.endpoint.servicePort ∉ inst.service.ports ∧
          flaw = .unknownPort inst.endpoint.servicePort.name) := by
  rw [Instance.flaw, h]
  cases inst.tagFlaw with
  | some other => simp
  | none =>
      by_cases hport : inst.endpoint.servicePort ∈ inst.service.ports
      · simp [hport]
      · simp [hport, eq_comm]

/-- An instance is refused for its first offence. -/
theorem flaw_eq_some_iff {inst : Instance} {flaw : InstanceFlaw} :
    inst.flaw = some flaw ↔ inst.Refused flaw := by
  cases hservice : inst.service.validate with
  | error invalid =>
      have hflaw : inst.flaw = some (.service invalid) := by rw [Instance.flaw, hservice]
      rw [hflaw]
      constructor
      · intro h
        rw [← Option.some.inj h]
        exact .service hservice
      · intro h
        cases h with
        | service hother => rw [Except.error.inj (hservice.symm.trans hother)]
        | missingTag hother _ _ | unexpectedTag hother _ _ _ | unknownTag hother _ _ _ _
        | unknownPort hother _ _ => exact nomatch hservice.symm.trans hother
  | ok _ =>
      have hwell := Service.validate_eq_ok_iff.mp hservice
      rw [flaw_of_valid hservice, tagFlaw_eq_none_iff hwell, tagFlaw_eq_some_iff]
      constructor
      · rintro ((⟨rfl, htags, htag⟩ | ⟨tag, htag, hne, ⟨rfl, htags⟩ | ⟨rfl, htags, hunknown⟩⟩) |
          ⟨hfits, hport, rfl⟩)
        · exact .missingTag hservice htags htag
        · exact .unexpectedTag hservice htags htag hne
        · exact .unknownTag hservice htags htag hne hunknown
        · exact .unknownPort hservice hfits hport
      · intro h
        cases h with
        | service hother => exact nomatch hservice.symm.trans hother
        | missingTag _ htags htag => exact Or.inl (Or.inl ⟨rfl, htags, htag⟩)
        | unexpectedTag _ htags htag hne =>
            exact Or.inl (Or.inr ⟨_, htag, hne, Or.inl ⟨rfl, htags⟩⟩)
        | unknownTag _ htags htag hne hunknown =>
            exact Or.inl (Or.inr ⟨_, htag, hne, Or.inr ⟨rfl, htags, hunknown⟩⟩)
        | unknownPort _ hfits hport => exact Or.inr ⟨hfits, hport, rfl⟩

/-- An instance is accepted exactly if nothing is wrong with it. -/
theorem validate_eq_ok_iff {inst : Instance} :
    inst.validate = .ok () ↔
      inst.service.validate = .ok () ∧ inst.TagFits ∧
        inst.endpoint.servicePort ∈ inst.service.ports := by
  have hnone : inst.validate = .ok () ↔ inst.flaw = none := by
    rw [validate]
    cases inst.flaw with
    | none => exact iff_of_true rfl rfl
    | some flaw => exact iff_of_false nofun nofun
  rw [hnone, Option.eq_none_iff_forall_ne_some]
  simp only [ne_eq, flaw_eq_some_iff]
  cases hservice : inst.service.validate with
  | error invalid => exact iff_of_false (fun h => h _ (.service hservice)) fun h => nomatch h.1
  | ok _ =>
      have hwell := Service.validate_eq_ok_iff.mp hservice
      rw [and_iff_right rfl]
      constructor
      · intro h
        have hfits : inst.TagFits := by
          rw [← tagFlaw_eq_none_iff hwell, Option.eq_none_iff_forall_ne_some]
          exact fun flaw hflaw => h flaw
            (flaw_eq_some_iff.mp ((flaw_of_valid hservice).mpr (Or.inl hflaw)))
        exact ⟨hfits, Decidable.not_not.mp fun hport => h _ (.unknownPort hservice hfits hport)⟩
      · rintro ⟨hfits, hport⟩ flaw h
        rw [← flaw_eq_some_iff, flaw_of_valid hservice, (tagFlaw_eq_none_iff hwell).mpr hfits] at h
        rcases h with h | h
        · exact nomatch h
        · exact h.2.1 hport

theorem validate_eq_error_iff {inst : Instance} {invalid : InvalidInstance} :
    inst.validate = .error invalid ↔
      invalid.address = inst.endpoint.address ∧ invalid.hostname = inst.service.hostname ∧
        inst.Refused invalid.flaw := by
  rw [← flaw_eq_some_iff, validate]
  obtain ⟨address, hostname, flaw⟩ := invalid
  cases inst.flaw with
  | none => exact iff_of_false nofun fun h => nomatch h.2.2
  | some other => simp [eq_comm]

end Instance

-- ── Validation ──────────────────────────────────────────────────────────────

/-- A service is accepted exactly if its name and its tags are labels, its namespace is absent,
    empty or a label, and it has ports, with different numbers and with different labels for names,
    save that a single port needs no name. What is refused is refused for all its faults, in order.
    An instance is accepted exactly if its service is, its tag fits and its port is declared, and is
    refused for the first of these that fails. -/
theorem validation_exact :
    (∀ service : Service, service.validate = .ok () ↔
      Text.Label service.name ∧ (∀ tag ∈ service.tags.toList, Text.Label tag) ∧
      (∀ ns, service.ns = some ns → ns = "" ∨ Text.Label ns) ∧ service.ports ≠ [] ∧
      (service.ports.map (·.number)).Nodup ∧
      ((∃ port, service.ports = [port] ∧ (port.name = "" ∨ Text.Label port.name)) ∨
        ((∀ port ∈ service.ports, Text.Label port.name) ∧
          (service.ports.map (·.name)).Nodup))) ∧
    (∀ (service : Service) invalid, service.validate = .error invalid ↔
      service.faults ≠ [] ∧ invalid = ⟨service.hostname, service.faults⟩) ∧
    (∀ service : Service, service.tags.toList.Pairwise (· < ·)) ∧
    (∀ inst : Instance, inst.validate = .ok () ↔
      inst.service.validate = .ok () ∧ inst.TagFits ∧
        inst.endpoint.servicePort ∈ inst.service.ports) ∧
    (∀ (inst : Instance) invalid, inst.validate = .error invalid ↔
      invalid.address = inst.endpoint.address ∧ invalid.hostname = inst.service.hostname ∧
        inst.Refused invalid.flaw) := by
  refine ⟨fun service => ?_, fun service invalid => ?_, fun service => ?_, fun inst => ?_,
    fun inst invalid => ?_⟩
  · rw [Service.validate_eq_ok_iff, Service.wellFormed_iff_labels]
  · rw [Service.validate_eq_error_iff, ← Service.validate_eq_ok_iff,
      Service.validate_eq_ok_iff_problems, Service.problems_eq_faults]
  · exact List.pairwise_map.mpr service.tags.table.ascending
  · exact Instance.validate_eq_ok_iff
  · exact Instance.validate_eq_error_iff

/-- A service in which nearly everything is wrong. -/
def tangled : Service where
  name := "Reviews"
  ns := some "a."
  tags := NameSet.ofList ["v2", "V1", ""]
  ports := [⟨"", 80, .http⟩, ⟨"http", 80, .http⟩, ⟨"http", 81, .http⟩, ⟨"-", 80, .tcp⟩,
    ⟨"-", 82, .tcp⟩, ⟨"http", 81, .udp⟩]

/-- All that is wrong with it is told, in order, and an instance of it is refused for that. -/
theorem tangled_refused :
    tangled.validate = .error ⟨"Reviews.a.",
      [.name "Reviews", .space "a.", .tag "", .tag "V1", .unnamedPort, .repeatedNumber 80,
       .repeatedName "http", .repeatedNumber 80, .portName "-", .portName "-",
       .repeatedNumber 81, .repeatedName "http"]⟩ ∧
    ∃ invalid, (Instance.mk ⟨"10.0.0.1", 8080, ⟨"", 80, .http⟩⟩ tangled none).validate =
      .error ⟨"10.0.0.1", "Reviews.a.", .service invalid⟩ := by
  obtain ⟨-, hservice, -, -, hinstance⟩ := validation_exact
  have hrefused := (hservice tangled _).mpr ⟨by decide +kernel, rfl⟩
  refine ⟨hrefused.trans ?_, _, (hinstance _ _).mpr ⟨rfl, ?_, .service hrefused⟩⟩
  · decide +kernel
  · decide +kernel

end MeshSidecar
