import MeshSidecar.Service.Basic
import MeshSidecar.Text.Lines
import MeshSidecar.Text.Quoted

/-!
# Well-formed services and instances

The name, the namespace and the tags of a service are labels, and so are the names of its
ports; only a single port may go without a name. It declares at least one port, and no port
number or port name twice. `Service.problems` lists everything that is wrong, in the order
name, namespace, tags, ports.

An instance belongs to a well-formed service, carries one of its tags, or none if there are
none, and serves one of its declared ports. `Instance.validate` tells the first offence.
-/

namespace MeshSidecar

/-- One thing that is wrong with a service. -/
inductive Problem where
  | name (name : String)
  | space (ns : String)
  | tag (tag : String)
  | noPort
  | repeatedNumber (number : UInt16)
  | unnamedPort
  | portName (name : String)
  | repeatedName (name : String)
deriving DecidableEq

/-- The words for a problem. -/
def Problem.message : Problem → String
  | .name text => "invalid name: " ++ Text.quoted text
  | .space text => "invalid namespace: " ++ Text.quoted text
  | .tag text => "invalid service tag: " ++ Text.quoted text
  | .noPort => "service must have at least one declared port"
  | .repeatedNumber number => "duplicate port: " ++ toString number.toNat
  | .unnamedPort => "empty port names are not allowed for services with multiple ports"
  | .portName text => "invalid port name: " ++ Text.quoted text
  | .repeatedName text => "duplicate port name: " ++ Text.quoted text

/-- A service with everything that is wrong with it. -/
structure InvalidService where
  hostname : String
  problems : List Problem
deriving DecidableEq

/-- The words for an invalid service. -/
def InvalidService.message (invalid : InvalidService) : String :=
  "invalid service " ++ invalid.hostname ++ ": " ++
    String.intercalate "; " (invalid.problems.map Problem.message)

-- ── Services ────────────────────────────────────────────────────────────────

/-- What is wrong with the names of a list of ports, given the names and the numbers that
    stand before it, and whether there is only one port. Only labels count as names. -/
def portProblems (single : Bool) (names : List String) (numbers : List UInt16) :
    PortList → List Problem
  | [] => []
  | port :: rest =>
    let numberProblem :=
      if numbers.contains port.number then [Problem.repeatedNumber port.number] else []
    let (nameProblem, names) :=
      if port.name = "" then (if single then [] else [Problem.unnamedPort], names)
      else if !Text.isLabel port.name then ([Problem.portName port.name], names)
      else if names.contains port.name then ([Problem.repeatedName port.name], names)
      else ([], port.name :: names)
    numberProblem ++ nameProblem ++ portProblems single names (port.number :: numbers) rest

namespace Service

/-- Everything that is wrong with a service. -/
def problems (service : Service) : List Problem :=
  (if Text.isLabel service.name then [] else [.name service.name]) ++
  (match service.ns with
    | none => []
    | some ns => if ns = "" || Text.isLabel ns then [] else [.space ns]) ++
  (service.tags.toList.filter (!Text.isLabel ·)).map .tag ++
  (if service.ports.isEmpty then [.noPort] else []) ++
  portProblems (service.ports.length ≤ 1) [] [] service.ports

/-- Accepts a well-formed service. -/
def validate (service : Service) : Except InvalidService Unit :=
  match service.problems with
  | [] => .ok ()
  | problems => .error ⟨service.hostname, problems⟩

end Service

-- ── Instances ───────────────────────────────────────────────────────────────

/-- What is wrong with an instance, apart from where it is and what it belongs to. -/
inductive InstanceFlaw where
  /-- The service is not well-formed. -/
  | service (invalid : InvalidService)
  /-- The service has tags and the instance names none. -/
  | missingTag
  /-- The service has no tags and the instance names one. -/
  | unexpectedTag (tag : String)
  /-- The service does not have the tag of the instance. -/
  | unknownTag (tag : String)
  /-- The service does not declare the port that is served. -/
  | unknownPort (name : String)
deriving DecidableEq

/-- An instance with what is wrong with it. -/
structure InvalidInstance where
  address : String
  hostname : String
  flaw : InstanceFlaw
deriving DecidableEq

/-- The words for an invalid instance. -/
def InvalidInstance.message (invalid : InvalidInstance) : String :=
  let subject := "instance " ++ invalid.address ++ " of " ++ invalid.hostname
  match invalid.flaw with
  | .service source => subject ++ ": " ++ source.message
  | .missingTag => subject ++ " must declare one of the service's tags"
  | .unexpectedTag tag => subject ++ " declares tag " ++ Text.quoted tag ++ " on a tagless service"
  | .unknownTag tag => subject ++ " declares unknown tag " ++ Text.quoted tag
  | .unknownPort name => subject ++ " serves undeclared port " ++ Text.quoted name

namespace Instance

/-- What is wrong with the tag of an instance. An empty tag counts as none. -/
def tagFlaw (inst : Instance) : Option InstanceFlaw :=
  match inst.tag.getD "" with
  | "" => if inst.service.isTagless then none else some .missingTag
  | tag =>
    if inst.service.isTagless then some (.unexpectedTag tag)
    else if inst.service.tags.contains tag then none
    else some (.unknownTag tag)

/-- The first thing that is wrong with an instance. -/
def flaw (inst : Instance) : Option InstanceFlaw :=
  match inst.service.validate with
  | .error invalid => some (.service invalid)
  | .ok () =>
    match inst.tagFlaw with
    | some flaw => some flaw
    | none =>
      if inst.service.ports.contains inst.endpoint.servicePort then none
      else some (.unknownPort inst.endpoint.servicePort.name)

/-- Accepts a well-formed instance. -/
def validate (inst : Instance) : Except InvalidInstance Unit :=
  match inst.flaw with
  | none => .ok ()
  | some flaw => .error ⟨inst.endpoint.address, inst.service.hostname, flaw⟩

end Instance

end MeshSidecar
