import MeshSidecar.Proofs.Aggregate.Leaves
import MeshSidecar.Proofs.Aggregate.Sources

/-!
# Nesting does not show

To every question an aggregate gives the answer that it would give if its leaves were added to it
one by one, however deep they are nested (`Aggregate.nesting_transparent`). For each question there
is a way to combine the answers of two adapters which is associative and has a unit: lists are put
together, or the first answer goes before the second if there is one. The answer of a tree is then
the combination of the answers of its leaves from left to right (`Aggregate.eq_foldr_leaves`), and
what is left to say is what each of these combinations comes to.
-/

namespace MeshSidecar

/-- Two that can be asked give the same answer to every question. -/
structure AnswerAlike {α β : Type} [Discovery α] [Discovery β] (first : α) (second : β) :
    Prop where
  services : Discovery.services first = Discovery.services second
  service? : ∀ hostname, Discovery.service? first hostname = Discovery.service? second hostname
  instancesOf : ∀ hostname ports tags, Discovery.instancesOf first hostname ports tags =
    Discovery.instancesOf second hostname ports tags
  instancesAt : ∀ addresses,
    Discovery.instancesAt first addresses = Discovery.instancesAt second addresses
  managementPorts? : ∀ address,
    Discovery.managementPorts? first address = Discovery.managementPorts? second address
  serviceAccounts? : ∀ hostname ports, Discovery.serviceAccounts? first hostname ports =
    Discovery.serviceAccounts? second hostname ports

-- ── The first answer ────────────────────────────────────────────────────────

/-- The first value of some is the first one that is there. -/
theorem foldr_orElse {α β : Type} (f : α → Option β) (items : List α) :
    (items.map f).foldr (fun first second => first <|> second) none = items.findSome? f := by
  induction items with
  | nil => rfl
  | cons item rest ih =>
      rw [List.map_cons, List.foldr_cons, ih, List.findSome?_cons]
      cases f item <;> rfl

namespace Aggregate

theorem firstNonempty_assoc (first second third : List Instance) :
    firstNonempty (firstNonempty first second) third =
      firstNonempty first (firstNonempty second third) := by
  cases first <;> rfl

/-- The first list of some that is not empty is one of them, and all before it are empty. -/
theorem foldr_firstNonempty (f : α → List Instance) (items : List α) :
    ((∀ item ∈ items, f item = []) ∧ (items.map f).foldr firstNonempty [] = []) ∨
      ∃ before item after, items = before ++ item :: after ∧
        (∀ other ∈ before, f other = []) ∧ f item ≠ [] ∧
        (items.map f).foldr firstNonempty [] = f item := by
  induction items with
  | nil => exact Or.inl ⟨nofun, rfl⟩
  | cons item rest ih =>
      rw [List.map_cons, List.foldr_cons]
      cases hanswer : f item with
      | cons inst more =>
          refine Or.inr ⟨[], item, rest, rfl, nofun, ?_, hanswer.symm⟩
          rw [hanswer]
          exact List.cons_ne_nil inst more
      | nil =>
          show (_ ∧ (rest.map f).foldr firstNonempty [] = []) ∨ _
          rcases ih with ⟨hnone, hempty⟩ | ⟨before, found, after, rfl, hnone, hsome, hfound⟩
          · exact Or.inl ⟨List.forall_mem_cons.mpr ⟨hanswer, hnone⟩, hempty⟩
          · exact Or.inr ⟨item :: before, found, after, rfl,
              List.forall_mem_cons.mpr ⟨hanswer, hnone⟩, hsome, hfound⟩

-- ── Leaves one by one ───────────────────────────────────────────────────────

section

variable {α : Type}

theorem leaves_append (first second : Aggregate α) :
    (first ++ second).leaves = first.leaves ++ second.leaves := by
  show (first.append second).leaves = _
  induction first with
  | empty => rfl
  | leaf platform registry rest ih => rw [append, leaves, ih, leaves, List.cons_append]
  | nested platform inner rest _ ih => rw [append, leaves, ih, leaves, List.append_assoc]

/-- The aggregate to which registries were added one by one, each under a platform. -/
def ofLeaves (members : List (String × α)) : Aggregate α :=
  members.foldl (fun aggregate member => aggregate.addLeaf member.1 member.2) ∅

/-- The leaves of such an aggregate are the registries that were added. -/
theorem leaves_ofLeaves (members : List (String × α)) :
    (ofLeaves members).leaves = members.map (·.2) := by
  have hadded : ∀ aggregate : Aggregate α,
      (members.foldl (fun aggregate member => aggregate.addLeaf member.1 member.2)
        aggregate).leaves = aggregate.leaves ++ members.map (·.2) := by
    induction members with
    | nil => exact fun aggregate => (List.append_nil _).symm
    | cons member rest ih =>
        intro aggregate
        rw [List.foldl_cons, ih, addLeaf, leaves_append, List.map_cons, leaves, leaves,
          List.append_assoc]
        rfl
  exact hadded ∅

variable {β : Type}

/-- A question to which an aggregate answers with the combined answers of its adapters is answered
    with the combined answers of its leaves. -/
theorem eq_foldr_leaves (answer : Aggregate α → β) {ofLeaf : α → β} {both : β → β → β} {unit : β}
    (hassoc : ∀ a b c, both (both a b) c = both a (both b c)) (hunit : ∀ a, both unit a = a)
    (hempty : answer .empty = unit)
    (hleaf : ∀ platform registry rest,
      answer (.leaf platform registry rest) = both (ofLeaf registry) (answer rest))
    (hnested : ∀ platform inner rest,
      answer (.nested platform inner rest) = both (answer inner) (answer rest))
    (aggregate : Aggregate α) :
    answer aggregate = (aggregate.leaves.map ofLeaf).foldr both unit := by
  have hassociative : Std.Associative both := ⟨hassoc⟩
  induction aggregate with
  | empty => exact hempty
  | leaf platform registry rest ih => rw [hleaf, ih, leaves, List.map_cons, List.foldr_cons]
  | nested platform inner rest ihinner ihrest =>
      have hsplit : ∀ answers : List β, ∀ last,
          answers.foldr both (both unit last) = both (answers.foldr both unit) last :=
        fun answers last => List.foldr_assoc
      rw [hnested, ihinner, ihrest, leaves, List.map_append, List.foldr_append, ← hsplit, hunit]

variable [Discovery α] (aggregate : Aggregate α)

theorem service?_eq_findSome? (hostname : String) :
    Discovery.service? aggregate hostname =
      aggregate.leaves.findSome? (Discovery.service? · hostname) := by
  rw [← foldr_orElse]
  exact eq_foldr_leaves (fun inner => inner.service? hostname)
    (fun a _ _ => by cases a <;> rfl) (fun _ => rfl) rfl (fun _ _ _ => rfl) (fun _ _ _ => rfl) _

theorem managementPorts?_eq_findSome? (address : String) :
    Discovery.managementPorts? aggregate address =
      aggregate.leaves.findSome? (Discovery.managementPorts? · address) := by
  rw [← foldr_orElse]
  exact eq_foldr_leaves (fun inner => inner.managementPorts? address)
    (fun a _ _ => by cases a <;> rfl) (fun _ => rfl) rfl (fun _ _ _ => rfl) (fun _ _ _ => rfl) _

theorem serviceAccounts?_eq_findSome? (hostname : String) (ports : List String) :
    Discovery.serviceAccounts? aggregate hostname ports =
      aggregate.leaves.findSome? (Discovery.serviceAccounts? · hostname ports) := by
  rw [← foldr_orElse]
  exact eq_foldr_leaves (fun inner => inner.serviceAccounts? hostname ports)
    (fun a _ _ => by cases a <;> rfl) (fun _ => rfl) rfl (fun _ _ _ => rfl) (fun _ _ _ => rfl) _

theorem instancesAt_eq_flatMap (addresses : List String) :
    Discovery.instancesAt aggregate addresses =
      aggregate.leaves.flatMap (Discovery.instancesAt · addresses) := by
  have hfoldr : Discovery.instancesAt aggregate addresses = (aggregate.leaves.map
      (Discovery.instancesAt · addresses)).foldr (fun first second => first ++ second) [] :=
    eq_foldr_leaves (fun inner => inner.instancesAt addresses) List.append_assoc List.nil_append
      rfl (fun _ _ _ => rfl) (fun _ _ _ => rfl) aggregate
  rw [hfoldr, List.foldr_map, List.foldr_append_eq_append, List.append_nil, List.flatMap_def]

theorem instancesOf_eq_foldr (hostname : String) (ports tags : List String) :
    Discovery.instancesOf aggregate hostname ports tags =
      (aggregate.leaves.map (Discovery.instancesOf · hostname ports tags)).foldr
        firstNonempty [] :=
  eq_foldr_leaves (fun inner => inner.instancesOf hostname ports tags)
    firstNonempty_assoc (fun _ => rfl) rfl (fun _ _ _ => rfl) (fun _ _ _ => rfl) _

end

/-- Aggregates with the same leaves in the same order give the same answers. -/
theorem answerAlike_of_leaves {α : Type} [Discovery α] {first second : Aggregate α}
    (h : first.leaves = second.leaves) : AnswerAlike first second where
  services := by rw [services_eq_flatten, services_eq_flatten, h]
  service? hostname := by rw [service?_eq_findSome?, service?_eq_findSome?, h]
  instancesOf hostname ports tags := by rw [instancesOf_eq_foldr, instancesOf_eq_foldr, h]
  instancesAt addresses := by rw [instancesAt_eq_flatMap, instancesAt_eq_flatMap, h]
  managementPorts? address := by
    rw [managementPorts?_eq_findSome?, managementPorts?_eq_findSome?, h]
  serviceAccounts? hostname ports := by
    rw [serviceAccounts?_eq_findSome?, serviceAccounts?_eq_findSome?, h]

end Aggregate

-- ── Answers of registries ───────────────────────────────────────────────────

/-- A registry knows an instance of a service on one of the named ports with one of the tags. -/
def Source.Knows (source : Source) (hostname : String) (ports tags : List String) : Prop :=
  ∃ inst ∈ source.catalog.instances,
    inst.service.hostname = hostname ∧ inst.answers ports tags = true

theorem Source.instancesOf_eq_nil_iff {source : Source} {hostname : String}
    {ports tags : List String} :
    Discovery.instancesOf source hostname ports tags = [] ↔ ¬ source.Knows hostname ports tags := by
  rw [instancesOf_eq, Catalog.instancesOf, List.filter_eq_nil_iff, Knows]
  simp

namespace Aggregate

/-- An aggregate answers from its leaves, from left to right. -/
structure AnswersFromLeaves (aggregate : Aggregate Source) : Prop where
  services : Discovery.services aggregate = aggregate.leaves.flatMap Discovery.services
  service? : ∀ hostname, Discovery.service? aggregate hostname =
    aggregate.leaves.findSome? (Discovery.service? · hostname)
  managementPorts? : ∀ address, Discovery.managementPorts? aggregate address =
    aggregate.leaves.findSome? (Discovery.managementPorts? · address)
  serviceAccounts? : ∀ hostname ports, Discovery.serviceAccounts? aggregate hostname ports =
    aggregate.leaves.findSome? (Discovery.serviceAccounts? · hostname ports)
  instancesAt : ∀ addresses, Discovery.instancesAt aggregate addresses =
    aggregate.leaves.flatMap (Discovery.instancesAt · addresses)
  /-- The instances at some addresses are those of all leaves, in whatever order the leaves
      stand. -/
  mem_instancesAt : ∀ addresses (other : Aggregate Source), other.leaves.Perm aggregate.leaves →
    ∀ inst, inst ∈ Discovery.instancesAt other addresses ↔
      ∃ source ∈ aggregate.leaves, inst ∈ Discovery.instancesAt source addresses
  /-- The instances of a service are all those, and only those, of the first leaf that knows one. -/
  instancesOf : ∀ hostname ports tags,
    ((∀ source ∈ aggregate.leaves, ¬ source.Knows hostname ports tags) ∧
        Discovery.instancesOf aggregate hostname ports tags = []) ∨
      ∃ before source after, aggregate.leaves = before ++ source :: after ∧
        (∀ other ∈ before, ¬ other.Knows hostname ports tags) ∧
        source.Knows hostname ports tags ∧
        Discovery.instancesOf aggregate hostname ports tags =
          Discovery.instancesOf source hostname ports tags

/-- Nesting does not show. An aggregate gives every answer that its leaves would give if they were
    added one by one, under whatever platforms; and these are the answers of its leaves from left to
    right, put together or, where one answer is enough, the first one that there is. -/
theorem nesting_transparent (aggregate : Aggregate Source) {members : List (String × Source)}
    (h : members.map (·.2) = aggregate.leaves) :
    AnswerAlike aggregate (ofLeaves members) ∧ aggregate.AnswersFromLeaves := by
  refine ⟨answerAlike_of_leaves ((leaves_ofLeaves members).trans h).symm, ?_⟩
  constructor
  case services => rw [services_eq_flatten, List.flatMap_def]
  case service? => exact aggregate.service?_eq_findSome?
  case managementPorts? => exact aggregate.managementPorts?_eq_findSome?
  case serviceAccounts? => exact aggregate.serviceAccounts?_eq_findSome?
  case instancesAt => exact aggregate.instancesAt_eq_flatMap
  case mem_instancesAt =>
    intro addresses other hperm inst
    rw [instancesAt_eq_flatMap, (hperm.flatMap_right _).mem_iff, List.mem_flatMap]
  case instancesOf =>
    intro hostname ports tags
    rw [instancesOf_eq_foldr]
    rcases foldr_firstNonempty (Discovery.instancesOf · hostname ports tags) aggregate.leaves with
      ⟨hnone, hempty⟩ | ⟨before, source, after, hleaves, hnone, hsome, hanswer⟩
    · exact Or.inl ⟨fun source hsource => Source.instancesOf_eq_nil_iff.mp (hnone source hsource),
        hempty⟩
    · exact Or.inr ⟨before, source, after, hleaves,
        fun other hother => Source.instancesOf_eq_nil_iff.mp (hnone other hother),
        not_not.mp fun hunknown => hsome (Source.instancesOf_eq_nil_iff.mpr hunknown), hanswer⟩

/-- A registry that knows only that a service runs under no account. -/
def unaccounted : Source :=
  .memory { catalog := { (∅ : Catalog) with serviceAccounts := .ofList [("reviews", [])] } }

/-- A registry of a service with one instance, which runs under an account. -/
def accounted : Source :=
  .memory
    { catalog :=
        { services := .ofList [("reviews", ⟨"reviews", none, ∅, [⟨"http", 9080, .http⟩]⟩)]
          instances := [⟨⟨"10.0.0.1", 8080, ⟨"http", 9080, .http⟩⟩,
            ⟨"reviews", none, ∅, [⟨"http", 9080, .http⟩]⟩, none⟩]
          managementPorts := ∅
          serviceAccounts := .ofList [("reviews", ["spiffe://reviews"])] } }

/-- The first of the two registries stands two levels deep, after an aggregate of nothing. -/
def deep : Aggregate Source :=
  .nested "none" .empty
    (.nested "outer" (.nested "inner" (.leaf "Memory" unaccounted .empty) .empty)
      (.leaf "Memory" accounted .empty))

/-- It still answers first, even if its answer is that there is no account. -/
theorem deep_transparent :
    [("a", unaccounted), ("b", accounted)].map (·.2) = deep.leaves ∧
      AnswerAlike deep (ofLeaves [("a", unaccounted), ("b", accounted)]) ∧
      Discovery.serviceAccounts? deep "reviews" [] = some [] ∧
      (Discovery.instancesOf deep "reviews" ["http"] []).length = 1 := by
  have hleaves : [("a", unaccounted), ("b", accounted)].map (·.2) = deep.leaves := rfl
  exact ⟨hleaves, (nesting_transparent deep hleaves).1, by decide +kernel, by decide +kernel⟩

end Aggregate

end MeshSidecar
