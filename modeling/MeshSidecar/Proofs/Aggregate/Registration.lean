import MeshSidecar.Proofs.Aggregate.Leaves
import MeshSidecar.Proofs.Registry.ChangeLog

/-!
# Who listens after a refusal

A handler that is appended to an aggregate reaches a prefix of its leaves, in the order from left to
right: all of them if none refuses, and otherwise those before the first one that does
(`Aggregate.appendHandler_reaches`). An inner aggregate that has stopped half-way stops the one that
holds it, so that the prefix does not depend on how the leaves are nested. What does is the error:
each adapter on the way down to the leaf adds itself in front (`AppendError.Blames.chain`).

Whom a leaf tells of its changes is settled when the change is made. What a handler hears of a leaf
is therefore what the leaf told in the course of its own changes, whatever happened to the others in
between (`Aggregate.heard_deliveries`), each notice as often as the leaf holds the handler.
-/

namespace MeshSidecar

-- ── Copies of a handler ─────────────────────────────────────────────────────

namespace Registry

/-- The handlers of a kind, in the order in which they were appended. -/
def listeners (registry : Registry) : HandlerKind → List Handler
  | .services => registry.serviceHandlers
  | .instances => registry.instanceHandlers

theorem handlersOf_eq_listeners (registry : Registry) (notice : Notice) :
    registry.handlersOf notice = registry.listeners notice.kind := by
  cases notice <;> rfl

/-- A handler that is appended listens for its kind and for no other. -/
theorem listeners_appendHandler (registry : Registry) (kind other : HandlerKind)
    (handler : Handler) :
    (registry.appendHandler kind handler).listeners other =
      registry.listeners other ++ if other = kind then [handler] else [] := by
  cases kind <;> cases other <;> simp [appendHandler, listeners]

/-- What is told does not depend on who listens. -/
theorem told_appendHandler (registry : Registry) (kind : HandlerKind) (handler : Handler)
    (mutations : List Mutation) :
    (registry.appendHandler kind handler).told mutations = registry.told mutations := by
  induction mutations generalizing registry with
  | nil => rfl
  | cons mutation rest ih =>
      have hswap : (registry.appendHandler kind handler).mutate mutation =
          (registry.mutate mutation).appendHandler kind handler := by
        cases kind <;> rfl
      rw [told, told, hswap, ih, catalog_appendHandler]

/-- A handler hears each notice as often as the registry holds it for the kind of the notice. -/
theorem received_allDeliveries (registry : Registry) (handler : Handler)
    (mutations : List Mutation) :
    received handler (registry.allDeliveries mutations) =
      (registry.told mutations).flatMap fun notice =>
        List.replicate ((registry.listeners notice.kind).count handler) notice := by
  rw [allDeliveries_eq, received_deliver]
  simp only [handlersOf_eq_listeners]

end Registry

/-- The leaf with one more handler of a kind. -/
def Leaf.listening (leaf : Leaf) (kind : HandlerKind) (handler : Handler) : Leaf :=
  { leaf with registry := leaf.registry.appendHandler kind handler }

namespace Leaf

theorem listeners_listening_of_ne (leaf : Leaf) {kind other : HandlerKind} (handler : Handler)
    (h : other ≠ kind) :
    (leaf.listening kind handler).registry.listeners other = leaf.registry.listeners other := by
  rw [listening, Registry.listeners_appendHandler, if_neg h, List.append_nil]

/-- What one hears of a leaf that holds one more handler: the handler hears each notice of its kind
    once more, and no one else hears anything else. -/
theorem received_listening (leaf : Leaf) (kind : HandlerKind) (handler listener : Handler)
    (mutations : List Mutation) :
    Registry.received listener
        ((leaf.listening kind handler).registry.allDeliveries mutations) =
      (leaf.registry.told mutations).flatMap fun notice =>
        List.replicate ((leaf.registry.listeners notice.kind).count listener +
          if notice.kind = kind ∧ listener = handler then 1 else 0) notice := by
  rw [Registry.received_allDeliveries, listening, Registry.told_appendHandler]
  refine List.flatMap_congr fun notice _ => ?_
  rw [Registry.listeners_appendHandler, List.count_append]
  by_cases hkind : notice.kind = kind
  · have hsame : (handler == listener) = true ↔ notice.kind = kind ∧ listener = handler := by
      rw [beq_iff_eq, and_iff_right hkind, eq_comm]
    rw [if_pos hkind, List.count_singleton]
    simp only [hsame]
  · rw [if_neg hkind, List.count_nil, if_neg fun h => hkind h.1]

end Leaf

/-- To repeat an item once if it satisfies a predicate, and otherwise not at all, is to keep those
    that do. -/
theorem flatMap_replicate_ite {α : Type} (p : α → Prop) [DecidablePred p] (items : List α) :
    (items.flatMap fun item => List.replicate (if p item then 1 else 0) item) =
      items.filter fun item => p item := by
  induction items with
  | nil => rfl
  | cons item rest ih =>
      rw [List.flatMap_cons, ih]
      by_cases h : p item
      · rw [if_pos h, List.filter_cons_of_pos (by simpa using h)]
        rfl
      · rw [if_neg h, List.filter_cons_of_neg (by simpa using h)]
        rfl

-- ── Places and errors ───────────────────────────────────────────────────────

/-- The error blames a leaf: it names the kind, the platforms that lead down to the leaf, and the
    words of the leaf. -/
structure AppendError.Blames (error : AppendError) (kind : HandlerKind) (path : List String)
    (words : String) : Prop where
  kind : error.kind = kind
  path : error.platform :: error.below = path
  words : error.refusal = words

namespace AppendError.Blames

variable {error : AppendError} {kind : HandlerKind} {path : List String} {words : String}

/-- An adapter in which another one refused puts itself in front. -/
theorem within (h : error.Blames kind path words) (platform : String) :
    (error.within platform).Blames kind (platform :: path) words :=
  ⟨h.kind, congrArg (platform :: ·) h.path, h.words⟩

/-- What the error says, and what it says of its causes, names the adapters on the way down to the
    leaf, and ends with the words of the leaf. -/
theorem chain (h : error.Blames kind path words) :
    error.message :: error.causes = path.map (messageOf kind) ++ [words] := by
  obtain ⟨rfl, rfl, rfl⟩ := h
  rfl

end AppendError.Blames

namespace Aggregate

/-- A place in a nested aggregate, as it is seen from the one that holds it under a platform. -/
def under {α : Type} (platform : String) (place : List String × α) : List String × α :=
  (platform :: place.1, place.2)

/-- The registries at any depth, from left to right, each after the platforms of the adapters that
    lead down to it. -/
def places {α : Type} : Aggregate α → List (List String × α)
  | .empty => []
  | .leaf platform registry rest => ([platform], registry) :: rest.places
  | .nested platform inner rest => inner.places.map (under platform) ++ rest.places

theorem map_places {α : Type} (aggregate : Aggregate α) :
    aggregate.places.map (·.2) = aggregate.leaves := by
  induction aggregate with
  | empty => rfl
  | leaf platform registry rest ih => rw [places, List.map_cons, ih, leaves]
  | nested platform inner rest ihinner ihrest =>
      rw [places, List.map_append, List.map_map, ihrest, leaves, ← ihinner]
      rfl

/-- To change every registry is to change it at its place. -/
theorem places_map {α β : Type} (f : α → β) (aggregate : Aggregate α) :
    (aggregate.map f).places = aggregate.places.map fun place => (place.1, f place.2) := by
  induction aggregate with
  | empty => rfl
  | leaf platform registry rest ih => rw [map, places, ih, places, List.map_cons]
  | nested platform inner rest ihinner ihrest =>
      rw [map, places, ihinner, ihrest, places, List.map_append, List.map_map, List.map_map]
      rfl

theorem map_map {α β γ : Type} (f : α → β) (g : β → γ) (aggregate : Aggregate α) :
    (aggregate.map f).map g = aggregate.map fun registry => g (f registry) := by
  induction aggregate with
  | empty => rfl
  | leaf platform registry rest ih => rw [map, map, ih, map]
  | nested platform inner rest ihinner ihrest => rw [map, map, ihinner, ihrest, map]

-- ── Appending ───────────────────────────────────────────────────────────────

/-- The adapters of an aggregate without their registries. -/
def shape {α : Type} (aggregate : Aggregate α) : Aggregate Unit := aggregate.map fun _ => ()

/-- The leaf at a place with one more handler of a kind. -/
def listeningAt (kind : HandlerKind) (handler : Handler) (place : List String × Leaf) :
    List String × Leaf :=
  (place.1, place.2.listening kind handler)

variable {kind : HandlerKind} {handler : Handler}

/-- How appending a handler ends: with all leaves, or with those before the first one that
    refuses. -/
inductive Appended (kind : HandlerKind) (handler : Handler) (aggregate : Aggregate Leaf) :
    Aggregate Leaf × Option AppendError → Prop where
  | all (haccept : ∀ place ∈ aggregate.places, place.2.refusal kind = none) :
      Appended kind handler aggregate (aggregate.map (·.listening kind handler), none)
  | before {reached rest : List (List String × Leaf)} {path : List String} {leaf : Leaf}
      {words : String} {after : Aggregate Leaf} {error : AppendError}
      (hplaces : aggregate.places = reached ++ (path, leaf) :: rest)
      (haccept : ∀ place ∈ reached, place.2.refusal kind = none)
      (hrefuse : leaf.refusal kind = some words)
      (hshape : after.shape = aggregate.shape)
      (hafter : after.places = reached.map (listeningAt kind handler) ++ (path, leaf) :: rest)
      (herror : error.Blames kind path words) :
      Appended kind handler aggregate (after, some error)

/-- A leaf that accepts comes before what the others do. -/
theorem Appended.leaf {rest after : Aggregate Leaf} {error : Option AppendError}
    (h : Appended kind handler rest (after, error)) (platform : String) {first : Leaf}
    (hfirst : first.refusal kind = none) :
    Appended kind handler (.leaf platform first rest)
      (.leaf platform (first.listening kind handler) after, error) := by
  cases h with
  | all haccept => exact .all (List.forall_mem_cons.mpr ⟨hfirst, haccept⟩)
  | @before reached later path last words _ _ hplaces haccept hrefuse hshape hafter herror =>
      have hsplit : (Aggregate.leaf platform first rest).places =
          (([platform], first) :: reached) ++ (path, last) :: later :=
        congrArg (([platform], first) :: ·) hplaces
      have hchanged := congrArg (([platform], first.listening kind handler) :: ·) hafter
      exact .before hsplit (List.forall_mem_cons.mpr ⟨hfirst, haccept⟩) hrefuse
        (congrArg (Aggregate.leaf platform ()) hshape) hchanged herror

/-- A nested aggregate that stopped half-way stops the one that holds it. -/
theorem Appended.stopped {inner after : Aggregate Leaf} {error : AppendError}
    (h : Appended kind handler inner (after, some error)) (platform : String)
    (rest : Aggregate Leaf) :
    Appended kind handler (.nested platform inner rest)
      (.nested platform after rest, some (error.within platform)) := by
  cases h with
  | @before reached later path leaf words _ _ hplaces haccept hrefuse hshape hafter herror =>
      have hsplit : (Aggregate.nested platform inner rest).places =
          reached.map (under platform) ++
            (platform :: path, leaf) :: (later.map (under platform) ++ rest.places) := by
        rw [places, hplaces, List.map_append, List.map_cons, List.append_assoc, List.cons_append]
        rfl
      have hchanged : (Aggregate.nested platform after rest).places =
          (reached.map (under platform)).map (listeningAt kind handler) ++
            (platform :: path, leaf) :: (later.map (under platform) ++ rest.places) := by
        rw [places, hafter, List.map_append, List.map_cons, List.append_assoc, List.cons_append,
          List.map_map, List.map_map]
        rfl
      exact .before hsplit (List.forall_mem_map.mpr haccept) hrefuse
        (congrArg (Aggregate.nested platform · rest.shape) hshape) hchanged
        (herror.within platform)

/-- A nested aggregate that accepts comes before what the others do. -/
theorem Appended.nested {inner rest after : Aggregate Leaf} {error : Option AppendError}
    (hinner : ∀ place ∈ inner.places, place.2.refusal kind = none)
    (h : Appended kind handler rest (after, error)) (platform : String) :
    Appended kind handler (.nested platform inner rest)
      (.nested platform (inner.map (·.listening kind handler)) after, error) := by
  have hnested : ∀ place ∈ inner.places.map (under platform), place.2.refusal kind = none :=
    List.forall_mem_map.mpr hinner
  cases h with
  | all haccept => exact .all (List.forall_mem_append.mpr ⟨hnested, haccept⟩)
  | @before reached later path leaf words _ _ hplaces haccept hrefuse hshape hafter herror =>
      have hsplit : (Aggregate.nested platform inner rest).places =
          (inner.places.map (under platform) ++ reached) ++ (path, leaf) :: later := by
        rw [places, hplaces, List.append_assoc]
      have hsame : (Aggregate.nested platform (inner.map (·.listening kind handler)) after).shape =
          (Aggregate.nested platform inner rest).shape := by
        refine (congrArg (Aggregate.nested platform _) hshape).trans ?_
        rw [shape, map_map]
        rfl
      have hchanged :
          (Aggregate.nested platform (inner.map (·.listening kind handler)) after).places =
            (inner.places.map (under platform) ++ reached).map (listeningAt kind handler) ++
              (path, leaf) :: later := by
        rw [places, hafter, places_map, List.map_map, List.map_append, List.map_map,
          List.append_assoc]
        rfl
      exact .before hsplit (List.forall_mem_append.mpr ⟨hnested, haccept⟩) hrefuse hsame hchanged
        herror

/-- Each adapter does what it does to its own leaves, up to the first one that refuses. -/
theorem appended_appendHandler (kind : HandlerKind) (handler : Handler)
    (aggregate : Aggregate Leaf) :
    Appended kind handler aggregate (aggregate.appendHandler kind handler) := by
  induction aggregate with
  | empty => exact .all (List.forall_mem_nil _)
  | leaf platform first rest ih =>
      rw [appendHandler]
      cases hfirst : first.refusal kind with
      | some words =>
          have hsplit : (Aggregate.leaf platform first rest).places =
              [] ++ ([platform], first) :: rest.places := rfl
          exact .before hsplit (List.forall_mem_nil _) hfirst rfl rfl ⟨rfl, rfl, rfl⟩
      | none => exact Appended.leaf ih platform hfirst
  | nested platform inner rest ihinner ihrest =>
      rw [appendHandler]
      cases hinner : inner.appendHandler kind handler with
      | mk after error =>
          rw [hinner] at ihinner
          cases error with
          | some error => exact ihinner.stopped platform rest
          | none =>
              cases ihinner with
              | all haccept => exact Appended.nested haccept ihrest platform

/-- A handler that no leaf refused listens to all of them. -/
theorem mem_handlers_of_append {before after : Aggregate Leaf}
    (h : before.appendHandler .services handler = (after, none)) :
    ∀ member ∈ after.leaves, handler ∈ member.registry.serviceHandlers := by
  have happended := appended_appendHandler .services handler before
  rw [h] at happended
  cases happended with
  | all _ =>
      rw [leaves_map]
      refine List.forall_mem_map.mpr fun member _ => ?_
      exact List.mem_append_right _ (List.mem_singleton_self handler)

-- ── Changes of the leaves ───────────────────────────────────────────────────

/-- What reaches handlers when the leaf at a position is changed, together with the position. -/
def deliveriesAt (aggregate : Aggregate Leaf) (position : Nat) (mutation : Mutation) :
    List (Nat × Delivery) :=
  match aggregate.leaves[position]? with
  | some member => (member.registry.deliveries mutation).map (position, ·)
  | none => []

/-- What reaches handlers in the course of changes, each to the leaf at a position. -/
def deliveries (aggregate : Aggregate Leaf) : List (Nat × Mutation) → List (Nat × Delivery)
  | [] => []
  | (position, mutation) :: rest =>
      aggregate.deliveriesAt position mutation ++ (aggregate.mutate position mutation).deliveries rest

/-- What is of the leaf at a position. -/
def ofLeaf {α : Type} (position : Nat) (items : List (Nat × α)) : List α :=
  (items.filter (·.1 = position)).map (·.2)

theorem ofLeaf_append {α : Type} (position : Nat) (first second : List (Nat × α)) :
    ofLeaf position (first ++ second) = ofLeaf position first ++ ofLeaf position second := by
  rw [ofLeaf, List.filter_append, List.map_append, ofLeaf, ofLeaf]

theorem ofLeaf_tagged {α : Type} (position tag : Nat) (items : List α) :
    ofLeaf position (items.map (tag, ·)) = if tag = position then items else [] := by
  rw [ofLeaf, List.filter_map]
  by_cases htag : tag = position
  · rw [if_pos htag, List.filter_eq_self.mpr fun _ _ => by simpa using htag, List.map_map]
    exact List.map_id _
  · rw [if_neg htag, List.filter_eq_nil_iff.mpr fun _ _ => by simpa using htag]
    rfl

theorem ofLeaf_cons {α : Type} (position tag : Nat) (item : α) (rest : List (Nat × α)) :
    ofLeaf position ((tag, item) :: rest) =
      (if tag = position then [item] else []) ++ ofLeaf position rest :=
  (ofLeaf_append position [(tag, item)] rest).trans
    (congrArg (· ++ _) (ofLeaf_tagged position tag [item]))

/-- A change goes to the registry of the leaf at its position. -/
theorem getElem?_mutate (aggregate : Aggregate Leaf) (changed : Nat) (mutation : Mutation)
    (position : Nat) :
    (aggregate.mutate changed mutation).leaves[position]? =
      if changed = position then
        aggregate.leaves[position]?.map fun member =>
          { member with registry := member.registry.mutate mutation }
      else aggregate.leaves[position]? := by
  rw [mutate, leaves_modify, List.getElem?_modify]
  by_cases h : changed = position <;> simp [h]

theorem ofLeaf_deliveriesAt_of_ne (aggregate : Aggregate Leaf) {changed position : Nat}
    (mutation : Mutation) (h : changed ≠ position) :
    ofLeaf position (aggregate.deliveriesAt changed mutation) = [] := by
  rw [deliveriesAt]
  cases aggregate.leaves[changed]? with
  | none => rfl
  | some member => rw [ofLeaf_tagged, if_neg h]

/-- What is heard of a leaf is what it tells in the course of its own changes. -/
theorem heard_deliveries {aggregate : Aggregate Leaf} {position : Nat} {leaf : Leaf}
    (hleaf : aggregate.leaves[position]? = some leaf) (changes : List (Nat × Mutation)) :
    ofLeaf position (aggregate.deliveries changes) =
      leaf.registry.allDeliveries (ofLeaf position changes) := by
  induction changes generalizing aggregate leaf with
  | nil => rfl
  | cons change rest ih =>
      obtain ⟨changed, mutation⟩ := change
      have hafter := getElem?_mutate aggregate changed mutation position
      rw [deliveries, ofLeaf_append, ofLeaf_cons]
      -- the leaf tells of its own change, and goes on as it is after that of another leaf
      by_cases hchanged : changed = position
      · subst hchanged
        rw [if_pos rfl, hleaf] at hafter
        rw [ih hafter, deliveriesAt, hleaf]
        simp only [ofLeaf_tagged, if_pos]
        rfl
      · rw [if_neg hchanged, hleaf] at hafter
        rw [ih hafter, ofLeaf_deliveriesAt_of_ne aggregate mutation hchanged, if_neg hchanged]
        rfl

-- ── What a handler reaches ──────────────────────────────────────────────────

/-- A handler of a kind was appended to the leaves before a position, and to no other. -/
structure Reaches (kind : HandlerKind) (handler : Handler) (reached : Nat)
    (before after : Aggregate Leaf) : Prop where
  /-- There are the same adapters under the same platforms. -/
  shape : after.shape = before.shape
  /-- The leaves before the position hold the handler once more, and no other leaf is changed. -/
  leaves : after.leaves =
    (before.leaves.take reached).map (·.listening kind handler) ++ before.leaves.drop reached
  /-- The handlers of another kind are the same. -/
  others : ∀ other, other ≠ kind →
    after.leaves.map (·.registry.listeners other) = before.leaves.map (·.registry.listeners other)
  /-- Whatever changes the leaves later, in whatever order, all who listen hear the notices of each
      leaf in its order, as often as the leaf held them before, and the handler hears those of the
      kind once more if the leaf is before the position. -/
  heard : ∀ position member, before.leaves[position]? = some member → ∀ changes listener,
    Registry.received listener (ofLeaf position (after.deliveries changes)) =
      (member.registry.told (ofLeaf position changes)).flatMap fun notice =>
        List.replicate ((member.registry.listeners notice.kind).count listener +
          if position < reached ∧ notice.kind = kind ∧ listener = handler then 1 else 0) notice
  /-- So a handler that is new to a leaf hears the notices of the kind once each. -/
  once : ∀ position member, before.leaves[position]? = some member →
    (∀ other, handler ∉ member.registry.listeners other) → ∀ changes,
    Registry.received handler (ofLeaf position (after.deliveries changes)) =
      if position < reached then
        (member.registry.told (ofLeaf position changes)).filter (·.kind = kind)
      else []

section

variable {first rest : List Leaf} {before after : Aggregate Leaf}
  (hbefore : before.leaves = first ++ rest)
  (hafter : after.leaves = first.map (·.listening kind handler) ++ rest)

include hbefore hafter

theorem getElem?_leaves_of_listening {position : Nat} {member : Leaf}
    (hmember : before.leaves[position]? = some member) :
    after.leaves[position]? =
      some (if position < first.length then member.listening kind handler else member) := by
  rw [hbefore, List.getElem?_append] at hmember
  rw [hafter, List.getElem?_append, List.length_map, List.getElem?_map]
  by_cases hlt : position < first.length
  · rw [if_pos hlt] at hmember
    rw [if_pos hlt, if_pos hlt, hmember, Option.map_some]
  · rw [if_neg hlt] at hmember
    rw [if_neg hlt, if_neg hlt, hmember]

/-- Whoever listens to the leaves hears each notice as often as before, and the handler hears those
    of its kind once more from the leaves that took it. -/
theorem received_of_listening {position : Nat} {member : Leaf}
    (hmember : before.leaves[position]? = some member) (changes : List (Nat × Mutation))
    (listener : Handler) :
    Registry.received listener (ofLeaf position (after.deliveries changes)) =
      (member.registry.told (ofLeaf position changes)).flatMap fun notice =>
        List.replicate ((member.registry.listeners notice.kind).count listener +
          if position < first.length ∧ notice.kind = kind ∧ listener = handler then 1 else 0)
          notice := by
  rw [heard_deliveries (getElem?_leaves_of_listening hbefore hafter hmember)]
  by_cases hlt : position < first.length
  · simp only [hlt, true_and]
    exact member.received_listening kind handler listener _
  · simp only [hlt, false_and, if_false, Nat.add_zero]
    exact member.registry.received_allDeliveries listener _

/-- All the rest follows from which leaves took the handler. -/
theorem reaches_of_leaves (hshape : after.shape = before.shape) :
    Reaches kind handler first.length before after where
  shape := hshape
  leaves := by rw [hafter, hbefore, List.take_left, List.drop_left]
  others other hne := by
    rw [hafter, hbefore, List.map_append, List.map_append, List.map_map]
    refine congrArg (· ++ _) (List.map_congr_left fun member _ => ?_)
    exact member.listeners_listening_of_ne handler hne
  heard _ _ hmember := received_of_listening hbefore hafter hmember
  once position member hmember hnew changes := by
    rw [received_of_listening hbefore hafter hmember]
    simp only [List.count_eq_zero.mpr (hnew _), Nat.zero_add, and_true]
    rw [flatMap_replicate_ite]
    by_cases hlt : position < first.length
    · simp only [hlt, true_and, if_true]
    · simp [hlt]

end

/-- Whether a leaf refuses decides how far a handler gets. It is appended to all leaves exactly if
    none of them refuses, and otherwise to those before the first one that refuses. In that case
    the error names the kind and the adapter under which this leaf stands, and its causes name the
    adapters from there down to the leaf, and then the words of the leaf. -/
theorem appendHandler_reaches (aggregate : Aggregate Leaf) (kind : HandlerKind)
    (handler : Handler) :
    ∃ reached after error, aggregate.appendHandler kind handler = (after, error) ∧
      Reaches kind handler reached aggregate after ∧
      (error = none ↔ ∀ member ∈ aggregate.leaves, member.refusal kind = none) ∧
      (∀ member ∈ aggregate.leaves.take reached, member.refusal kind = none) ∧
      ((error = none ∧ reached = aggregate.leaves.length) ∨
        ∃ path member words refused, aggregate.places[reached]? = some (path, member) ∧
          member.refusal kind = some words ∧ error = some refused ∧
          refused.Blames kind path words ∧
          refused.message :: refused.causes =
            path.map (AppendError.messageOf kind) ++ [words]) := by
  have happended := appended_appendHandler kind handler aggregate
  have hmap := aggregate.map_places
  generalize aggregate.appendHandler kind handler = result at happended ⊢
  cases happended with
  | all haccept =>
      have hall : ∀ member ∈ aggregate.leaves, member.refusal kind = none := by
        rw [← hmap]
        exact List.forall_mem_map.mpr haccept
      have hlisten : (aggregate.map (·.listening kind handler)).leaves =
          aggregate.leaves.map (·.listening kind handler) ++ [] := by
        rw [leaves_map, List.append_nil]
      refine ⟨aggregate.leaves.length, _, none, rfl,
        reaches_of_leaves (List.append_nil _).symm hlisten (aggregate.map_map _ _),
        iff_of_true rfl hall, ?_, Or.inl ⟨rfl, rfl⟩⟩
      rwa [List.take_length]
  | @before reached later path member words after error hplaces haccept hrefuse hshape hafter
      herror =>
      have hleaves : aggregate.leaves = reached.map (·.2) ++ (member :: later.map (·.2)) := by
        rw [← hmap, hplaces, List.map_append, List.map_cons]
      have hlisten : after.leaves =
          (reached.map (·.2)).map (·.listening kind handler) ++ (member :: later.map (·.2)) := by
        rw [← map_places, hafter, List.map_append, List.map_cons, List.map_map, List.map_map]
        rfl
      have hfirst : aggregate.places[(reached.map (·.2)).length]? = some (path, member) := by
        rw [hplaces, List.length_map, List.getElem?_append_right (Nat.le_refl _), Nat.sub_self]
        rfl
      have hmember : member ∈ aggregate.leaves := by
        rw [hleaves]
        exact List.mem_append_right _ (List.mem_cons_self ..)
      refine ⟨_, after, some error, rfl, reaches_of_leaves hleaves hlisten hshape,
        iff_of_false nofun fun hall => ?_, ?_,
        Or.inr ⟨path, member, words, error, hfirst, hrefuse, rfl, herror, herror.chain⟩⟩
      · exact nomatch hrefuse.symm.trans (hall member hmember)
      · rw [hleaves, List.take_left]
        exact List.forall_mem_map.mpr haccept

-- ── An aggregate in which one leaf refuses ──────────────────────────────────

/-- A leaf of a nested aggregate, after one that accepts and before another one, refuses those who
    listen to services. -/
def refusedHalfway : Aggregate Leaf :=
  .leaf "file" { registry := { catalog := ∅ } }
    (.nested "consul"
      (.leaf "memory" { registry := { catalog := ∅ } }
        (.leaf "eureka"
          { registry := { catalog := ∅ }
            refusal := fun kind => if kind = .services then some "no handlers" else none } .empty))
      (.leaf "last" { registry := { catalog := ∅ } } .empty))

/-- Its leaves are changed, the refusing one first, and the first one twice. -/
def changesOfAll : List (Nat × Mutation) :=
  [(2, .addService Registry.reviews), (3, .addService Registry.reviews),
   (0, .addService Registry.reviews), (1, .addService Registry.reviews),
   (0, .removeService "reviews")]

/-- The error tells the way down to the leaf that refused. The two leaves before it tell the handler
    of their changes, and the other two do not. -/
theorem refusedHalfway_heard :
    ∃ after refused, refusedHalfway.appendHandler .services 7 = (after, some refused) ∧
      refused.message :: refused.causes =
        ["failed to append service handler to consul registry",
         "failed to append service handler to eureka registry", "no handlers"] ∧
      [0, 1, 2, 3].map (fun position =>
          Registry.received 7 (ofLeaf position (after.deliveries changesOfAll))) =
        [[.serviceChanged Registry.reviews .add, .serviceChanged Registry.reviews .delete],
         [.serviceChanged Registry.reviews .add], [], []] := by
  obtain ⟨reached, after, error, happend, hreaches, -, -, hend⟩ :=
    appendHandler_reaches refusedHalfway .services 7
  obtain ⟨rfl, -⟩ | ⟨path, member, words, refused, hplace, hrefuse, rfl, -, hchain⟩ := hend
  · exact nomatch congrArg (·.2.isSome) happend
  · have hreached : reached = 2 := by
      match reached, hplace with
      | 0, rfl => exact nomatch hrefuse
      | 1, rfl => exact nomatch hrefuse
      | 2, _ => rfl
      | 3, rfl => exact nomatch hrefuse
    subst hreached
    obtain ⟨rfl, rfl⟩ := Prod.mk.inj (Option.some.inj hplace)
    obtain rfl : "no handlers" = words := Option.some.inj hrefuse
    refine ⟨after, refused, happend, hchain.trans (by decide), ?_⟩
    have hnew : ∀ other, 7 ∉ ({ catalog := ∅ } : Registry).listeners other := by
      rintro (_ | _) <;> exact nofun
    simp only [List.map_cons, List.map_nil]
    rw [hreaches.once 0 _ rfl hnew, hreaches.once 1 _ rfl hnew, hreaches.once 2 _ rfl hnew,
      hreaches.once 3 _ rfl hnew]
    decide +kernel

end Aggregate

end MeshSidecar
