import Mathlib.Logic.Relation
import MeshSidecar.Proofs.Json.Members

/-!
# Unknown and repeated fields

A document holds the values of a reader at the places at which the readers that it is read with come
to them (`StandsIn`): as the whole document, as an item of an array, as a value of a table, or as a
field of a record, written as an object or as an array. What is made of the document is told by what
is made of the value at such a place (`StandsIn.toldBy`): it is the same if that is the same, and
fails if that fails.

So one more unknown field at any object of a record that is not strict changes nothing
(`Record.Inserts.document_eq`), one at any object of a strict record makes the document fail
(`Record.refusesUnknown`), and so does a known field that is repeated, in any record
(`Record.refusesRepeated`).
-/

namespace MeshSidecar

open Json Scan

variable {α β : Type}

-- ── Faults ──────────────────────────────────────────────────────────────────

/-- Reading came to nothing. -/
def Fails (result : Except Fault α) : Prop := ∃ fault, result = .error fault

theorem fails_error (fault : Fault) : Fails (.error fault : Except Fault α) := ⟨fault, rfl⟩

/-- What goes on with something that fails, fails. -/
theorem Fails.bind {result : Except Fault α} (h : Fails result) (f : α → Except Fault β) :
    Fails (result >>= f) := by
  obtain ⟨fault, rfl⟩ := h
  exact ⟨fault, rfl⟩

/-- What goes on with a failure, fails. -/
theorem fails_bind {f : α → Except Fault β} (result : Except Fault α) (h : ∀ a, Fails (f a)) :
    Fails (result >>= f) := by
  cases result with
  | error fault => exact ⟨fault, rfl⟩
  | ok a => exact h a

theorem Fails.map {result : Except Fault α} (h : Fails result) (f : α → β) :
    Fails (result.map f) := by
  obtain ⟨fault, rfl⟩ := h
  exact ⟨fault, rfl⟩

-- ── What is told by a part ──────────────────────────────────────────────────

/-- What is made of a document is told by what is made of a part of it, and fails if that fails. -/
def ToldBy (part : Tree → Except Fault β) (whole : Tree → Except Fault α) : Prop :=
  ∃ complete : Except Fault β → Except Fault α,
    (∀ tree, whole tree = complete (part tree)) ∧ ∀ fault, Fails (complete (.error fault))

section

variable {γ : Type} {part : Tree → Except Fault β} {whole : Tree → Except Fault α}

theorem toldBy_self : ToldBy part part := ⟨id, fun _ => rfl, fails_error⟩

theorem toldBy_error (fault : Fault) : ToldBy part fun _ => (.error fault : Except Fault α) :=
  ⟨fun _ => .error fault, fun _ => rfl, fun _ => fails_error fault⟩

/-- The same is made of documents that differ in parts of which the same is made. -/
theorem ToldBy.eq (h : ToldBy part whole) {a b : Tree} (hsame : part a = part b) :
    whole a = whole b := by
  obtain ⟨complete, hcomplete, -⟩ := h
  rw [hcomplete, hcomplete, hsame]

theorem ToldBy.fails (h : ToldBy part whole) {tree : Tree} (hfails : Fails (part tree)) :
    Fails (whole tree) := by
  obtain ⟨complete, hcomplete, hfail⟩ := h
  obtain ⟨fault, hfault⟩ := hfails
  rw [hcomplete, hfault]
  exact hfail fault

theorem ToldBy.of_eq {other : Tree → Except Fault α} (h : ToldBy part whole)
    (heq : ∀ tree, other tree = whole tree) : ToldBy part other :=
  funext heq ▸ h

theorem ToldBy.map (h : ToldBy part whole) (f : α → γ) :
    ToldBy part fun tree => (whole tree).map f := by
  obtain ⟨complete, hcomplete, hfails⟩ := h
  exact ⟨fun result => (complete result).map f, fun tree => congrArg _ (hcomplete tree),
    fun fault => (hfails fault).map f⟩

/-- What goes on with something that is told by a part is told by it. -/
theorem ToldBy.bind (h : ToldBy part whole) (f : α → Except Fault γ) :
    ToldBy part fun tree => whole tree >>= f := by
  obtain ⟨complete, hcomplete, hfails⟩ := h
  exact ⟨fun result => complete result >>= f, fun tree => congrArg (· >>= f) (hcomplete tree),
    fun fault => (hfails fault).bind f⟩

/-- What may come before it is whatever does not depend on the part. -/
theorem toldBy_bind {whole : γ → Tree → Except Fault α} (before : Except Fault γ)
    (h : ∀ value, ToldBy part (whole value)) :
    ToldBy part fun tree => before >>= fun value => whole value tree := by
  cases before with
  | error fault => exact toldBy_error fault
  | ok value => exact h value

end

-- ── The members of an object ────────────────────────────────────────────────

namespace Record

variable {record : Record α} {key : StringToken} {name : String}

/-- The names of the fields. -/
def names (record : Record α) : List String := record.fields.map (·.name)

theorem find?_eq_none (h : name ∉ record.names) :
    record.fields.find? (·.name = name) = none := by
  rw [List.find?_eq_none]
  intro field hfield hname
  exact h (List.mem_map.mpr ⟨field, hfield, of_decide_eq_true hname⟩)

theorem exists_find? (h : name ∈ record.names) :
    ∃ field, record.fields.find? (·.name = name) = some field := by
  obtain ⟨field, hfield, hname⟩ := List.mem_map.mp h
  exact Option.isSome_iff_exists.mp
    (List.find?_isSome.mpr ⟨field, hfield, decide_eq_true hname⟩)

/-- One more unknown field changes nothing, unless the record is strict. -/
theorem ofMembers_insert (hstrict : record.strict = false) (hkey : key.Spells name)
    (hunknown : name ∉ record.names) (value : Tree) (before after : List (StringToken × Tree)) :
    record.ofMembers (before ++ (key, value) :: after) = record.ofMembers (before ++ after) := by
  have hskip : ∀ state, record.step state (key, value) = .ok state := fun state =>
    step_skipped hkey.decoded_eq (find?_eq_none hunknown) hstrict
  rw [ofMembers, ofMembers, List.foldlM_append, List.foldlM_append]
  congr 1
  refine congrArg _ (funext fun state => ?_)
  rw [List.foldlM_cons, hskip]
  rfl

/-- A strict record has no unknown field. -/
theorem ofMembers_refused (hstrict : record.strict = true) (hkey : key.Spells name)
    (hunknown : name ∉ record.names) (value : Tree) (before after : List (StringToken × Tree)) :
    Fails (record.ofMembers (before ++ (key, value) :: after)) := by
  have hrefused : ∀ state, Fails (record.step state (key, value)) := fun state =>
    ⟨_, step_refused hkey.decoded_eq (find?_eq_none hunknown) hstrict⟩
  rw [ofMembers, List.foldlM_append]
  refine Fails.bind (fails_bind _ fun state => ?_) _
  rw [List.foldlM_cons]
  exact (hrefused state).bind _

/-- A field that was written stays so. -/
theorem step_seen {state next : List String × α} {member : StringToken × Tree}
    (h : record.step state member = .ok next) (hseen : name ∈ state.1) : name ∈ next.1 := by
  cases hdecoded : member.1.decoded with
  | error offence =>
      rw [step_of_decoded_error hdecoded] at h
      cases h
  | ok other =>
      cases hfind : record.fields.find? (·.name = other) with
      | none =>
          cases hstrict : record.strict with
          | true =>
              rw [step_refused hdecoded hfind hstrict] at h
              cases h
          | false =>
              rw [step_skipped hdecoded hfind hstrict] at h
              cases h
              exact hseen
      | some field =>
          cases hother : state.1.contains other with
          | true =>
              rw [step_repeated hdecoded hfind hother] at h
              cases h
          | false =>
              rw [step_field hdecoded hfind hother] at h
              cases hread : field.change.outcome member.2 with
              | error fault =>
                  rw [hread] at h
                  cases h
              | ok change =>
                  rw [hread] at h
                  cases h
                  exact List.mem_cons_of_mem _ hseen

theorem foldlM_seen {members : List (StringToken × Tree)} {state next : List String × α}
    (h : members.foldlM record.step state = .ok next) (hseen : name ∈ state.1) :
    name ∈ next.1 := by
  induction members generalizing state with
  | nil =>
      cases h
      exact hseen
  | cons member members ih =>
      rw [List.foldlM_cons] at h
      cases hstep : record.step state member with
      | error fault =>
          rw [hstep] at h
          cases h
      | ok middle =>
          rw [hstep] at h
          exact ih h (step_seen hstep hseen)

/-- No record has a known field twice. -/
theorem ofMembers_repeated {first second : StringToken} (hfirst : first.Spells name)
    (hsecond : second.Spells name) (hknown : name ∈ record.names) (x y : Tree)
    (before between after : List (StringToken × Tree)) :
    Fails (record.ofMembers (before ++ (first, x) :: (between ++ (second, y) :: after))) := by
  obtain ⟨field, hfind⟩ := exists_find? hknown
  rw [ofMembers, List.foldlM_append]
  refine Fails.bind (fails_bind _ fun start => ?_) _
  rw [List.foldlM_cons]
  -- the first one is refused, or it has been written from there on
  cases hstep : record.step start (first, x) with
  | error fault => exact fails_error fault
  | ok state =>
      have hseen : name ∈ state.1 := by
        cases hcontains : start.1.contains name with
        | true => exact step_seen hstep (List.contains_iff_mem.mp hcontains)
        | false =>
            rw [step_field hfirst.decoded_eq hfind hcontains] at hstep
            cases hread : field.change.outcome x with
            | error fault =>
                rw [hread] at hstep
                cases hstep
            | ok change =>
                rw [hread] at hstep
                cases hstep
                exact List.mem_cons_self ..
      show Fails ((between ++ (second, y) :: after).foldlM record.step state)
      rw [List.foldlM_append]
      cases hmiddle : between.foldlM record.step state with
      | error fault => exact fails_error fault
      | ok middle =>
          have hcontains : middle.1.contains name = true :=
            List.contains_iff_mem.mpr (foldlM_seen hmiddle hseen)
          show Fails (((second, y) :: after).foldlM record.step middle)
          rw [List.foldlM_cons, step_repeated hsecond.decoded_eq hfind hcontains]
          exact fails_error _

/-- What a field does is told by what is made of its value. -/
theorem toldBy_step {part : Tree → Except Fault β} {field : Field α} {place : Tree → Tree}
    (h : ToldBy part fun tree => field.change.outcome (place tree))
    (hfind : record.fields.find? (·.name = name) = some field) (hkey : key.Spells name)
    (state : List String × α) : ToldBy part fun tree => record.step state (key, place tree) := by
  cases hseen : state.1.contains name with
  | true =>
      exact (toldBy_error _).of_eq fun tree => step_repeated hkey.decoded_eq hfind hseen
  | false =>
      exact (h.map fun change => (name :: state.1, change state.2)).of_eq fun tree =>
        step_field hkey.decoded_eq hfind hseen

-- ── The items of an array ───────────────────────────────────────────────────

/-- The item that stands for a field is taken after the ones that stand for earlier fields. -/
theorem arrange_append (record : Record α) {earlier : List (Field α)} (field : Field α)
    (later : List (Field α)) {before : List Tree} (hlength : before.length = earlier.length)
    (after : List Tree) (index : Nat) (value : α) : ∃ (start : Except Fault α) (next : Nat),
    ∀ tree, record.arrange (earlier ++ field :: later) index value (before ++ tree :: after) =
      start >>= fun value => field.change.outcome tree >>= fun change =>
        record.arrange later next (change value) after := by
  induction earlier generalizing before index value with
  | nil =>
      obtain rfl := List.eq_nil_of_length_eq_zero hlength
      exact ⟨.ok value, index + 1, fun tree => rfl⟩
  | cons other earlier ih =>
      cases before with
      | nil => exact absurd hlength (Nat.zero_ne_add_one _)
      | cons item before =>
          have hlength := Nat.succ.inj hlength
          cases hread : other.change.outcome item with
          | error fault =>
              refine ⟨.error fault, index, fun tree => ?_⟩
              rw [List.cons_append, List.cons_append, arrange, hread]
              rfl
          | ok change =>
              obtain ⟨start, next, hnext⟩ := ih hlength (index + 1) (change value)
              refine ⟨start, next, fun tree => ?_⟩
              rw [List.cons_append, List.cons_append, arrange, hread, ← hnext]
              rfl

end Record

-- ── Places within a document ────────────────────────────────────────────────

/-- A document that is read by `outer` holds at a place what is read by `inner`. -/
inductive StandsIn (inner : Reader β) : {α : Type} → Reader α → (Tree → Tree) → Prop where
  | here : StandsIn inner inner fun tree => tree
  | map {α γ : Type} {outer : Reader α} {place : Tree → Tree} (f : α → γ)
      (h : StandsIn inner outer place) : StandsIn inner (outer.map f) place
  | item {α : Type} {outer : Reader α} {place : Tree → Tree} (before after : List Tree)
      (h : StandsIn inner outer place) :
      StandsIn inner (.listOf outer) fun tree => .array (before ++ place tree :: after)
  | entry {α : Type} {outer : Reader α} {place : Tree → Tree}
      (before after : List (StringToken × Tree)) (key : StringToken)
      (h : StandsIn inner outer place) :
      StandsIn inner (.tableOf outer) fun tree => .object (before ++ (key, place tree) :: after)
  | field {α : Type} {record : Record α} {field : Field α} {place : Tree → Tree}
      {key : StringToken} {name : String} (hlocal : record.Local)
      (hfind : record.fields.find? (·.name = name) = some field) (hkey : key.Spells name)
      (before after : List (StringToken × Tree)) (h : StandsIn inner field.change place) :
      StandsIn inner record.read fun tree => .object (before ++ (key, place tree) :: after)
  | element {α : Type} {record : Record α} {field : Field α} {place : Tree → Tree}
      {earlier later : List (Field α)} {before : List Tree} (hlocal : record.Local)
      (hfields : record.fields = earlier ++ field :: later)
      (hlength : before.length = earlier.length) (after : List Tree)
      (h : StandsIn inner field.change place) :
      StandsIn inner record.read fun tree => .array (before ++ place tree :: after)

namespace StandsIn

variable {inner : Reader β} {outer : Reader α} {place : Tree → Tree}

theorem mandatory {γ : Type} (h : StandsIn inner outer place) (name : String) (set : α → γ → γ) :
    StandsIn inner (Field.mandatory name outer set).change place :=
  .map set h

theorem defaulted {γ : Type} (h : StandsIn inner outer place) (name : String) (set : α → γ → γ) :
    StandsIn inner (Field.defaulted name outer set).change place :=
  .map set h

/-- A place within a place is a place. -/
theorem trans {γ : Type} {innermost : Reader γ} {place' : Tree → Tree}
    (h : StandsIn inner outer place) (h' : StandsIn innermost inner place') :
    StandsIn innermost outer fun tree => place (place' tree) := by
  induction h with
  | here => exact h'
  | map f _ ih => exact .map f ih
  | item before after _ ih => exact .item before after ih
  | entry before after key _ ih => exact .entry before after key ih
  | field hlocal hfind hkey before after _ ih => exact .field hlocal hfind hkey before after ih
  | element hlocal hfields hlength after _ ih => exact .element hlocal hfields hlength after ih

/-- A document is local if the values within it are. -/
theorem isLocal (h : StandsIn inner outer place) (hlocal : inner.Local) : outer.Local := by
  induction h with
  | here => exact hlocal
  | map f _ ih => exact ih.map f
  | item _ _ _ ih => exact Reader.local_listOf ih
  | entry _ _ _ _ ih => exact Reader.local_tableOf ih
  | field hrecord _ _ _ _ _ _ => exact hrecord.read
  | element hrecord _ _ _ _ _ => exact hrecord.read

/-- What is made of a document is told by what is made of the value at a place within it. -/
theorem toldBy (h : StandsIn inner outer place) (hlocal : inner.Local) :
    ToldBy inner.outcome fun tree => outer.outcome (place tree) := by
  induction h with
  | here => exact toldBy_self
  | @map α γ outer place f _ ih =>
      exact (ih.map f).of_eq fun tree => Reader.map_outcome f outer (place tree)
  | @item α outer place before after h ih =>
      refine ToldBy.of_eq (toldBy_bind (before.mapM outer.outcome) fun front =>
        (ih.bind fun value => after.mapM outer.outcome >>= fun back =>
          pure (value :: back)).bind fun back => pure (front ++ back)) fun tree => ?_
      rw [(Reader.listOf_tells (h.isLocal hlocal) _).outcome_eq, List.mapM_append, List.mapM_cons]
  | @entry α outer place before after key h ih =>
      have hentry : ToldBy inner.outcome fun tree => outer.entry (key, place tree) :=
        toldBy_bind (Reader.scanned key.decoded) fun name => ih.bind fun value => pure (name, value)
      refine ToldBy.of_eq ((toldBy_bind (before.mapM outer.entry) fun front =>
        (hentry.bind fun member => after.mapM outer.entry >>= fun back =>
          pure (member :: back)).bind fun back => pure (front ++ back)).map NameTable.ofList)
        fun tree => ?_
      rw [(Reader.tableOf_tells (h.isLocal hlocal) _).outcome_eq, List.mapM_append, List.mapM_cons]
  | @field α record field place key name hrecord hfind hkey before after h ih =>
      have hstep := Record.toldBy_step ih hfind hkey
      refine ToldBy.of_eq ((toldBy_bind (before.foldlM record.step ([], record.blank)) fun state =>
        (hstep state).bind fun state => after.foldlM record.step state).bind record.close)
        fun tree => ?_
      rw [(Record.read_tells_object hrecord _).outcome_eq, Record.ofMembers, List.foldlM_append]
      simp only [List.foldlM_cons]
  | @element α record field place earlier later before hrecord hfields hlength after h ih =>
      obtain ⟨start, next, hnext⟩ :=
        record.arrange_append field later hlength after 0 record.blank
      refine ToldBy.of_eq (toldBy_bind start fun value => ih.bind fun change =>
        record.arrange later next (change value) after) fun tree => ?_
      rw [(Record.read_tells_array hrecord _).outcome_eq, hfields, hnext]

/-- Documents that differ only in values of which the same is made are read alike. -/
theorem document_eq (h : StandsIn inner outer place) (hlocal : inner.Local) {a b : Tree}
    (hsame : inner.outcome a = inner.outcome b) {x y : Bytes} (hx : (place a).WrittenIn x)
    (hy : (place b).WrittenIn y) : outer.document x = outer.document y := by
  have heq : outer.outcome (place a) = outer.outcome (place b) := (h.toldBy hlocal).eq hsame
  rw [(h.isLocal hlocal).document hx, (h.isLocal hlocal).document hy, heq]

/-- A document fails if a value within it does. -/
theorem document_fails (h : StandsIn inner outer place) (hlocal : inner.Local) {tree : Tree}
    (hfails : Fails (inner.outcome tree)) {x : Bytes} (hx : (place tree).WrittenIn x) :
    Fails (outer.document x) := by
  rw [(h.isLocal hlocal).document hx]
  exact (h.toldBy hlocal).fails hfails

end StandsIn

-- ── Fields that are inserted ────────────────────────────────────────────────

namespace Record

/-- One more unknown field at one object of the record, anywhere in a document. -/
inductive Inserts (record : Record β) (outer : Reader α) : Tree → Tree → Prop where
  | intro {place : Tree → Tree} (hplace : StandsIn record.read outer place)
      {key : StringToken} {name : String} (hkey : key.Spells name)
      (hunknown : name ∉ record.names) (value : Tree) (before after : List (StringToken × Tree)) :
      Inserts record outer (place (.object (before ++ after)))
        (place (.object (before ++ (key, value) :: after)))

variable {record : Record β} {outer : Reader α}

/-- It changes nothing, unless the record is strict. -/
theorem Inserts.document_eq {a b : Tree} (h : record.Inserts outer a b) (hlocal : record.Local)
    (hstrict : record.strict = false) {x y : Bytes} (hx : a.WrittenIn x) (hy : b.WrittenIn y) :
    outer.document y = outer.document x := by
  cases h with
  | intro hplace hkey hunknown value before after =>
      refine hplace.document_eq hlocal.read ?_ hy hx
      rw [(read_tells_object hlocal _).outcome_eq, (read_tells_object hlocal _).outcome_eq,
        ofMembers_insert hstrict hkey hunknown]

/-- An unknown field at any object of the record makes the document fail. -/
def RefusesUnknown (record : Record β) : Prop :=
  ∀ ⦃α : Type⦄ ⦃outer : Reader α⦄ ⦃a b : Tree⦄, record.Inserts outer a b →
    ∀ ⦃document : Bytes⦄, b.WrittenIn document → Fails (outer.document document)

theorem refusesUnknown (hlocal : record.Local) (hstrict : record.strict = true) :
    record.RefusesUnknown := by
  intro α outer a b h document hdocument
  cases h with
  | intro hplace hkey hunknown value before after =>
      refine hplace.document_fails hlocal.read ?_ hdocument
      rw [(read_tells_object hlocal _).outcome_eq]
      exact ofMembers_refused hstrict hkey hunknown value before after

/-- A known field that any object of the record holds twice makes the document fail. -/
def RefusesRepeated (record : Record β) : Prop :=
  ∀ ⦃α : Type⦄ ⦃outer : Reader α⦄ ⦃place : Tree → Tree⦄, StandsIn record.read outer place →
    ∀ ⦃name : String⦄, name ∈ record.names → ∀ ⦃first second : StringToken⦄,
    first.Spells name → second.Spells name →
    ∀ (x y : Tree) (before between after : List (StringToken × Tree)) ⦃document : Bytes⦄,
    (place (.object (before ++ (first, x) :: (between ++ (second, y) :: after)))).WrittenIn
      document → Fails (outer.document document)

theorem refusesRepeated (hlocal : record.Local) : record.RefusesRepeated := by
  intro α outer place hplace name hknown first second hfirst hsecond x y before between after
    document hdocument
  refine hplace.document_fails hlocal.read ?_ hdocument
  rw [(read_tells_object hlocal _).outcome_eq]
  exact ofMembers_repeated hfirst hsecond hknown x y before between after

end Record

end MeshSidecar
