import MeshSidecar.Proofs.Json.Outcomes

/-!
# What a reader makes of a record

A record is read from the members of an object, one after the other (`Record.step`): the next one is
a field that was not yet written and is read into the value, or, if the record is not strict, it is
unknown and skipped. At the closing brace every field that must be written has been
(`Record.close`). It is read from an array as well, whose items are the fields in declared order
(`Record.arrange`).

If every field is local, so is the record (`Record.Local.read`).
-/

namespace MeshSidecar

open Json Scan

variable {α : Type}

-- ── Names of a fixed list ───────────────────────────────────────────────────

namespace Reader

variable {variants : List (String × α)}

theorem variant_tells_string (variants : List (String × α)) (token : StringToken) :
    (variant variants).Tells (.string token)
      (scanned token.decoded >>= fun name => variantOf variants name) := by
  intro before text rest hbefore htext _
  rw [variant, htext.skipBlank_eq hbefore]
  cases htext
  show (scanned (Scan.string (token.tail ++ rest)) >>= _) = _
  rw [token.string_append]
  cases token.decoded with
  | error offence => rfl
  | ok name =>
      show (variantOf variants name >>= _) = Except.map _ (variantOf variants name)
      cases variantOf variants name <;> rfl

/-- What is made of the value under a name: it is `null`, and there is no other member. -/
def unitUnder (value : α) (members : List (StringToken × Tree)) : Tree → Except Fault α
  | .null => if members.isEmpty then .ok value else malformed .expectedValue
  | tree => .error (tree.mismatch "unit")

theorem unitUnder_of_ne (value : α) (members : List (StringToken × Tree)) {tree : Tree}
    (hne : tree ≠ .null) : unitUnder value members tree = .error (tree.mismatch "unit") := by
  cases tree with
  | null => exact absurd rfl hne
  | _ => rfl

/-- An object holds a name as its key. -/
theorem variant_tells_member (variants : List (String × α)) (key : StringToken) (tree : Tree)
    (members : List (StringToken × Tree)) :
    (variant variants).Tells (.object ((key, tree) :: members))
      (scanned key.decoded >>= fun name => variantOf variants name >>= fun value =>
        unitUnder value members tree) := by
  intro before text rest hbefore htext _
  cases htext with
  | object hmembers =>
    cases hmembers with
    | @cons _ _ _ _ before' after beforeColon afterColon text more hbefore' hafter hbeforeColon
          hafterColon hvalue hmore =>
      simp only [List.append_assoc, List.cons_append, separator, if_true, List.nil_append,
        StringToken.text]
      rw [variant, skipBlank_token hbefore rfl]
      conv => lhs; whnf
      rw [skipBlank_append hbefore', skipBlank_token hafter rfl]
      show (scanned (Scan.string (key.tail ++ _)) >>= _) = _
      rw [key.string_append]
      cases key.decoded with
      | error offence => rfl
      | ok name =>
          show (variantOf variants name >>= _) = Except.map _ (variantOf variants name >>= _)
          cases variantOf variants name with
          | error fault => rfl
          | ok value =>
              show (colonAfterKey _ >>= _) = Except.map _ (unitUnder value members tree)
              rw [colonAfterKey_colon hbeforeColon]
              conv => lhs; whnf
              rw [hvalue.skipBlank_eq hafterColon]
              by_cases hnull : tree = .null
              · subst hnull
                cases hvalue
                show (scanned (skipWord wordNull (wordNull ++ _)) >>= _) = _
                rw [skipWord_append]
                conv => lhs; whnf
                rcases hmore.skipBlank_more rest with ⟨rfl, hskip⟩ | ⟨hne, body, -, -, hskip⟩
                · rw [hskip]
                  rfl
                · rw [hskip, unitUnder, List.isEmpty_eq_false_iff.mpr hne]
                  rfl
              · have hmismatch := hvalue.mismatch_append (hmore.stops rest) "unit"
                rw [unitUnder_of_ne value members hnull]
                obtain ⟨s, rfl⟩ := hvalue.exists_cons
                split
                · rename_i heq
                  exact absurd (Tree.eq_null_of_head (List.cons.inj heq).1) hnull
                · rw [hmismatch]
                  rfl

theorem local_variant (variants : List (String × α)) : (variant variants).Local := by
  refine .of_tells fun tree => ?_
  by_cases hstring : ∃ token, tree = .string token
  · obtain ⟨token, rfl⟩ := hstring
    exact ⟨_, variant_tells_string variants token⟩
  by_cases hobject : ∃ members, tree = .object members
  · obtain ⟨members, rfl⟩ := hobject
    cases members with
    | cons member members => exact ⟨_, variant_tells_member variants member.1 member.2 members⟩
    | nil =>
        refine ⟨malformed .expectedValue, ?_⟩
        intro before text rest hbefore htext _
        cases htext with
        | object hmembers =>
          cases hmembers with
          | nil hblank =>
            rw [variant, List.cons_append, skipBlank_token hbefore rfl, List.append_assoc]
            conv => lhs; whnf
            rw [List.singleton_append, skipBlank_token hblank rfl]
            rfl
  · refine ⟨malformed .expectedValue, ?_⟩
    intro before text rest hbefore htext _
    rw [variant, htext.skipBlank_eq hbefore]
    obtain ⟨s, rfl⟩ := htext.exists_cons
    split
    · rename_i heq
      exact absurd (Tree.eq_string_of_head (List.cons.inj heq).1) hstring
    · rename_i heq
      exact absurd (Tree.eq_object_of_head (List.cons.inj heq).1) hobject
    · rename_i heq
      exact absurd heq (List.cons_ne_nil _ _)
    · rfl

end Reader

-- ── Members of an object ────────────────────────────────────────────────────

namespace Record

/-- Every field of the record depends on its value alone. -/
def Local (record : Record α) : Prop := ∀ field ∈ record.fields, field.change.Local

/-- Takes one more member, from the fields that were written and the value that was read so far. -/
def step (record : Record α) (state : List String × α) (member : StringToken × Tree) :
    Except Fault (List String × α) :=
  match member.1.decoded with
  | .error offence => Reader.malformed offence
  | .ok name =>
    match record.fields.find? (·.name = name) with
    | some field =>
      if state.1.contains name then .error (.shape (.duplicateField name))
      else (field.change.outcome member.2).map fun change => (name :: state.1, change state.2)
    | none =>
      if record.strict then .error (.shape (.unknownField name (record.fields.map (·.name))))
      else .ok state

/-- Ends a record at its closing brace. -/
def close (record : Record α) (state : List String × α) : Except Fault α :=
  match record.firstMissing state.1 with
  | some field => .error (.shape (.missingField field.name))
  | none => .ok state.2

/-- What is made of the members of an object. -/
def ofMembers (record : Record α) (members : List (StringToken × Tree)) : Except Fault α :=
  members.foldlM record.step ([], record.blank) >>= record.close

section

variable {record : Record α} {state : List String × α} {member : StringToken × Tree}
  {name : String} {field : Field α}

theorem step_of_decoded_error {offence : Malformed} (h : member.1.decoded = .error offence) :
    record.step state member = Reader.malformed offence := by
  simp only [step, h]

/-- A field that was not yet written is read. -/
theorem step_field (h : member.1.decoded = .ok name)
    (hfind : record.fields.find? (·.name = name) = some field)
    (hnew : state.1.contains name = false) :
    record.step state member =
      (field.change.outcome member.2).map fun change => (name :: state.1, change state.2) := by
  simp only [step, h, hfind, hnew, Bool.false_eq_true, if_false]

/-- A field that was written is not read again. -/
theorem step_repeated (h : member.1.decoded = .ok name)
    (hfind : record.fields.find? (·.name = name) = some field)
    (hseen : state.1.contains name = true) :
    record.step state member = .error (.shape (.duplicateField name)) := by
  simp only [step, h, hfind, hseen, if_true]

/-- An unknown field is refused by a strict record. -/
theorem step_refused (h : member.1.decoded = .ok name)
    (hfind : record.fields.find? (·.name = name) = none) (hstrict : record.strict = true) :
    record.step state member =
      .error (.shape (.unknownField name (record.fields.map (·.name)))) := by
  simp only [step, h, hfind, hstrict, if_true]

/-- An unknown field is skipped by any other record. -/
theorem step_skipped (h : member.1.decoded = .ok name)
    (hfind : record.fields.find? (·.name = name) = none) (hstrict : record.strict = false) :
    record.step state member = .ok state := by
  simp only [step, h, hfind, hstrict, Bool.false_eq_true, if_false]

end

variable {record : Record α}

/-- One member is taken, and reading goes on behind its value. -/
theorem members_step (hlocal : record.Local) (first : Bool) {key : StringToken} {tree : Tree}
    {before after beforeColon afterColon text : Bytes} (hbefore : Blank before)
    (hafter : Blank after) (hbeforeColon : Blank beforeColon) (hafterColon : Blank afterColon)
    (htext : tree.Writes text) {rest : Bytes} (hrest : Stops rest) (n : Nat) (seen : List String)
    (value : α) :
    record.members (n + 1) first seen value
      (before ++ (separator first ++ (after ++ (key.text ++ (beforeColon ++
        colon :: (afterColon ++ (text ++ rest))))))) =
      record.step (seen, value) (key, tree) >>= fun state =>
        record.members n false state.1 state.2 rest := by
  rw [Record.members, Reader.nextMember_tree first hbefore hafter]
  cases hdecoded : key.decoded with
  | error offence =>
      rw [step_of_decoded_error hdecoded]
      rfl
  | ok name =>
      conv => lhs; whnf
      cases hfind : record.fields.find? (·.name = name) with
      | none =>
          cases hstrict : record.strict with
          | true =>
              rw [step_refused hdecoded hfind hstrict]
              rfl
          | false =>
              rw [step_skipped hdecoded hfind hstrict]
              show (Reader.colonAfterKey _ >>= _) = _
              rw [Reader.colonAfterKey_colon hbeforeColon]
              show (Reader.scanned (skipValue _) >>= _) = _
              rw [skipValue_append hafterColon htext hrest]
              rfl
      | some field =>
          cases hseen : seen.contains name with
          | true =>
              rw [step_repeated hdecoded hfind hseen]
              rfl
          | false =>
              have hread := hlocal field (List.mem_of_find?_eq_some hfind) tree hafterColon htext
                hrest
              rw [step_field hdecoded hfind hseen]
              show (Reader.colonAfterKey _ >>= _) = _
              rw [Reader.colonAfterKey_colon hbeforeColon]
              show (field.change _ >>= _) = _
              rw [hread]
              cases field.change.outcome tree <;> rfl

/-- Members are taken one after the other, until one is at fault. -/
theorem members_tells (hlocal : record.Local) (trees : List (StringToken × Tree))
    (seen : List String) (value : α) {first : Bool} {body : Bytes}
    (hbody : Tree.WritesMembers first trees body) {n : Nat} (hn : trees.length < n)
    (rest : Bytes) :
    record.members n first seen value (body ++ closeBrace :: rest) =
      (trees.foldlM record.step (seen, value) >>= record.close).map (·, rest) := by
  induction trees generalizing first seen value body n with
  | nil =>
      cases n with
      | zero => exact absurd hn (Nat.not_lt_zero _)
      | succ n =>
          cases hbody with
          | nil hblank =>
              rw [Record.members, Reader.nextMember_close hblank]
              show _ = Except.map _ (record.close (seen, value))
              rw [close]
              cases record.firstMissing seen <;> rfl
  | cons member trees ih =>
      cases n with
      | zero => exact absurd hn (Nat.not_lt_zero _)
      | succ n =>
          cases hbody with
          | cons hbefore hafter hbeforeColon hafterColon htext hmore =>
              simp only [List.append_assoc, List.cons_append]
              rw [members_step hlocal first hbefore hafter hbeforeColon hafterColon htext
                (hmore.stops rest), List.foldlM_cons]
              cases record.step (seen, value) _ with
              | error fault => rfl
              | ok state => exact ih state.1 state.2 hmore (Nat.lt_of_succ_lt_succ hn)

-- ── Items of an array ───────────────────────────────────────────────────────

/-- What is made of the items of an array, as the fields that remain, of which the first one is
    number `index`. -/
def arrange (record : Record α) : List (Field α) → Nat → α → List Tree → Except Fault α
  | [], _, value, [] => .ok value
  | [], _, _, _ :: _ => Reader.malformed .trailingCharacters
  | field :: fields, index, value, [] =>
      if field.required then .error (.shape (.length index record.expectedLength))
      else arrange record fields (index + 1) value []
  | field :: fields, index, value, tree :: trees =>
      field.change.outcome tree >>= fun change =>
        arrange record fields (index + 1) (change value) trees

/-- No item may stand behind the last field. -/
theorem endOfItems_tree {tree : Tree} {before after text : Bytes} (first : Bool)
    (hbefore : Blank before) (hafter : Blank after) (h : tree.Writes text) (s : Bytes) :
    Reader.endOfItems (before ++ (separator first ++ (after ++ (text ++ s)))) =
      Reader.malformed .trailingCharacters := by
  have hcomma : tree.head ≠ comma := tree.head_ne rfl (by decide)
  obtain ⟨more, rfl⟩ := h.exists_cons
  cases first with
  | true =>
      rw [Reader.endOfItems, skipBlank_append hbefore, separator, if_pos rfl, List.nil_append,
        List.cons_append, skipBlank_token hafter tree.isBlank_head]
      split
      · rename_i heq
        exact absurd heq (List.cons_ne_nil _ _)
      · rename_i heq
        exact absurd (List.cons.inj heq).1 tree.head_ne_closeBracket
      · rename_i heq
        exact absurd (List.cons.inj heq).1 hcomma
      · rfl
  | false =>
      rw [Reader.endOfItems, separator, if_neg Bool.false_ne_true, List.singleton_append,
        skipBlank_token hbefore rfl]
      conv => lhs; whnf
      rw [List.cons_append, skipBlank_token hafter tree.isBlank_head]
      split
      · rename_i heq
        exact absurd (List.cons.inj heq).1 tree.head_ne_closeBracket
      · rfl

/-- Items are taken as the fields in declared order, until one is at fault. -/
theorem elements_tells {fields : List (Field α)} (hlocal : ∀ field ∈ fields, field.change.Local)
    {trees : List Tree} {first : Bool} {body : Bytes} (hbody : Tree.WritesItems first trees body)
    (index : Nat) (value : α) (rest : Bytes) :
    record.elements fields index first value (body ++ closeBracket :: rest) =
      (record.arrange fields index value trees).map (·, rest) := by
  induction fields generalizing trees first body index value with
  | nil =>
      cases hbody with
      | nil hblank =>
          show (Reader.endOfItems _ >>= _) = _
          rw [Reader.endOfItems_close hblank]
          rfl
      | cons hbefore hafter htext _ =>
          simp only [List.append_assoc]
          show (Reader.endOfItems _ >>= _) = _
          rw [endOfItems_tree first hbefore hafter htext]
          rfl
  | cons field fields ih =>
      obtain ⟨hfield, hfields⟩ := List.forall_mem_cons.mp hlocal
      cases hbody with
      | nil hblank =>
          rw [Record.elements, Reader.nextItem_close hblank, arrange]
          conv => lhs; whnf
          cases field.required with
          | true => rfl
          | false => exact ih hfields (.nil hblank) (index + 1) value
      | @cons _ tree trees before after text more hbefore hafter htext hmore =>
          have hread := hfield tree blank_nil htext (hmore.stops rest)
          rw [List.nil_append] at hread
          simp only [List.append_assoc]
          rw [Record.elements, Reader.nextItem_tree first hbefore hafter htext, arrange]
          show (field.change _ >>= _) = _
          rw [hread]
          cases field.change.outcome tree with
          | error fault => rfl
          | ok change => exact ih hfields hmore (index + 1) (change value)

-- ── Records ─────────────────────────────────────────────────────────────────

theorem read_tells_object (hlocal : record.Local) (members : List (StringToken × Tree)) :
    record.read.Tells (.object members) (record.ofMembers members) := by
  intro before text rest hbefore htext _
  cases htext with
  | @object _ body hmembers =>
      have hle := hmembers.length_le
      rw [List.cons_append, List.append_assoc, List.singleton_append, Record.read,
        skipBlank_token hbefore rfl]
      exact members_tells hlocal members [] record.blank hmembers
        (by rw [List.length_append]; omega) rest

theorem read_tells_array (hlocal : record.Local) (items : List Tree) :
    record.read.Tells (.array items) (record.arrange record.fields 0 record.blank items) := by
  intro before text rest hbefore htext _
  cases htext with
  | array hitems =>
      rw [List.cons_append, List.append_assoc, List.singleton_append, Record.read,
        skipBlank_token hbefore rfl]
      exact elements_tells hlocal hitems 0 record.blank rest

theorem local_mandatory {β : Type} {read : Reader β} (h : read.Local) (name : String)
    (set : β → α → α) : (Field.mandatory name read set).change.Local :=
  h.map set

theorem local_defaulted {β : Type} {read : Reader β} (h : read.Local) (name : String)
    (set : β → α → α) : (Field.defaulted name read set).change.Local :=
  h.map set

/-- A record whose fields are local is local. -/
theorem Local.read (hlocal : record.Local) : record.read.Local := by
  refine .of_tells fun tree => ?_
  by_cases hobject : ∃ members, tree = .object members
  · obtain ⟨members, rfl⟩ := hobject
    exact ⟨_, read_tells_object hlocal members⟩
  by_cases harray : ∃ items, tree = .array items
  · obtain ⟨items, rfl⟩ := harray
    exact ⟨_, read_tells_array hlocal items⟩
  refine ⟨.error (tree.mismatch record.expected), ?_⟩
  intro before text rest hbefore htext hrest
  have hmismatch := htext.mismatch_append hrest record.expected
  rw [Record.read, htext.skipBlank_eq hbefore]
  obtain ⟨s, rfl⟩ := htext.exists_cons
  split
  · rename_i heq
    exact absurd (Tree.eq_array_of_head (List.cons.inj heq).1) harray
  · rename_i heq
    exact absurd (Tree.eq_object_of_head (List.cons.inj heq).1) hobject
  · rw [hmismatch]
    rfl

end Record

end MeshSidecar
