import MeshSidecar.Proofs.Json.Skipping
import MeshSidecar.Proofs.Json.Unambiguous

/-!
# What a reader makes of a value

A reader is *local* if what it makes of a value depends on that value alone: not on the white space
around and inside it, and not on what stands behind it (`Reader.Local`). Then it has an `outcome`
for every tree, and what it makes of a document that holds the tree is that outcome
(`Reader.Local.document`).

The plain readers are local, and an array or an object of like values is read by a local reader if
its values are. The outcome for it is told by the outcomes for the values.
-/

namespace MeshSidecar

open Json Scan

variable {α β : Type}

-- ── The kind of a value ─────────────────────────────────────────────────────

namespace Tree

theorem Writes.skipBlank_eq {tree : Tree} {before text : Bytes} (hbefore : Blank before)
    (h : tree.Writes text) (rest : Bytes) :
    skipBlank (before ++ (text ++ rest)) = text ++ rest := by
  obtain ⟨s, rfl⟩ := h.exists_cons
  rw [List.cons_append, skipBlank_token hbefore tree.isBlank_head]

/-- The kind of a value. -/
def kind : Tree → Kind
  | .null => .null
  | .bool true => .yes
  | .bool false => .no
  | .number _ => .number
  | .string _ => .string
  | .array _ => .array
  | .object _ => .object

/-- The first byte tells the kind. -/
theorem kindOf_head (tree : Tree) : kindOf tree.head = tree.kind := by
  cases tree with
  | bool value => cases value <;> rfl
  | number token =>
      rw [head]
      split
      · rfl
      · exact kindOf_of_isDigit token.whole.isDigit_first
  | _ => rfl

theorem kind_of_head {tree : Tree} {b : UInt8} (h : tree.head = b) : tree.kind = kindOf b := by
  rw [← h, kindOf_head]

theorem eq_null_of_head {tree : Tree} (h : tree.head = letterN) : tree = .null := by
  have hkind : tree.kind = .null := kind_of_head h
  cases tree with
  | null => rfl
  | bool value => cases value <;> cases hkind
  | _ => cases hkind

theorem eq_string_of_head {tree : Tree} (h : tree.head = quote) :
    ∃ token, tree = .string token := by
  have hkind : tree.kind = .string := kind_of_head h
  cases tree with
  | string token => exact ⟨token, rfl⟩
  | bool value => cases value <;> cases hkind
  | _ => cases hkind

theorem eq_array_of_head {tree : Tree} (h : tree.head = openBracket) :
    ∃ items, tree = .array items := by
  have hkind : tree.kind = .array := kind_of_head h
  cases tree with
  | array items => exact ⟨items, rfl⟩
  | bool value => cases value <;> cases hkind
  | _ => cases hkind

theorem eq_object_of_head {tree : Tree} (h : tree.head = openBrace) :
    ∃ members, tree = .object members := by
  have hkind : tree.kind = .object := kind_of_head h
  cases tree with
  | object members => exact ⟨members, rfl⟩
  | bool value => cases value <;> cases hkind
  | _ => cases hkind

theorem eq_number_of_head {tree : Tree} (h : kindOf tree.head = .number) :
    ∃ token, tree = .number token := by
  have hkind : tree.kind = .number := tree.kindOf_head.symm.trans h
  cases tree with
  | number token => exact ⟨token, rfl⟩
  | bool value => cases value <;> cases hkind
  | _ => cases hkind

-- ── Values of the wrong type ────────────────────────────────────────────────

/-- How a value is named that stands where another one is expected. -/
def found : Tree → Except Malformed Found
  | .null => .ok .null
  | .bool value => .ok (.boolean value)
  | .number token => token.value.map Reader.foundNumber
  | .string token => token.decoded.map .string
  | .array _ => .ok .sequence
  | .object _ => .ok .map

/-- The fault of a value that stands where another one is expected. -/
def mismatch (tree : Tree) (expected : String) : Fault := Reader.mismatch expected tree.text

theorem Writes.found_append {tree : Tree} {text rest : Bytes} (h : tree.Writes text)
    (hrest : Stops rest) : Reader.found (text ++ rest) = tree.found := by
  cases h with
  | null =>
      simp only [List.cons_append, Reader.found, skipWord_append]
      rfl
  | yes =>
      simp only [List.cons_append, Reader.found, skipWord_append]
      rfl
  | no =>
      simp only [List.cons_append, Reader.found, skipWord_append]
      rfl
  | number token =>
      have hnumber := token.number_eq hrest
      rw [found, NumberToken.text]
      by_cases hnegative : token.negative = true
      · rw [hnegative] at hnumber
        rw [if_pos hnegative]
        show (Scan.number true (token.unsigned ++ rest)).map _ = _
        rw [hnumber]
        cases token.value <;> rfl
      · have hdigit := token.whole.isDigit_first
        obtain ⟨hbracket, hbrace, hquote, hnull, hyes, hno, hminus⟩ := ne_all_of_isDigit hdigit
        rw [Bool.not_eq_true] at hnegative
        rw [hnegative, NumberToken.unsigned, Digits.bytes] at hnumber
        rw [hnegative, if_neg Bool.false_ne_true, NumberToken.unsigned, Digits.bytes]
        simp only [List.cons_append] at hnumber ⊢
        rw [Reader.found]
        simp only [if_neg hbracket, if_neg hbrace, if_neg hquote, if_neg hnull, if_neg hyes,
          if_neg hno, if_neg hminus, hdigit, if_true, hnumber]
        cases token.value <;> rfl
  | string token =>
      show (Scan.string (token.tail ++ rest)).map _ = _
      rw [token.string_append, found]
      cases token.decoded <;> rfl
  | array _ => rfl
  | object _ => rfl

theorem Writes.mismatch_append {tree : Tree} {text rest : Bytes} (h : tree.Writes text)
    (hrest : Stops rest) (expected : String) :
    Reader.mismatch expected (text ++ rest) = tree.mismatch expected := by
  have hfound := tree.writes_text.found_append stops_nil
  rw [List.append_nil] at hfound
  rw [mismatch, Reader.mismatch, Reader.mismatch, h.found_append hrest, hfound]

end Tree

-- ── Readers that depend on the value alone ──────────────────────────────────

namespace Reader

/-- What a reader makes of every text of a tree, wherever it stands. -/
def Tells (read : Reader α) (tree : Tree) (result : Except Fault α) : Prop :=
  ∀ ⦃before text rest : Bytes⦄, Blank before → tree.Writes text → Stops rest →
    read (before ++ (text ++ rest)) = result.map (·, rest)

/-- What a reader makes of a tree. -/
def outcome (read : Reader α) (tree : Tree) : Except Fault α := (read tree.text).map (·.1)

/-- What the reader makes of a value depends on that value alone. -/
def Local (read : Reader α) : Prop := ∀ tree, read.Tells tree (read.outcome tree)

variable {read : Reader α}

/-- What a reader makes of every text of a tree is its outcome. -/
theorem Tells.outcome_eq {tree : Tree} {result : Except Fault α} (h : read.Tells tree result) :
    read.outcome tree = result := by
  have htext := h blank_nil tree.writes_text stops_nil
  rw [List.nil_append, List.append_nil] at htext
  rw [outcome, htext]
  cases result <;> rfl

theorem Local.of_tells (h : ∀ tree, ∃ result, read.Tells tree result) : read.Local := by
  intro tree
  obtain ⟨result, hresult⟩ := h tree
  rw [hresult.outcome_eq]
  exact hresult

/-- What a reader makes of a document that holds a tree. -/
theorem Local.document {tree : Tree} {document : Bytes} (h : read.Local)
    (hdocument : tree.WrittenIn document) : read.document document = read.outcome tree := by
  obtain ⟨before, text, after, hbefore, htext, hafter, rfl⟩ := hdocument
  have hstops : Stops after := by
    have happend := stops_append hafter stops_nil
    rwa [List.append_nil] at happend
  have hend : skipBlank after = [] := by
    have happend := skipBlank_append hafter []
    rwa [List.append_nil] at happend
  show (read _ >>= _) = _
  rw [h tree hbefore htext hstops]
  cases read.outcome tree with
  | error fault => rfl
  | ok value =>
      show (if (skipBlank after).isEmpty = true then _ else _) = _
      rw [hend]
      rfl

-- ── Plain values ────────────────────────────────────────────────────────────

/-- Changes what is read. -/
def map (f : α → β) (read : Reader α) : Reader β := fun s => do
  let (value, rest) ← read s
  return (f value, rest)

theorem map_outcome (f : α → β) (read : Reader α) (tree : Tree) :
    (read.map f).outcome tree = (read.outcome tree).map f := by
  show (read tree.text >>= _).map _ = ((read tree.text).map _).map f
  cases read tree.text <;> rfl

theorem Local.map (h : read.Local) (f : α → β) : (read.map f).Local := by
  refine .of_tells fun tree => ⟨(read.outcome tree).map f, ?_⟩
  intro before text rest hbefore htext hrest
  show (read _ >>= _) = _
  rw [h tree hbefore htext hrest]
  cases read.outcome tree <;> rfl

theorem text_tells_string (token : StringToken) :
    Reader.text.Tells (.string token) (scanned token.decoded) := by
  intro before text rest hbefore htext _
  rw [Reader.text, htext.skipBlank_eq hbefore]
  cases htext
  show scanned (Scan.string (token.tail ++ rest)) = _
  rw [token.string_append]
  cases token.decoded <;> rfl

theorem text_tells_mismatch {tree : Tree} (hne : ∀ token, tree ≠ .string token) :
    Reader.text.Tells tree (.error (tree.mismatch "a string")) := by
  intro before text rest hbefore htext hrest
  have hmismatch := htext.mismatch_append hrest "a string"
  rw [Reader.text, htext.skipBlank_eq hbefore]
  obtain ⟨s, rfl⟩ := htext.exists_cons
  split
  · rename_i heq
    obtain ⟨token, rfl⟩ := Tree.eq_string_of_head (List.cons.inj heq).1
    exact absurd rfl (hne token)
  · rw [hmismatch]
    rfl

theorem local_text : Reader.text.Local := by
  refine .of_tells fun tree => ?_
  by_cases hstring : ∃ token, tree = .string token
  · obtain ⟨token, rfl⟩ := hstring
    exact ⟨_, text_tells_string token⟩
  · exact ⟨_, text_tells_mismatch fun token heq => hstring ⟨token, heq⟩⟩

theorem local_natural (bound : Nat) (expected : String) : (natural bound expected).Local := by
  refine .of_tells fun tree => ?_
  by_cases hnumber : ∃ token, tree = .number token
  · obtain ⟨token, rfl⟩ := hnumber
    -- what is made of the value of the token, whatever stands behind it
    refine ⟨(naturalOf bound expected (token.value.map (·, []))).map (·.1), ?_⟩
    intro before text rest hbefore htext hrest
    have hread : ∀ rest : Bytes, naturalOf bound expected (token.value.map (·, rest)) =
        ((naturalOf bound expected (token.value.map (·, []))).map (·.1)).map (·, rest) := by
      intro rest
      cases token.value with
      | error offence => rfl
      | ok n =>
          cases n with
          | natural n =>
              show (if n < bound then _ else _) =
                Except.map _ (Except.map _ (if n < bound then _ else _))
              split <;> rfl
          | negative n => rfl
          | double x => rfl
    rw [← hread, ← token.number_eq hrest, natural, htext.skipBlank_eq hbefore]
    cases htext
    rw [NumberToken.text]
    by_cases hnegative : token.negative = true
    · rw [hnegative, if_pos rfl]
      rfl
    · have hdigit := token.whole.isDigit_first
      have hminus : token.whole.first ≠ minus := ne_of_isDigit hdigit rfl
      rw [Bool.not_eq_true] at hnegative
      rw [hnegative, if_neg Bool.false_ne_true, NumberToken.unsigned, Digits.bytes]
      simp only [List.cons_append, if_neg hminus, hdigit, if_true]
  · refine ⟨.error (tree.mismatch expected), ?_⟩
    intro before text rest hbefore htext hrest
    have hmismatch := htext.mismatch_append hrest expected
    have hkind : kindOf tree.head ≠ .number := fun h => hnumber (Tree.eq_number_of_head h)
    rw [natural, htext.skipBlank_eq hbefore]
    obtain ⟨s, rfl⟩ := htext.exists_cons
    have hminus : tree.head ≠ minus := by
      intro h
      rw [h] at hkind
      exact hkind rfl
    have hdigit : ¬ isDigit tree.head = true := fun h => hkind (kindOf_of_isDigit h)
    rw [List.cons_append] at hmismatch ⊢
    simp only [if_neg hminus, if_neg hdigit, hmismatch]
    rfl

theorem local_word16 : word16.Local := (local_natural _ _).map Nat.toUInt16

theorem local_word64 : word64.Local := (local_natural _ _).map Nat.toUInt64

theorem optional_tells_null (read : Reader α) : (optional read).Tells .null (.ok none) := by
  intro before text rest hbefore htext _
  rw [optional, htext.skipBlank_eq hbefore]
  cases htext
  show (scanned (skipWord wordNull (wordNull ++ rest)) >>= _) = _
  rw [skipWord_append]
  rfl

theorem optional_tells (h : read.Local) {tree : Tree} (hne : tree ≠ .null) :
    (optional read).Tells tree ((read.outcome tree).map some) := by
  intro before text rest hbefore htext hrest
  have hread := h tree blank_nil htext hrest
  rw [List.nil_append] at hread
  rw [optional, htext.skipBlank_eq hbefore]
  obtain ⟨s, rfl⟩ := htext.exists_cons
  split
  · rename_i heq
    exact absurd (Tree.eq_null_of_head (List.cons.inj heq).1) hne
  · rw [hread]
    cases read.outcome tree <;> rfl

theorem local_optional (h : read.Local) : (optional read).Local := by
  refine .of_tells fun tree => ?_
  by_cases hnull : tree = .null
  · subst hnull
    exact ⟨_, optional_tells_null read⟩
  · exact ⟨_, optional_tells h hnull⟩

-- ── Arrays of like values ───────────────────────────────────────────────────

/-- What stands before an item is read away. -/
theorem nextItem_tree {tree : Tree} {before after text : Bytes} (first : Bool)
    (hbefore : Blank before) (hafter : Blank after) (h : tree.Writes text) (s : Bytes) :
    nextItem first (before ++ (separator first ++ (after ++ (text ++ s)))) =
      .ok (some (text ++ s)) := by
  obtain ⟨more, rfl⟩ := h.exists_cons
  exact nextItem_token hbefore hafter tree.isBlank_head tree.head_ne_closeBracket (more ++ s)

/-- Items are read one after the other, until one is at fault. -/
theorem items_tells (h : read.Local) (trees : List Tree) {first : Bool} {body : Bytes}
    (hbody : Tree.WritesItems first trees body) {n : Nat} (hn : trees.length < n) (rest : Bytes) :
    items read n first (body ++ closeBracket :: rest) =
      (trees.mapM read.outcome).map (·, rest) := by
  -- on the items, for every count that allows one step more than there are of them
  induction trees generalizing first body n with
  | nil =>
      cases n with
      | zero => exact absurd hn (Nat.not_lt_zero _)
      | succ n =>
          cases hbody with
          | nil hblank =>
              rw [items, nextItem_close hblank]
              show (endOfItems _ >>= _) = _
              rw [endOfItems_close hblank]
              rfl
  | cons tree trees ih =>
      cases n with
      | zero => exact absurd hn (Nat.not_lt_zero _)
      | succ n =>
          cases hbody with
          | @cons _ _ _ before after text more hbefore hafter htext hmore =>
              have hread := h tree blank_nil htext (hmore.stops rest)
              rw [List.nil_append] at hread
              simp only [List.append_assoc]
              rw [items, nextItem_tree first hbefore hafter htext, List.mapM_cons]
              show (read _ >>= _) = _
              rw [hread]
              cases read.outcome tree with
              | error fault => rfl
              | ok value =>
                  show (items read n false _ >>= _) = _
                  rw [ih hmore (Nat.lt_of_succ_lt_succ hn)]
                  show (Except.map _ (trees.mapM read.outcome) >>= _) =
                    Except.map _ (trees.mapM read.outcome >>= _)
                  cases trees.mapM read.outcome <;> rfl

theorem listOf_tells (h : read.Local) (trees : List Tree) :
    (listOf read).Tells (.array trees) (trees.mapM read.outcome) := by
  intro before text rest hbefore htext _
  cases htext with
  | @array _ body hitems =>
      have hle := hitems.length_le
      rw [List.cons_append, List.append_assoc, List.singleton_append, listOf,
        skipBlank_token hbefore rfl]
      exact items_tells h trees hitems (by rw [List.length_append]; omega) rest

theorem local_listOf (h : read.Local) : (listOf read).Local := by
  refine .of_tells fun tree => ?_
  by_cases harray : ∃ trees, tree = .array trees
  · obtain ⟨trees, rfl⟩ := harray
    exact ⟨_, listOf_tells h trees⟩
  · refine ⟨.error (tree.mismatch "a sequence"), ?_⟩
    intro before text rest hbefore htext hrest
    have hmismatch := htext.mismatch_append hrest "a sequence"
    rw [listOf, htext.skipBlank_eq hbefore]
    obtain ⟨s, rfl⟩ := htext.exists_cons
    split
    · rename_i heq
      exact absurd (Tree.eq_array_of_head (List.cons.inj heq).1) harray
    · rw [hmismatch]
      rfl

theorem local_nameSet : nameSet.Local := (local_listOf local_text).map NameSet.ofList

-- ── Objects of like values ──────────────────────────────────────────────────

/-- What stands before a key is read away together with the key. -/
theorem nextMember_tree {before after : Bytes} (first : Bool) (hbefore : Blank before)
    (hafter : Blank after) (key : StringToken) (s : Bytes) :
    nextMember first (before ++ (separator first ++ (after ++ (key.text ++ s)))) =
      (scanned key.decoded).map (.key · s) := by
  rw [StringToken.text, List.cons_append, nextMember_quote first hbefore hafter]
  show (scanned (Scan.string (key.tail ++ s)) >>= _) = _
  rw [key.string_append]
  cases key.decoded <;> rfl

/-- What is made of a member under any key. -/
def entry (read : Reader α) (member : StringToken × Tree) : Except Fault (String × α) := do
  let name ← scanned member.1.decoded
  let value ← read.outcome member.2
  return (name, value)

/-- Members are read one after the other, until one is at fault. -/
theorem members_tells (h : read.Local) (trees : List (StringToken × Tree)) {first : Bool}
    {body : Bytes} (hbody : Tree.WritesMembers first trees body) {n : Nat}
    (hn : trees.length < n) (rest : Bytes) :
    members read n first (body ++ closeBrace :: rest) = (trees.mapM read.entry).map (·, rest) := by
  induction trees generalizing first body n with
  | nil =>
      cases n with
      | zero => exact absurd hn (Nat.not_lt_zero _)
      | succ n =>
          cases hbody with
          | nil hblank =>
              rw [members, nextMember_close hblank]
              rfl
  | cons member trees ih =>
      obtain ⟨key, tree⟩ := member
      cases n with
      | zero => exact absurd hn (Nat.not_lt_zero _)
      | succ n =>
          cases hbody with
          | cons hbefore hafter hbeforeColon hafterColon htext hmore =>
              simp only [List.append_assoc, List.cons_append]
              rw [members, nextMember_tree first hbefore hafter, List.mapM_cons, entry]
              cases key.decoded with
              | error offence => rfl
              | ok name =>
                  show (colonAfterKey _ >>= _) = _
                  rw [colonAfterKey_colon hbeforeColon]
                  show (read _ >>= _) = _
                  rw [h tree hafterColon htext (hmore.stops rest)]
                  show _ = Except.map _ ((read.outcome tree >>= _) >>= _)
                  cases read.outcome tree with
                  | error fault => rfl
                  | ok value =>
                      show (members read n false _ >>= _) = _
                      rw [ih hmore (Nat.lt_of_succ_lt_succ hn)]
                      show (Except.map _ (trees.mapM read.entry) >>= _) =
                        Except.map _ (trees.mapM read.entry >>= _)
                      cases trees.mapM read.entry <;> rfl

theorem tableOf_tells (h : read.Local) (trees : List (StringToken × Tree)) :
    (tableOf read).Tells (.object trees) ((trees.mapM read.entry).map NameTable.ofList) := by
  intro before text rest hbefore htext _
  cases htext with
  | @object _ body hmembers =>
      have hle := hmembers.length_le
      rw [List.cons_append, List.append_assoc, List.singleton_append, tableOf,
        skipBlank_token hbefore rfl]
      show (members read _ true _ >>= _) = _
      rw [members_tells h trees hmembers (by rw [List.length_append]; omega) rest]
      cases trees.mapM read.entry <;> rfl

theorem local_tableOf (h : read.Local) : (tableOf read).Local := by
  refine .of_tells fun tree => ?_
  by_cases hobject : ∃ trees, tree = .object trees
  · obtain ⟨trees, rfl⟩ := hobject
    exact ⟨_, tableOf_tells h trees⟩
  · refine ⟨.error (tree.mismatch "a map"), ?_⟩
    intro before text rest hbefore htext hrest
    have hmismatch := htext.mismatch_append hrest "a map"
    rw [tableOf, htext.skipBlank_eq hbefore]
    obtain ⟨s, rfl⟩ := htext.exists_cons
    split
    · rename_i heq
      exact absurd (Tree.eq_object_of_head (List.cons.inj heq).1) hobject
    · rw [hmismatch]
      rfl

end Reader

end MeshSidecar
