import MeshSidecar.Proofs.Json.Scanning

/-!
# Values are skipped to their end

To skip a value passes exactly that value, with the white space before and inside it: whatever its
kind, however deeply its arrays and objects are nested, and whether or not its strings and numbers
could be read (`Scan.skipValue_append`). The bound on the steps is never met, since an item or a
member takes two steps and at least one byte.
-/

namespace MeshSidecar

open Json Scan

theorem Json.Blank.append {before after : Bytes} (hbefore : Blank before) (hafter : Blank after) :
    Blank (before ++ after) :=
  List.forall_mem_append.mpr ⟨hbefore, hafter⟩

namespace Tree

-- ── From one item to the next ───────────────────────────────────────────────

/-- Behind an opening bracket, white space apart, there is the closing one or the first item. -/
theorem WritesItems.skipBlank_first {items : List Tree} {body : Bytes}
    (h : WritesItems true items body) (rest : Bytes) :
    (items = [] ∧ skipBlank (body ++ closeBracket :: rest) = closeBracket :: rest) ∨
    (items ≠ [] ∧ ∃ b s, b ≠ closeBracket ∧ WritesItems true items (b :: s) ∧
      (b :: s).length ≤ body.length ∧
      skipBlank (body ++ closeBracket :: rest) = b :: (s ++ closeBracket :: rest)) := by
  cases h with
  | nil hblank => exact .inl ⟨rfl, skipBlank_token hblank rfl rest⟩
  | @cons _ item items before after text more hbefore hafter hitem hmore =>
      obtain ⟨s, rfl⟩ := hitem.exists_cons
      refine .inr ⟨List.cons_ne_nil _ _, item.head, s ++ more, item.head_ne_closeBracket,
        ?_, ?_, ?_⟩
      · exact .cons blank_nil blank_nil hitem hmore
      · simp only [List.length_append, List.length_cons]
        omega
      · show skipBlank ((before ++ ([] ++ (after ++ (item.head :: s ++ more)))) ++ _) = _
        simp only [List.nil_append, List.append_assoc, List.cons_append]
        rw [skipBlank_append hbefore, skipBlank_token hafter item.isBlank_head]

/-- Behind an item, white space apart, there is the closing bracket or a comma. -/
theorem WritesItems.skipBlank_more {items : List Tree} {more : Bytes}
    (h : WritesItems false items more) (rest : Bytes) :
    (items = [] ∧ skipBlank (more ++ closeBracket :: rest) = closeBracket :: rest) ∨
    (items ≠ [] ∧ ∃ body, WritesItems true items body ∧ body.length < more.length ∧
      skipBlank (more ++ closeBracket :: rest) = comma :: (body ++ closeBracket :: rest)) := by
  cases h with
  | nil hblank => exact .inl ⟨rfl, skipBlank_token hblank rfl rest⟩
  | @cons _ item items before after text more hbefore hafter hitem hmore =>
      refine .inr ⟨List.cons_ne_nil _ _, after ++ (text ++ more), ?_, ?_, ?_⟩
      · exact .cons blank_nil hafter hitem hmore
      · simp only [separator, Bool.false_eq_true, if_false, List.length_append, List.length_cons,
          List.length_nil]
        omega
      · show skipBlank ((before ++ ([comma] ++ (after ++ (text ++ more)))) ++ _) = _
        simp only [List.append_assoc, List.cons_append]
        rw [skipBlank_token hbefore rfl]
        rfl

/-- Behind an opening brace, white space apart, there is the closing one or the first key. -/
theorem WritesMembers.skipBlank_first {members : List (StringToken × Tree)} {body : Bytes}
    (h : WritesMembers true members body) (rest : Bytes) :
    (members = [] ∧ skipBlank (body ++ closeBrace :: rest) = closeBrace :: rest) ∨
    (members ≠ [] ∧ ∃ s, WritesMembers true members (quote :: s) ∧
      (quote :: s).length ≤ body.length ∧
      skipBlank (body ++ closeBrace :: rest) = quote :: (s ++ closeBrace :: rest)) := by
  cases h with
  | nil hblank => exact .inl ⟨rfl, skipBlank_token hblank rfl rest⟩
  | @cons _ key value members before after beforeColon afterColon text more hbefore hafter
        hbeforeColon hafterColon hvalue hmore =>
      refine .inr ⟨List.cons_ne_nil _ _,
        key.tail ++ (beforeColon ++ colon :: (afterColon ++ (text ++ more))), ?_, ?_, ?_⟩
      · exact .cons blank_nil blank_nil hbeforeColon hafterColon hvalue hmore
      · simp only [StringToken.text, List.length_append, List.length_cons]
        omega
      · show skipBlank ((before ++ ([] ++ (after ++ (quote :: key.tail ++ _)))) ++ _) = _
        simp only [List.nil_append, List.append_assoc, List.cons_append]
        rw [skipBlank_append hbefore, skipBlank_token hafter rfl]

/-- Behind a member, white space apart, there is the closing brace or a comma. -/
theorem WritesMembers.skipBlank_more {members : List (StringToken × Tree)} {more : Bytes}
    (h : WritesMembers false members more) (rest : Bytes) :
    (members = [] ∧ skipBlank (more ++ closeBrace :: rest) = closeBrace :: rest) ∨
    (members ≠ [] ∧ ∃ body, WritesMembers true members body ∧ body.length < more.length ∧
      skipBlank (more ++ closeBrace :: rest) = comma :: (body ++ closeBrace :: rest)) := by
  cases h with
  | nil hblank => exact .inl ⟨rfl, skipBlank_token hblank rfl rest⟩
  | @cons _ key value members before after beforeColon afterColon text more hbefore hafter
        hbeforeColon hafterColon hvalue hmore =>
      refine .inr ⟨List.cons_ne_nil _ _,
        after ++ (key.text ++ (beforeColon ++ colon :: (afterColon ++ (text ++ more)))), ?_, ?_, ?_⟩
      · exact .cons blank_nil hafter hbeforeColon hafterColon hvalue hmore
      · simp only [separator, Bool.false_eq_true, if_false, List.length_append, List.length_cons,
          List.length_nil]
        omega
      · show skipBlank ((before ++ ([comma] ++ (after ++ (key.text ++ _)))) ++ _) = _
        simp only [List.append_assoc, List.cons_append]
        rw [skipBlank_token hbefore rfl]
        rfl

end Tree

-- ── Values ──────────────────────────────────────────────────────────────────

namespace Scan

open MeshSidecar.Tree

/-- A word is passed. -/
theorem skipWord_append (word rest : Bytes) : skipWord word (word ++ rest) = .ok rest := by
  induction word with
  | nil => rfl
  | cons b word ih =>
      rw [List.cons_append, skipWord, if_pos rfl]
      exact ih

/-- A digit starts no other value than a number, and is no sign. -/
theorem ne_all_of_isDigit {b : UInt8} (h : isDigit b = true) :
    b ≠ openBracket ∧ b ≠ openBrace ∧ b ≠ quote ∧ b ≠ letterN ∧ b ≠ letterT ∧ b ≠ letterF ∧
      b ≠ minus :=
  ⟨ne_of_isDigit h rfl, ne_of_isDigit h rfl, ne_of_isDigit h rfl, ne_of_isDigit h rfl,
    ne_of_isDigit h rfl, ne_of_isDigit h rfl, ne_of_isDigit h rfl⟩

/-- A number is passed from its first byte on, which tells that it is one. -/
theorem skipSteps_number (token : NumberToken) {n : Nat} {before rest : Bytes}
    (hbefore : Blank before) (hrest : Stops rest) :
    skipSteps (n + 1) (before ++ (token.text ++ rest)) = .ok rest := by
  have hskip := token.skipNumber_append hrest
  rw [skipSteps, NumberToken.text]
  by_cases hnegative : token.negative = true
  · rw [if_pos hnegative, List.cons_append, skipBlank_token hbefore rfl]
    exact hskip
  · have hdigit := token.whole.isDigit_first
    rw [if_neg hnegative, NumberToken.unsigned, Digits.bytes, List.cons_append, List.cons_append,
      skipBlank_token hbefore (isBlank_of_isDigit hdigit)]
    obtain ⟨hbracket, hbrace, hquote, hnull, hyes, hno, hminus⟩ := ne_all_of_isDigit hdigit
    simp only [if_neg hbracket, if_neg hbrace, if_neg hquote, if_neg hnull, if_neg hyes, if_neg hno,
      if_neg hminus, hdigit, if_true]
    exact hskip

mutual

/-- A value is passed, in steps of which there may be twice as many as it has bytes. -/
theorem skipSteps_append : ∀ (tree : Tree) {n : Nat} {before text rest : Bytes}, Blank before →
    tree.Writes text → Stops rest → 2 * text.length ≤ n + 2 →
    skipSteps (n + 1) (before ++ (text ++ rest)) = .ok rest
  | .null, n, before, _, rest, hbefore, h, _, _ => by
      cases h
      rw [skipSteps, List.cons_append, skipBlank_token hbefore rfl]
      exact skipWord_append wordNull rest
  | .bool true, n, before, _, rest, hbefore, h, _, _ => by
      cases h
      rw [skipSteps, List.cons_append, skipBlank_token hbefore rfl]
      exact skipWord_append wordTrue rest
  | .bool false, n, before, _, rest, hbefore, h, _, _ => by
      cases h
      rw [skipSteps, List.cons_append, skipBlank_token hbefore rfl]
      exact skipWord_append wordFalse rest
  | .number token, n, before, _, rest, hbefore, h, hrest, _ => by
      cases h
      exact skipSteps_number token hbefore hrest
  | .string token, n, before, _, rest, hbefore, h, _, _ => by
      cases h
      rw [skipSteps, StringToken.text, List.cons_append, skipBlank_token hbefore rfl]
      exact token.isTail.skipString_append rest
  | .array items, n, before, _, rest, hbefore, h, _, hn => by
      cases h with
      | array hitems =>
          rw [skipSteps, List.cons_append, List.append_assoc, skipBlank_token hbefore rfl]
          simp only [if_true, List.singleton_append]
          rcases hitems.skipBlank_first rest with
            ⟨-, hskip⟩ | ⟨hne, b, s, hclose, hmore, hle, hskip⟩
          · rw [hskip]
            rfl
          · rw [hskip]
            simp only [List.length_cons, List.length_append, List.length_nil] at hn hle
            obtain ⟨m, rfl⟩ : ∃ m, n = m + 1 := ⟨n - 1, by omega⟩
            split
            · rename_i heq
              exact absurd heq (List.cons_ne_nil _ _)
            · rename_i heq
              exact absurd (List.cons.inj heq).1 hclose
            · rw [← List.cons_append]
              exact skipItems_append items hne hmore (by simp only [List.length_cons]; omega)
  | .object members, n, before, _, rest, hbefore, h, _, hn => by
      have hbrace : openBrace ≠ openBracket := by decide
      cases h with
      | object hmembers =>
          rw [skipSteps, List.cons_append, List.append_assoc, skipBlank_token hbefore rfl]
          simp only [if_neg hbrace, if_true, List.singleton_append]
          rcases hmembers.skipBlank_first rest with ⟨-, hskip⟩ | ⟨hne, s, hmore, hle, hskip⟩
          · rw [hskip]
            rfl
          · rw [hskip]
            simp only [List.length_cons, List.length_append, List.length_nil] at hn hle
            obtain ⟨m, rfl⟩ : ∃ m, n = m + 1 := ⟨n - 1, by omega⟩
            show skipMembers (m + 1) (quote :: s ++ closeBrace :: rest) = _
            exact skipMembers_append members hne hmore (by simp only [List.length_cons]; omega)

/-- Items are passed, up to and with the closing bracket. -/
theorem skipItems_append : ∀ (items : List Tree) {n : Nat} {body rest : Bytes}, items ≠ [] →
    WritesItems true items body → 2 * body.length ≤ n + 1 →
    skipItems (n + 1) (body ++ closeBracket :: rest) = .ok rest
  | [], _, _, _, hne, _, _ => absurd rfl hne
  | item :: items, n, _, rest, _, h, hn => by
      cases h with
      | @cons _ _ _ before after text more hbefore hafter hitem hmore =>
          have hpositive : 0 < text.length := by
            obtain ⟨s, rfl⟩ := hitem.exists_cons
            exact Nat.succ_pos _
          simp only [separator, if_true, List.nil_append, List.length_append] at hn
          obtain ⟨m, rfl⟩ : ∃ m, n = m + 1 := ⟨n - 1, by omega⟩
          show skipItems (m + 1 + 1) ((before ++ ([] ++ (after ++ (text ++ more)))) ++ _) = _
          rw [skipItems, List.nil_append, ← List.append_assoc before, List.append_assoc,
            List.append_assoc text,
            skipSteps_append item (hbefore.append hafter) hitem (hmore.stops rest) (by omega)]
          rcases hmore.skipBlank_more rest with ⟨-, hskip⟩ | ⟨hne, body, hbody, hlt, hskip⟩
          · simp only [hskip]
            rfl
          · simp only [hskip]
            exact skipItems_append items hne hbody (by omega)

/-- Members are passed, up to and with the closing brace. -/
theorem skipMembers_append : ∀ (members : List (StringToken × Tree)) {n : Nat} {body rest : Bytes},
    members ≠ [] → WritesMembers true members body → 2 * body.length ≤ n + 1 →
    skipMembers (n + 1) (body ++ closeBrace :: rest) = .ok rest
  | [], _, _, _, hne, _, _ => absurd rfl hne
  | (key, value) :: members, n, _, rest, _, h, hn => by
      cases h with
      | @cons _ _ _ _ before after beforeColon afterColon text more hbefore hafter hbeforeColon
            hafterColon hvalue hmore =>
          have hpositive : 0 < text.length := by
            obtain ⟨s, rfl⟩ := hvalue.exists_cons
            exact Nat.succ_pos _
          simp only [separator, if_true, List.nil_append, List.length_append,
            List.length_cons] at hn
          obtain ⟨m, rfl⟩ : ∃ m, n = m + 1 := ⟨n - 1, by omega⟩
          show skipMembers (m + 1 + 1)
            ((before ++ ([] ++ (after ++ (quote :: key.tail ++ _)))) ++ _) = _
          simp only [List.nil_append, List.append_assoc, List.cons_append]
          rw [skipMembers, skipBlank_append hbefore, skipBlank_token hafter rfl]
          show (match skipString (key.tail ++ _) with | .error _ => _ | .ok _ => _) = _
          rw [key.isTail.skipString_append]
          show (match skipBlank (beforeColon ++ colon :: _) with
            | [] => _ | colon :: _ => _ | _ => _) = _
          rw [skipBlank_token hbeforeColon rfl]
          show (match skipSteps (m + 1) (afterColon ++ (text ++ _)) with
            | .error _ => _ | .ok _ => _) = _
          rw [skipSteps_append value hafterColon hvalue (hmore.stops rest) (by omega)]
          rcases hmore.skipBlank_more rest with ⟨-, hskip⟩ | ⟨hne, body, hbody, hlt, hskip⟩
          · simp only [hskip]
            rfl
          · simp only [hskip]
            exact skipMembers_append members hne hbody (by omega)

end

/-- A value is skipped, with the white space before it, up to its end. -/
theorem skipValue_append {tree : Tree} {before text rest : Bytes} (hbefore : Blank before)
    (h : tree.Writes text) (hrest : Stops rest) :
    skipValue (before ++ (text ++ rest)) = .ok rest := by
  refine skipSteps_append tree hbefore h hrest ?_
  simp only [List.length_append]
  omega

end Scan

end MeshSidecar
