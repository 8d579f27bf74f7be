import MeshSidecar.Text.Lines

/-!
# Recovering the parts of a text

Names are put together from labels and numbers with separators between them. They can be taken
apart again: a label holds none of the separators (`not_mem_of_isLabel`), what stands on either
side of a separator is recovered as long as the separator is not found on the left
(`eq_of_separated`), and a number is recovered from its decimal digits (`eq_of_toString`).
-/

namespace MeshSidecar.Text

/-- A character that may stand in a label. -/
def isLabelChar (c : Char) : Bool := isLabelEdge c || c == '-'

/-- What completes a label has only characters of labels. -/
theorem isLabelChar_of_completesLabel :
    ∀ {ended : Bool} {text : List Char}, completesLabel ended text = true →
      ∀ c ∈ text, isLabelChar c = true := by
  intro ended text
  induction text generalizing ended with
  | nil => intro _ c hc; exact nomatch hc
  | cons d rest ih =>
      intro h c hc
      rw [completesLabel] at h
      by_cases hd : isLabelEdge d = true
      · rw [if_pos hd] at h
        rcases List.mem_cons.mp hc with rfl | hrest
        · show (isLabelEdge c || c == '-') = true
          rw [hd]; rfl
        · exact ih h c hrest
      · rw [if_neg hd, Bool.and_eq_true] at h
        rcases List.mem_cons.mp hc with rfl | hrest
        · show (isLabelEdge c || c == '-') = true
          rw [h.1, Bool.or_true]
        · exact ih h.2 c hrest

/-- A label has only characters of labels. -/
theorem isLabelChar_of_isLabel {s : String} (h : isLabel s = true) :
    ∀ c ∈ s.toList, isLabelChar c = true := by
  intro c hc
  have hchars := (Bool.and_eq_true _ _ ▸ h).2
  cases hs : s.toList with
  | nil => rw [hs] at hc; exact nomatch hc
  | cons d rest =>
      rw [hs] at hc hchars
      obtain ⟨hedge, hrest⟩ := Bool.and_eq_true _ _ ▸ hchars
      rcases List.mem_cons.mp hc with rfl | hmem
      · show (isLabelEdge c || c == '-') = true
        rw [hedge]; rfl
      · exact isLabelChar_of_completesLabel hrest c hmem

/-- A separator is not found in a label. -/
theorem not_mem_of_isLabel {s : String} (h : isLabel s = true) {c : Char}
    (hc : isLabelChar c = false) : c ∉ s.toList := by
  intro hmem
  rw [isLabelChar_of_isLabel h c hmem] at hc
  exact nomatch hc

/-- What stands on either side of a separator that neither left side holds is recovered from
    the whole. -/
theorem eq_of_separated {sep a b x y : String} {c : Char} (hsep : sep.toList = [c])
    (ha : c ∉ a.toList) (hb : c ∉ b.toList) (h : a ++ sep ++ x = b ++ sep ++ y) :
    a = b ∧ x = y := by
  have hlist : a.toList ++ c :: x.toList = b.toList ++ c :: y.toList := by
    have := congrArg String.toList h
    simpa only [String.toList_append, hsep, List.append_assoc, List.singleton_append] using this
  -- the shorter of the two left sides would have to go on with the separator
  rcases List.append_eq_append_iff.mp hlist with ⟨between, hb', hx⟩ | ⟨between, ha', hy⟩
  · cases between with
    | nil =>
        rw [List.append_nil] at hb'
        exact ⟨String.toList_inj.mp hb'.symm, String.toList_inj.mp (List.cons.inj hx).2⟩
    | cons d more =>
        have hd : c = d := (List.cons.inj hx).1
        exact absurd (by rw [hb', hd]; simp) hb
  · cases between with
    | nil =>
        rw [List.append_nil] at ha'
        exact ⟨String.toList_inj.mp ha', String.toList_inj.mp (List.cons.inj hy).2.symm⟩
    | cons d more =>
        have hd : c = d := (List.cons.inj hy).1
        exact absurd (by rw [ha', hd]; simp) ha

/-- A number is recovered from its decimal digits. -/
theorem eq_of_toString {m n : Nat} (h : toString m = toString n) : m = n := by
  have hdigits := congrArg (fun s : String => Nat.ofDigitChars 10 s.toList 0) h
  simpa [Nat.toString_eq_ofList_toDigits] using hdigits

end MeshSidecar.Text
