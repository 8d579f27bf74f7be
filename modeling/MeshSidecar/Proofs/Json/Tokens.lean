import MeshSidecar.Proofs.Json.Spelling

/-!
# Tokens are read back

White space is skipped, a string is read as what it was written for, in whichever way it was
written (`Scan.string_of_spells`), and the digits of a number of 64 bits are read as that number
(`Scan.number_digits`), provided that what follows them does not go on with the number (`Stops`).
-/

namespace MeshSidecar.Scan

open Json

-- ── White space ─────────────────────────────────────────────────────────────

/-- White space is skipped. -/
theorem skipBlank_append {before : Bytes} (h : Blank before) (s : Bytes) :
    skipBlank (before ++ s) = skipBlank s :=
  List.dropWhile_append_of_pos h

theorem skipBlank_cons {b : UInt8} (h : isBlank b = false) (s : Bytes) :
    skipBlank (b :: s) = b :: s :=
  List.dropWhile_cons_of_neg (by rw [h]; exact Bool.false_ne_true)

/-- What follows white space, if it is a token. -/
theorem skipBlank_token {before : Bytes} (h : Blank before) {b : UInt8} (hb : isBlank b = false)
    (s : Bytes) : skipBlank (before ++ b :: s) = b :: s := by
  rw [skipBlank_append h, skipBlank_cons hb]

-- ── Strings ─────────────────────────────────────────────────────────────────

/-- Bytes that stand for themselves within a string. -/
def IsPlain (b : UInt8) : Prop := b ≠ quote ∧ b ≠ backslash ∧ ¬ b < 0x20

theorem push_push (front more : Bytes) (result : Except Malformed (Bytes × Bytes)) :
    push front (push more result) = push (front ++ more) result := by
  cases result with
  | error offence => rfl
  | ok read => rw [push, push, push, List.append_assoc]

/-- Bytes that stand for themselves are read as they are. -/
theorem stringTail_plain {front : Bytes} (h : ∀ b ∈ front, IsPlain b) (s : Bytes) :
    stringTail (front ++ s) = push front (stringTail s) := by
  induction front with
  | nil =>
      rw [List.nil_append]
      cases stringTail s <;> rfl
  | cons b front ih =>
      obtain ⟨⟨hquote, hbackslash, hcontrol⟩, hfront⟩ := List.forall_mem_cons.mp h
      rw [List.cons_append, stringTail.eq_def]
      simp only [if_neg hquote, if_neg hbackslash, if_neg hcontrol]
      rw [ih hfront, push_push, List.singleton_append]

theorem isPlain_ofNat {n : Nat} (hbyte : n < 256) (hprintable : 0x20 ≤ n) (hquote : n ≠ 0x22)
    (hbackslash : n ≠ 0x5c) : IsPlain (UInt8.ofNat n) := by
  have htoNat : (UInt8.ofNat n).toNat = n := UInt8.toNat_ofNat_of_lt' hbyte
  refine ⟨fun h => hquote ?_, fun h => hbackslash ?_, fun h => ?_⟩
  · rw [← htoNat, h]; rfl
  · rw [← htoNat, h]; rfl
  · have hlt : (UInt8.ofNat n).toNat < 0x20 := UInt8.lt_iff_toNat_lt.mp h
    omega

/-- The bytes of a character that may stand for itself stand for themselves. -/
theorem isPlain_utf8EncodeChar {c : Char} (hprintable : 0x20 ≤ c.toNat) (hquote : c ≠ '"')
    (hbackslash : c ≠ '\\') : ∀ b ∈ String.utf8EncodeChar c, IsPlain b := by
  have hquoteCode : c.toNat ≠ 0x22 := fun h => hquote (Char.toNat_inj.mp h)
  have hbackslashCode : c.toNat ≠ 0x5c := fun h => hbackslash (Char.toNat_inj.mp h)
  have hcode : c.val.toNat = c.toNat := rfl
  -- Of a character beyond ASCII, every byte is above those of ASCII.
  have hbeyond : ∀ n, 0x80 ≤ n → n < 256 → IsPlain (UInt8.ofNat n) := fun n hlow hhigh =>
    isPlain_ofNat hhigh (by omega) (by omega) (by omega)
  fun_cases String.utf8EncodeChar c with
  | case1 v hone =>
      exact List.forall_mem_singleton.mpr
        (isPlain_ofNat (by omega) hprintable hquoteCode hbackslashCode)
  | case2 v hone htwo =>
      simp only [List.forall_mem_cons, List.not_mem_nil, false_implies, implies_true, and_true]
      exact ⟨hbeyond _ (by omega) (by omega), hbeyond _ (by omega) (by omega)⟩
  | case3 v hone htwo hthree =>
      simp only [List.forall_mem_cons, List.not_mem_nil, false_implies, implies_true, and_true]
      exact ⟨hbeyond _ (by omega) (by omega), hbeyond _ (by omega) (by omega),
        hbeyond _ (by omega) (by omega)⟩
  | case4 v hone htwo hthree =>
      simp only [List.forall_mem_cons, List.not_mem_nil, false_implies, implies_true, and_true]
      exact ⟨hbeyond _ (by omega) (by omega), hbeyond _ (by omega) (by omega),
        hbeyond _ (by omega) (by omega), hbeyond _ (by omega) (by omega)⟩

/-- What a letter after a backslash stands for is in ASCII, and the letter is not the one of a
    number. -/
theorem encoded_of_simpleEscape {letter code : UInt8} (h : simpleEscape letter = some code) :
    letter ≠ letterU ∧ encoded code.toNat = [code] := by
  constructor
  · rintro rfl
    exact nomatch h
  · rw [simpleEscape] at h
    split at h
    · rename_i hletter
      obtain rfl := Option.some.inj h
      simp only [Bool.or_eq_true, decide_eq_true_eq] at hletter
      rcases hletter with (rfl | rfl) | rfl <;> rfl
    split at h
    · obtain rfl := Option.some.inj h; rfl
    split at h
    · obtain rfl := Option.some.inj h; rfl
    split at h
    · obtain rfl := Option.some.inj h; rfl
    split at h
    · obtain rfl := Option.some.inj h; rfl
    split at h
    · obtain rfl := Option.some.inj h; rfl
    · exact nomatch h

/-- A character is read, however it is written. -/
theorem stringTail_of_spellsChar {c : Char} {text : Bytes} (h : SpellsChar c text) (s : Bytes) :
    stringTail (text ++ s) = push (String.utf8EncodeChar c) (stringTail s) := by
  have hbackslash : backslash ≠ quote := by decide
  cases h with
  | plain hprintable hquote hescape =>
      exact stringTail_plain (isPlain_utf8EncodeChar hprintable hquote hescape) s
  | @escape letter code hcode =>
      obtain ⟨hletter, hencoded⟩ := encoded_of_simpleEscape hcode
      show stringTail (backslash :: letter :: s) = push (encoded code.toNat) (stringTail s)
      rw [hencoded, stringTail.eq_def]
      simp only [if_neg hbackslash, if_neg hletter, hcode, if_true]
  | @unit a b c d n hunit hleading htrailing =>
      show stringTail (backslash :: letterU :: a :: b :: c :: d :: s)
        = push (encoded n) (stringTail s)
      rw [stringTail.eq_def]
      simp only [if_neg hbackslash, hunit, hleading, htrailing, if_true, Bool.false_eq_true,
        if_false]
  | @pair a b c d e f g h m n hleading htrailing hm hn =>
      show stringTail (backslash :: letterU :: a :: b :: c :: d :: backslash :: letterU :: e :: f
        :: g :: h :: s) = push (encoded (paired m n)) (stringTail s)
      have hmt : isTrailing m = false := by
        simp only [isLeading, isTrailing, Bool.and_eq_true, decide_eq_true_eq,
          Bool.and_eq_false_iff, decide_eq_false_iff_not] at hm ⊢
        omega
      rw [stringTail.eq_def]
      simp only [if_neg hbackslash, hleading, htrailing, hm, hn, hmt, if_true, Bool.false_eq_true,
        if_false, ne_eq, not_true_eq_false, decide_false, Bool.or_self]

/-- A string is read, however it is written. -/
theorem string_of_spells {s : String} {text : Bytes} (h : SpellsString s text) (rest : Bytes) :
    ∃ body, text = quote :: body ∧ string (body ++ rest) = .ok (s, rest) := by
  obtain ⟨chars, hchars, rfl⟩ := h
  refine ⟨_, rfl, ?_⟩
  have htail : ∀ {letters : List Char} {chars : List Bytes},
      List.Forall₂ SpellsChar letters chars → stringTail (chars.flatten ++ quote :: rest)
        = .ok (letters.flatMap String.utf8EncodeChar, rest) := by
    intro letters chars hchars
    induction hchars with
    | nil => rw [List.flatten_nil, List.nil_append, stringTail.eq_def]; rfl
    | cons hchar _ ih =>
        rw [List.flatten_cons, List.append_assoc, stringTail_of_spellsChar hchar, ih]
        rfl
  rw [List.append_assoc, List.singleton_append, string, htail hchars]
  have hdecoded : Text.string? (s.toList.flatMap String.utf8EncodeChar) = some s :=
    Text.string?_bytes s
  simp only [hdecoded]

-- ── Numbers ─────────────────────────────────────────────────────────────────

/-- What follows does not go on with a number. -/
def Stops (s : Bytes) : Prop :=
  ∀ b ∈ s.head?, isDigit b = false ∧ b ≠ point ∧ isExponentMark b = false

theorem stops_nil : Stops [] := nofun

theorem stops_cons {b : UInt8} (hdigit : isDigit b = false) (hpoint : b ≠ point)
    (hmark : isExponentMark b = false) (s : Bytes) : Stops (b :: s) := by
  intro c hc
  obtain rfl := Option.some.inj hc
  exact ⟨hdigit, hpoint, hmark⟩

/-- White space does not go on with a number. -/
theorem stops_append {before : Bytes} (h : Blank before) {s : Bytes} (hs : Stops s) :
    Stops (before ++ s) := by
  cases before with
  | nil => exact hs
  | cons b before =>
      have hblank := h b (List.mem_cons_self ..)
      simp only [isBlank, Bool.or_eq_true, beq_iff_eq] at hblank
      rcases hblank with ((rfl | rfl) | rfl) | rfl <;> exact stops_cons rfl (by decide) rfl _

/-- The digit of a number below ten. -/
def digit (n : Nat) : UInt8 := UInt8.ofNat (0x30 + n)

theorem utf8EncodeChar_digitChar : ∀ n < 10, String.utf8EncodeChar n.digitChar = [digit n] := by
  decide

theorem isDigit_digit : ∀ n < 10, isDigit (digit n) = true := by
  decide

theorem digitValue_digit : ∀ n < 10, digitValue (digit n) = n := by
  decide

theorem digits_of_lt {n : Nat} (h : n < 10) : digits n = [digit n] := by
  rw [digits, numberText, Nat.toDigits_of_lt_base h, encoding_cons, encoding_nil, List.append_nil,
    utf8EncodeChar_digitChar n h]

theorem digits_of_le {n : Nat} (h : 10 ≤ n) : digits n = digits (n / 10) ++ [digit (n % 10)] := by
  rw [digits, numberText, Nat.toDigits_of_base_le (by decide) h, encoding_append, encoding_cons,
    encoding_nil, List.append_nil, utf8EncodeChar_digitChar _ (Nat.mod_lt n (by decide))]
  rfl

/-- A fact about the digits of numbers, from the first one on. -/
theorem digits_induction {motive : Nat → Bytes → Prop}
    (one : ∀ n < 10, motive n [digit n])
    (more : ∀ n, 10 ≤ n → motive (n / 10) (digits (n / 10)) →
      motive n (digits (n / 10) ++ [digit (n % 10)])) (n : Nat) : motive n (digits n) := by
  induction n using Nat.strongRecOn with
  | ind n ih =>
      by_cases hlt : n < 10
      · rw [digits_of_lt hlt]
        exact one n hlt
      · rw [digits_of_le (Nat.le_of_not_lt hlt)]
        exact more n (Nat.le_of_not_lt hlt) (ih (n / 10) (by omega))

theorem digits_ne_nil (n : Nat) : digits n ≠ [] :=
  digits_induction (motive := fun _ ds => ds ≠ []) (fun _ _ => nofun)
    (fun _ _ _ => List.append_ne_nil_of_right_ne_nil _ nofun) n

theorem isDigit_of_mem_digits (n : Nat) : ∀ b ∈ digits n, isDigit b = true := by
  refine digits_induction (motive := fun _ ds => ∀ b ∈ ds, isDigit b = true) ?_ ?_ n
  · intro n hlt
    exact List.forall_mem_singleton.mpr (isDigit_digit n hlt)
  · intro n _ ih b hb
    rcases List.mem_append.mp hb with hb | hb
    · exact ih b hb
    · rw [List.mem_singleton.mp hb]
      exact isDigit_digit _ (Nat.mod_lt n (by decide))

theorem head_digits (n : Nat) : n ≠ 0 → (digits n).head? ≠ some 0x30 := by
  refine digits_induction (motive := fun n ds => n ≠ 0 → ds.head? ≠ some 0x30) ?_ ?_ n
  · intro n hlt hne hhead
    have hvalue := digitValue_digit n hlt
    rw [Option.some.inj hhead] at hvalue
    exact hne hvalue.symm
  · intro n hle ih _
    rw [List.head?_append_of_ne_nil _ (digits_ne_nil _)]
    exact ih (by omega)

theorem hasLeadingZero_digits (n : Nat) : hasLeadingZero (digits n) = false := by
  rw [hasLeadingZero]
  by_cases hzero : n = 0
  · subst hzero
    rfl
  · rw [beq_false_of_ne (head_digits n hzero), Bool.false_and]

theorem appendDigits_append {value next : Nat} {front : Bytes}
    (h : appendDigits value front = (next, [])) (more : Bytes) :
    appendDigits value (front ++ more) = appendDigits next more := by
  induction front generalizing value with
  | nil =>
      obtain ⟨rfl, -⟩ := Prod.mk.inj h
      rfl
  | cons d front ih =>
      rw [appendDigits] at h
      rw [List.cons_append, appendDigits]
      split at h
      · exact nomatch (Prod.mk.inj h).2
      · rename_i hfits
        simp only [if_neg hfits]
        exact ih h

/-- The digits of a number of 64 bits make that number. -/
theorem appendDigits_digits (n : Nat) : n ≤ maxWord → appendDigits 0 (digits n) = (n, []) := by
  refine digits_induction (motive := fun n ds => n ≤ maxWord → appendDigits 0 ds = (n, [])) ?_ ?_ n
  · intro n hlt hle
    simp only [appendDigits, digitValue_digit n hlt, Nat.zero_mul, Nat.zero_add,
      if_neg (Nat.not_lt.mpr hle)]
  · intro n _ ih hle
    rw [appendDigits_append (ih (by omega))]
    have hnext : n / 10 * 10 + n % 10 = n := Nat.div_add_mod' n 10
    simp only [appendDigits, digitValue_digit _ (Nat.mod_lt n (by decide : 0 < 10)), hnext,
      if_neg (Nat.not_lt.mpr hle)]

/-- The digits of a number of 64 bits are read as that number. -/
theorem number_digits {n : Nat} (h : n ≤ maxWord) {rest : Bytes} (hrest : Stops rest) :
    number false (digits n ++ rest) = .ok (.natural n, rest) := by
  have htake : (digits n ++ rest).takeWhile isDigit = digits n := by
    rw [List.takeWhile_append_of_pos (isDigit_of_mem_digits n)]
    cases rest with
    | nil => rw [List.takeWhile_nil, List.append_nil]
    | cons b rest =>
        rw [List.takeWhile_cons_of_neg (by rw [(hrest b rfl).1]; exact Bool.false_ne_true),
          List.append_nil]
  have hdrop : (digits n ++ rest).dropWhile isDigit = rest := by
    rw [List.dropWhile_append_of_pos (isDigit_of_mem_digits n)]
    cases rest with
    | nil => rfl
    | cons b rest =>
        exact List.dropWhile_cons_of_neg (by rw [(hrest b rfl).1]; exact Bool.false_ne_true)
  have hempty : (digits n).isEmpty = false := List.isEmpty_eq_false_iff.mpr (digits_ne_nil n)
  rw [number, htake, hdrop]
  simp only [hempty, hasLeadingZero_digits, appendDigits_digits n h, Bool.false_eq_true, if_false]
  -- neither a point nor an exponent makes the number one with a fraction
  cases rest with
  | nil => rfl
  | cons b rest =>
      obtain ⟨-, hpoint, hmark⟩ := hrest b rfl
      split
      · rename_i heq
        exact absurd (List.cons.inj heq).1 hpoint
      · rw [numberEnd, if_neg (by rw [hmark]; exact Bool.false_ne_true)]
        rfl

end MeshSidecar.Scan
