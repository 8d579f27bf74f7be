import MeshSidecar.Proofs.Json.Documents

/-!
# Tokens are scanned up to their end

What is read of a token depends on the token alone, and what stands behind it remains, provided that
it does not go on with a number. So every string token has its text, or the offence for which it has
none (`StringToken.decoded`), and every number token its value, unless it is out of range
(`NumberToken.value`).

A token that is not needed is skipped up to the same end, also where it could not be read.
-/

namespace MeshSidecar

open Json Scan

-- ── Strings ─────────────────────────────────────────────────────────────────

namespace Scan

/-- What is read of a string that is closed by `s`, or its offence, does not depend on what stands
    behind it. -/
def Closed (s : Bytes) : Prop :=
  ∃ result : Except Malformed Bytes, ∀ rest, stringTail (s ++ rest) = result.map (·, rest)

/-- What is put in front of a part that is closed is closed with it. -/
theorem Closed.push {s more front : Bytes} (h : Closed more)
    (hread : ∀ rest, stringTail (s ++ rest) = push front (stringTail (more ++ rest))) :
    Closed s := by
  obtain ⟨result, hresult⟩ := h
  refine ⟨result.map (front ++ ·), fun rest => ?_⟩
  rw [hread, hresult]
  cases result <;> rfl

theorem closed_of_error {s : Bytes} {offence : Malformed}
    (h : ∀ rest, stringTail (s ++ rest) = .error offence) : Closed s :=
  ⟨.error offence, h⟩

theorem isTrailing_of_isLeading {n : Nat} (hleading : isLeading n = true) :
    isTrailing n = false := by
  simp only [isLeading, isTrailing, Bool.and_eq_true, decide_eq_true_eq, Bool.and_eq_false_iff,
    decide_eq_false_iff_not] at hleading ⊢
  omega

section

variable {a b c d : UInt8} {n : Nat} (hn : hexValue4 a b c d = some n)
include hn

/-- The second half of a pair stands for nothing without the first one. -/
theorem stringTail_trailing (htrailing : isTrailing n = true) (s : Bytes) :
    stringTail (backslash :: letterU :: a :: b :: c :: d :: s) = .error .loneSurrogate := by
  have hbackslash : backslash ≠ quote := by decide
  rw [stringTail.eq_def]
  simp only [if_neg hbackslash, if_true, hn, htrailing]

variable (hleading : isLeading n = true)
include hleading

/-- The first half of a pair is followed by an escape. -/
theorem stringTail_leading_plain {e : UInt8} (he : e ≠ backslash) (s : Bytes) :
    stringTail (backslash :: letterU :: a :: b :: c :: d :: e :: s) = .error .endOfEscape := by
  have hbackslash : backslash ≠ quote := by decide
  have htrailing := isTrailing_of_isLeading hleading
  rw [stringTail.eq_def]
  cases s <;> simp [hbackslash, hn, htrailing, hleading, he]

/-- The first half of a pair is followed by the number of a code unit. -/
theorem stringTail_leading_escape {e : UInt8} (he : e ≠ letterU) (s : Bytes) :
    stringTail (backslash :: letterU :: a :: b :: c :: d :: backslash :: e :: s) =
      .error .endOfEscape := by
  have hbackslash : backslash ≠ quote := by decide
  have htrailing := isTrailing_of_isLeading hleading
  rw [stringTail.eq_def]
  simp [hbackslash, hn, htrailing, hleading, he]

/-- The first half of a pair is followed by the second one. -/
theorem stringTail_unpaired {e f g h : UInt8} {m : Nat} (hm : hexValue4 e f g h = some m)
    (hunpaired : isTrailing m = false) (s : Bytes) :
    stringTail (backslash :: letterU :: a :: b :: c :: d :: backslash :: letterU :: e :: f :: g
      :: h :: s) = .error .loneSurrogate := by
  have hbackslash : backslash ≠ quote := by decide
  have htrailing := isTrailing_of_isLeading hleading
  rw [stringTail.eq_def]
  simp [hbackslash, hn, hm, htrailing, hleading, hunpaired]

/-- Behind the first half of a pair the string is closed, if every shorter one is. -/
theorem closed_leading {s : Bytes} (hs : IsStringTail s)
    (ih : ∀ {more : Bytes}, IsStringTail more → more.length < s.length → Closed more) :
    Closed (backslash :: letterU :: a :: b :: c :: d :: s) := by
  cases hs with
  | close => exact closed_of_error fun rest => stringTail_leading_plain hn hleading (by decide) _
  | plain hplain _ =>
      exact closed_of_error fun rest => stringTail_leading_plain hn hleading hplain.2.1 _
  | escape hescape _ =>
      obtain ⟨code, hcode⟩ := Option.isSome_iff_exists.mp hescape
      obtain ⟨hletter, -⟩ := encoded_of_simpleEscape hcode
      exact closed_of_error fun rest => stringTail_leading_escape hn hleading hletter _
  | unit hsecond hmore =>
      obtain ⟨m, hm⟩ := Option.isSome_iff_exists.mp hsecond
      cases hpair : isTrailing m with
      | true =>
          refine (ih hmore ?_).push fun rest =>
            stringTail_of_spellsChar (.pair hn hm hleading hpair) _
          simp only [List.length_cons]
          omega
      | false => exact closed_of_error fun rest => stringTail_unpaired hn hleading hm hpair _

end

end Scan

/-- A string is read up to its closing quote, with whatever stands behind it. -/
theorem IsStringTail.closed {s : Bytes} (h : IsStringTail s) : Closed s := by
  -- Two code units may be read at once, so the induction is on the length.
  induction hlength : s.length using Nat.strongRecOn generalizing s with
  | ind length ih =>
    subst hlength
    cases h with
    | close => exact ⟨.ok [], fun rest => by rw [List.singleton_append, stringTail.eq_def]; rfl⟩
    | @plain b s hplain hmore =>
        exact (ih s.length (Nat.lt_succ_self _) hmore rfl).push fun rest =>
          stringTail_plain (List.forall_mem_singleton.mpr hplain) (s ++ rest)
    | @escape e s hescape hmore =>
        obtain ⟨code, hcode⟩ := Option.isSome_iff_exists.mp hescape
        refine (ih s.length ?_ hmore rfl).push fun rest =>
          stringTail_of_spellsChar (.escape hcode) (s ++ rest)
        simp only [List.length_cons]
        omega
    | @unit a b c d s hunit hmore =>
        have hshorter : s.length < (backslash :: letterU :: a :: b :: c :: d :: s).length := by
          simp only [List.length_cons]
          omega
        obtain ⟨n, hn⟩ := Option.isSome_iff_exists.mp hunit
        cases htrailing : isTrailing n with
        | true => exact closed_of_error fun rest => stringTail_trailing hn htrailing _
        | false =>
            cases hleading : isLeading n with
            | true =>
                exact closed_leading hn hleading hmore fun hmore hlt =>
                  ih _ (Nat.lt_trans hlt hshorter) hmore rfl
            | false =>
                exact (ih s.length hshorter hmore rfl).push fun rest =>
                  stringTail_of_spellsChar (.unit hn hleading htrailing) (s ++ rest)

/-- A string is skipped up to its closing quote. -/
theorem IsStringTail.skipString_append {s : Bytes} (h : IsStringTail s) (rest : Bytes) :
    skipString (s ++ rest) = .ok rest := by
  have hbackslash : backslash ≠ quote := by decide
  induction h with
  | close => rw [List.singleton_append, skipString.eq_def]; rfl
  | plain hplain _ ih =>
      obtain ⟨hquote, hescape, hcontrol⟩ := hplain
      rw [List.cons_append, skipString.eq_def]
      simp only [if_neg hquote, if_neg hescape, if_neg hcontrol]
      exact ih
  | escape hescape _ ih =>
      obtain ⟨code, hcode⟩ := Option.isSome_iff_exists.mp hescape
      obtain ⟨hletter, -⟩ := encoded_of_simpleEscape hcode
      rw [List.cons_append, List.cons_append, skipString.eq_def]
      simp only [if_neg hbackslash, if_neg hletter, hescape, if_true]
      exact ih
  | unit hunit _ ih =>
      simp only [List.cons_append]
      rw [skipString.eq_def]
      simp only [if_neg hbackslash, hunit, if_true]
      exact ih

namespace StringToken

/-- The text that a token stands for, or the offence for which it stands for none. -/
def decoded (token : StringToken) : Except Malformed String := (Scan.string token.tail).map (·.1)

/-- A string is read as the text that its token stands for. -/
theorem string_append (token : StringToken) (rest : Bytes) :
    Scan.string (token.tail ++ rest) = token.decoded.map (·, rest) := by
  obtain ⟨result, hresult⟩ := token.isTail.closed
  have halone := hresult []
  rw [List.append_nil] at halone
  rw [decoded, Scan.string, Scan.string, halone, hresult]
  cases result with
  | error offence => rfl
  | ok content => cases hdecoded : Text.string? content <;> simp [Except.map, hdecoded]

/-- A token stands for the string that it spells. -/
theorem Spells.decoded_eq {token : StringToken} {s : String} (h : token.Spells s) :
    token.decoded = .ok s := by
  obtain ⟨body, hbody, hread⟩ := string_of_spells h []
  obtain rfl := (List.cons.inj hbody).2
  rw [List.append_nil] at hread
  rw [decoded, hread]
  rfl

end StringToken

-- ── Digits ──────────────────────────────────────────────────────────────────

/-- What follows does not go on with digits. -/
def EndsDigits (s : Bytes) : Prop := ∀ b ∈ s.head?, isDigit b = false

theorem Digits.takeWhile_append (ds : Digits) {s : Bytes} (hs : EndsDigits s) :
    (ds.bytes ++ s).takeWhile isDigit = ds.bytes := by
  rw [List.takeWhile_append_of_pos ds.isDigit_of_mem]
  cases s with
  | nil => rw [List.takeWhile_nil, List.append_nil]
  | cons b s =>
      rw [List.takeWhile_cons_of_neg (by rw [hs b rfl]; exact Bool.false_ne_true), List.append_nil]

theorem Digits.dropWhile_append (ds : Digits) {s : Bytes} (hs : EndsDigits s) :
    (ds.bytes ++ s).dropWhile isDigit = s := by
  rw [List.dropWhile_append_of_pos ds.isDigit_of_mem]
  cases s with
  | nil => rfl
  | cons b s => exact List.dropWhile_cons_of_neg (by rw [hs b rfl]; exact Bool.false_ne_true)

theorem Scan.Stops.endsDigits {s : Bytes} (h : Stops s) : EndsDigits s := fun b hb => (h b hb).1

-- ── Numbers ─────────────────────────────────────────────────────────────────

namespace Exponent

/-- The sign of an exponent is told by the exponent. -/
theorem exponentSign_append (e : Exponent) : ∃ down, ∀ rest,
    exponentSign (e.sign ++ (e.digits.bytes ++ rest)) = (down, e.digits.bytes ++ rest) := by
  rcases e.isSign with hsign | hsign | hsign
  · refine ⟨false, fun rest => ?_⟩
    rw [hsign, List.nil_append, Digits.bytes, List.cons_append, exponentSign.eq_def]
    have hplus : e.digits.first ≠ plus := ne_of_isDigit e.digits.isDigit_first rfl
    have hminus : e.digits.first ≠ minus := ne_of_isDigit e.digits.isDigit_first rfl
    split
    · rename_i heq
      exact absurd (List.cons.inj heq).1 hplus
    · rename_i heq
      exact absurd (List.cons.inj heq).1 hminus
    · rfl
  · exact ⟨false, fun rest => by rw [hsign]; rfl⟩
  · exact ⟨true, fun rest => by rw [hsign]; rfl⟩

/-- An exponent is read up to its last digit. -/
theorem exponentTail_append (e : Exponent) (negative : Bool) (significand : Nat) (exponent : Int) :
    ∃ result : Except Malformed Number, ∀ {rest : Bytes}, Stops rest →
      exponentTail negative significand exponent (e.sign ++ (e.digits.bytes ++ rest))
        = result.map (·, rest) := by
  obtain ⟨down, hsign⟩ := e.exponentSign_append
  refine ⟨(exponentTail negative significand exponent (e.sign ++ (e.digits.bytes ++ []))).map (·.1),
    fun {rest} hrest => ?_⟩
  rw [exponentTail, exponentTail, hsign, hsign]
  simp only [e.digits.takeWhile_append hrest.endsDigits, e.digits.dropWhile_append hrest.endsDigits,
    e.digits.takeWhile_append stops_nil.endsDigits, e.digits.dropWhile_append stops_nil.endsDigits,
    e.digits.isEmpty_bytes, Bool.false_eq_true, if_false]
  split
  · split <;> rfl
  · show (double negative significand _ >>= _) = Except.map _ (Except.map _ (double _ _ _ >>= _))
    cases double negative significand _ <;> rfl

end Exponent

namespace NumberToken

theorem endsDigits_exponentText (e : Option Exponent) {rest : Bytes} (hrest : Stops rest) :
    EndsDigits (exponentText e ++ rest) ∧ (exponentText e ++ rest).head? ≠ some point := by
  cases e with
  | none =>
      refine ⟨hrest.endsDigits, fun hhead => ?_⟩
      exact (hrest point hhead).2.1 rfl
  | some e =>
      have hmark := e.isMark
      simp only [isExponentMark, Bool.or_eq_true, beq_iff_eq] at hmark
      constructor
      · intro b hb
        obtain rfl : e.mark = b := Option.some.inj hb
        rcases hmark with hmark | hmark <;> rw [hmark] <;> rfl
      · intro hhead
        have hpoint : e.mark = point := Option.some.inj hhead
        rw [hpoint] at hmark
        exact absurd hmark (by decide)

/-- The end of a number is read, exponent or not. -/
theorem numberEnd_append (e : Option Exponent) (plain : Except Malformed Number) (negative : Bool)
    (significand : Nat) (exponent : Int) :
    ∃ result : Except Malformed Number, ∀ {rest : Bytes}, Stops rest →
      numberEnd plain negative significand exponent (exponentText e ++ rest)
        = result.map (·, rest) := by
  cases e with
  | none =>
      refine ⟨plain, fun {rest} hrest => ?_⟩
      show numberEnd plain negative significand exponent rest = _
      cases rest with
      | nil => rfl
      | cons b rest => rw [numberEnd, if_neg (by rw [(hrest b rfl).2.2]; exact Bool.false_ne_true)]
  | some e =>
      obtain ⟨result, hresult⟩ := e.exponentTail_append negative significand exponent
      refine ⟨result, fun {rest} hrest => ?_⟩
      rw [exponentText, List.cons_append, List.append_assoc, numberEnd, if_pos e.isMark,
        hresult hrest]

/-- A point ends the digits before it. -/
theorem endsDigits_point (s : Bytes) : EndsDigits (point :: s) := by
  intro b hb
  obtain rfl := Option.some.inj hb
  rfl

/-- A number is read up to its end, whatever it is made of. -/
theorem number_append (token : NumberToken) : ∃ result : Except Malformed Number,
    ∀ {rest : Bytes}, Stops rest →
      Scan.number token.negative (token.unsigned ++ rest) = result.map (·, rest) := by
  obtain ⟨negative, whole, fraction, e, hzero⟩ := token
  rcases hwhole : appendDigits 0 whole.bytes with ⟨significand, dropped⟩
  cases fraction with
  | none =>
      obtain ⟨result, hresult⟩ := numberEnd_append e
        (integer negative significand dropped.length) negative significand dropped.length
      refine ⟨result, fun {rest} hrest => ?_⟩
      obtain ⟨hends, hpoint⟩ := endsDigits_exponentText e hrest
      show Scan.number negative ((whole.bytes ++ exponentText e) ++ rest) = _
      rw [← hresult hrest, List.append_assoc, Scan.number, whole.takeWhile_append hends,
        whole.dropWhile_append hends]
      simp only [whole.isEmpty_bytes, hzero, hwhole, Bool.false_eq_true, if_false]
      split
      · rename_i heq
        exact absurd (congrArg List.head? heq) hpoint
      · rfl
  | some ds =>
      rcases hfraction : appendDigits significand ds.bytes with ⟨value, left⟩
      let exponent : Int := dropped.length - (ds.bytes.length - left.length : Nat)
      obtain ⟨result, hresult⟩ :=
        numberEnd_append e (double negative value exponent) negative value exponent
      refine ⟨result, fun {rest} hrest => ?_⟩
      obtain ⟨hends, -⟩ := endsDigits_exponentText e hrest
      show Scan.number negative ((whole.bytes ++ (point :: ds.bytes ++ exponentText e)) ++ rest) = _
      rw [← hresult hrest, List.append_assoc, List.append_assoc, List.cons_append, Scan.number,
        whole.takeWhile_append (endsDigits_point _), whole.dropWhile_append (endsDigits_point _)]
      simp only [whole.isEmpty_bytes, hzero, hwhole, Bool.false_eq_true, if_false]
      show fractionTail negative significand dropped.length
        (ds.bytes ++ (exponentText e ++ rest)) = _
      rw [fractionTail, ds.takeWhile_append hends, ds.dropWhile_append hends]
      simp only [ds.isEmpty_bytes, hfraction, Bool.false_eq_true, if_false]
      rfl

/-- The value of a number, or the offence for which it has none. -/
def value (token : NumberToken) : Except Malformed Number :=
  (Scan.number token.negative token.unsigned).map (·.1)

/-- A number is read as the value of its token. -/
theorem number_eq (token : NumberToken) {rest : Bytes} (hrest : Stops rest) :
    Scan.number token.negative (token.unsigned ++ rest) = token.value.map (·, rest) := by
  obtain ⟨result, hresult⟩ := token.number_append
  have halone := hresult stops_nil
  rw [List.append_nil] at halone
  rw [value, halone, hresult hrest]
  cases result <;> rfl

-- ── Numbers that are skipped ────────────────────────────────────────────────

theorem skipDigits_append (ds : Digits) {s : Bytes} (hs : EndsDigits s) :
    skipDigits (ds.bytes ++ s) = .ok s := by
  rw [skipDigits, ds.takeWhile_append hs, ds.dropWhile_append hs, ds.isEmpty_bytes]
  rfl

theorem skipExponent_append (e : Option Exponent) {rest : Bytes} (hrest : Stops rest) :
    skipExponent (exponentText e ++ rest) = .ok rest := by
  cases e with
  | none =>
      show skipExponent rest = _
      cases rest with
      | nil => rfl
      | cons b rest =>
          rw [skipExponent, if_neg (by rw [(hrest b rfl).2.2]; exact Bool.false_ne_true)]
  | some e =>
      obtain ⟨down, hsign⟩ := e.exponentSign_append
      rw [exponentText, List.cons_append, List.append_assoc, skipExponent, if_pos e.isMark, hsign]
      exact skipDigits_append e.digits hrest.endsDigits

/-- A number is skipped up to its last digit. -/
theorem skipNumber_append (token : NumberToken) {rest : Bytes} (hrest : Stops rest) :
    skipNumber (token.unsigned ++ rest) = .ok rest := by
  obtain ⟨negative, whole, fraction, e, hzero⟩ := token
  obtain ⟨hends, hpoint⟩ := endsDigits_exponentText e hrest
  cases fraction with
  | none =>
      show skipNumber ((whole.bytes ++ exponentText e) ++ rest) = _
      rw [List.append_assoc, skipNumber, skipDigits_append whole hends,
        whole.takeWhile_append hends, hzero]
      simp only [bind, Except.bind, Bool.false_eq_true, if_false]
      split
      · rename_i heq
        exact absurd (congrArg List.head? heq) hpoint
      · exact skipExponent_append e hrest
  | some ds =>
      show skipNumber ((whole.bytes ++ (point :: ds.bytes ++ exponentText e)) ++ rest) = _
      rw [List.append_assoc, List.append_assoc, List.cons_append, skipNumber,
        skipDigits_append whole (endsDigits_point _), whole.takeWhile_append (endsDigits_point _),
        hzero]
      show (skipDigits (ds.bytes ++ (exponentText e ++ rest)) >>= _) = _
      rw [skipDigits_append ds hends]
      exact skipExponent_append e hrest

end NumberToken

end MeshSidecar
