import MeshSidecar.Pattern.Parse

/-!
# Filters of fields

A log filter may name a field of a span, alone or with the value that it asks for: a number,
or a pattern for the text of the value. The words for true and false are patterns as well.
-/

namespace MeshSidecar.FieldFilter

/-- Whether a text is an unsigned number: digits with a point among them or not, and an
    exponent or none. -/
def isMagnitude (text : List Char) : Bool :=
  let whole := text.takeWhile Char.isDigit
  let (fraction, rest) :=
    match text.dropWhile Char.isDigit with
    | '.' :: rest => (rest.takeWhile Char.isDigit, rest.dropWhile Char.isDigit)
    | rest => ([], rest)
  let isExponent (digits : List Char) : Bool := !digits.isEmpty && digits.all Char.isDigit
  !(whole.isEmpty && fraction.isEmpty) &&
    match rest with
    | [] => true
    | mark :: '+' :: digits | mark :: '-' :: digits => mark.toLower = 'e' && isExponent digits
    | mark :: digits => mark.toLower = 'e' && isExponent digits

/-- Whether a text is a number, which may be infinite or none at all. -/
def isNumber (text : String) : Bool :=
  let unsigned :=
    match text.toList with
    | '+' :: rest | '-' :: rest => rest
    | rest => rest
  isMagnitude unsigned ||
    ["inf", "infinity", "nan"].contains (String.ofList (unsigned.map Char.toLower))

/-- What is wrong with the filter of a field, if anything is. What stands after a second equals
    sign is of no account. -/
def check (text : String) : Option Pattern.Fault :=
  match text.splitOn "=" with
  | _ :: value :: _ => if isNumber value then none else Pattern.check value
  | _ => none

end MeshSidecar.FieldFilter
