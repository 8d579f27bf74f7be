import MeshSidecar.Pattern.Atom

/-!
# Reading the bracketed sets of a pattern

Between brackets stand characters, ranges, classes and further brackets. Hyphens right after
the opening bracket are members, and so is a closing bracket there. `&&`, `--` and `~~`
combine what stands to the left of them with what follows.

Where the characters of all scripts are off, a negated set is refused: it would hold bytes
that are no characters.
-/

namespace MeshSidecar.Pattern

/-- The names of the classes of ASCII. -/
def classNames : List String :=
  ["alnum", "alpha", "ascii", "blank", "cntrl", "digit", "graph", "lower", "print", "punct",
    "space", "upper", "word", "xdigit"]

/-- The name of a class, whether it is negated, and what remains after it, if one follows the
    opening bracket. -/
def namedClass? (s : List Char) : Option (String × Bool × List Char) :=
  match s with
  | ':' :: s =>
    let (negated, s) :=
      match s with
      | '^' :: s => (true, s)
      | s => (false, s)
    let name := String.ofList (s.takeWhile (· ≠ ':'))
    match s.dropWhile (· ≠ ':') with
    | ':' :: ']' :: rest => if classNames.contains name then some (name, negated, rest) else none
    | _ => none
  | _ => none

/-- What remains after an operator, if one stands at the front. -/
def afterOperator? : List Char → Option (List Char)
  | '&' :: '&' :: rest | '-' :: '-' :: rest | '~' :: '~' :: rest => some rest
  | _ => none

/-- Reads a range, or a single member. A hyphen before a hyphen or a closing bracket makes no
    range. -/
def member : Read CharacterSet := do
  let first ← inside
  skip
  let cursor ← get
  match cursor.rest with
  | [] => refuse
  | '-' :: rest =>
    match afterHyphen cursor.spaced rest with
    | some ']' | some '-' => return .atom first
    | _ =>
      goOn rest
      skip
      match first, ← inside with
      | .character low, .character high => if low ≤ high then return .range low high else refuse
      | _, _ => refuse
  | _ => return .atom first

mutual

/-- Reads a set after its opening bracket, in at most so many steps. -/
def brackets : Nat → Read CharacterSet
  | 0 => refuse
  | n + 1 => do
    skip
    let cursor ← get
    match cursor.rest with
    | '^' :: rest =>
      if cursor.unicode then
        goOn rest
        return .bracketed true (← members n true none [])
      else refuse
    | _ => return .bracketed false (← members n true none [])

/-- Reads members up to the closing bracket, after what stands to the left of the last
    operator and the members since then, the last one first. At the opening bracket, some
    signs are members. -/
def members : Nat → Bool → Option CharacterSet → List CharacterSet → Read CharacterSet
  | 0, _, _, _ => refuse
  | n + 1, opening, left, found => do
    skip
    let cursor ← get
    match cursor.rest with
    | [] => refuse
    | c :: rest =>
      if opening && c = '-' then
        goOn rest
        members n true left (.atom (.character c) :: found)
      else if opening && c = ']' && found.isEmpty then
        goOn rest
        members n false left [.atom (.character c)]
      else if c = ']' then
        goOn rest
        return .after left (.ofMembers found)
      else if c = '[' then
        match namedClass? rest with
        | some (name, negated, rest) =>
          if negated && !cursor.unicode then refuse
          else
            goOn rest
            members n false left (.named name negated :: found)
        | none =>
          goOn rest
          let inner ← brackets n
          members n false left (inner :: found)
      else
        match afterOperator? cursor.rest with
        | some rest =>
          goOn rest
          members n false (some (.after left (.ofMembers found))) []
        | none =>
          let m ← member
          members n false left (m :: found)

end

end MeshSidecar.Pattern
