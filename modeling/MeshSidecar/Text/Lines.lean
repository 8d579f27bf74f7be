/-!
# Lines, and what is written on them

A text comes in lines. A line ends in a line feed, with a carriage return in front of it or
not; neither belongs to it. What stands after the last line feed is a line as well, unless it
is empty.

What is written on a line may have blank characters around it, and some of it is made of
parts. A *path* has parts that are separated by `/`: `Path.child` names an entry of a
directory. A host name has parts that are separated by points, its *labels*: each is 1 to 63
characters out of `a`–`z`, `0`–`9` and `-`, the first and the last of them no `-`.
-/

namespace MeshSidecar.Text

-- ── Lines ───────────────────────────────────────────────────────────────────

/-- A line without the carriage return at its end. -/
def withoutReturn (line : List Char) : List Char :=
  if line.getLast? = some '\r' then line.dropLast else line

/-- The lines of a text, after the characters of a line so far, the last one first. -/
def linesAfter (line : List Char) : List Char → List String
  | [] => if line.isEmpty then [] else [String.ofList line.reverse]
  | c :: rest =>
      if c = '\n' then String.ofList (withoutReturn line.reverse) :: linesAfter [] rest
      else linesAfter (c :: line) rest

/-- The lines of a text. -/
def lines (text : String) : List String := linesAfter [] text.toList

-- ── Blank characters ────────────────────────────────────────────────────────

/-- Whether a character is blank: it has the property White_Space of Unicode. -/
def isBlank (c : Char) : Bool :=
  let code := c.toNat
  (0x9 ≤ code && code ≤ 0xd) || code = 0x20 || code = 0x85 || code = 0xa0 || code = 0x1680 ||
    (0x2000 ≤ code && code ≤ 0x200a) || code = 0x2028 || code = 0x2029 || code = 0x202f ||
    code = 0x205f || code = 0x3000

/-- The characters of a text without the blank ones at its ends. -/
def trimmed (text : List Char) : List Char :=
  ((text.dropWhile isBlank).reverse.dropWhile isBlank).reverse

-- ── Paths ───────────────────────────────────────────────────────────────────

/-- The path of the entry `name` of the directory `dir`. One separator stands between the two,
    which is not doubled where the directory already ends in one and not written at all for the
    empty path, the current directory. -/
def Path.child (dir name : String) : String :=
  match dir.toList.getLast? with
  | none => name
  | some last => if last = '/' then dir ++ name else dir ++ "/" ++ name

-- ── Labels ──────────────────────────────────────────────────────────────────

/-- A character that a label may start and end with. -/
def isLabelEdge (c : Char) : Bool := c.isLower || c.isDigit

/-- Whether `rest` completes a label, where `ended` tells whether the part before it is
    one already: the check walks the text once and remembers whether it could end there. -/
def completesLabel : Bool → List Char → Bool
  | ended, [] => ended
  | _, c :: rest =>
      if isLabelEdge c then completesLabel true rest
      else c == '-' && completesLabel false rest

/-- The most bytes that a label may have. -/
def labelLimit : Nat := 63

/-- Whether a text is a label. The length is counted in bytes of UTF-8, which is the number of
    characters as far as labels go, and refuses longer text early. -/
def isLabel (s : String) : Bool :=
  s.utf8ByteSize ≤ labelLimit &&
    match s.toList with
    | [] => false
    | c :: rest => isLabelEdge c && completesLabel true rest

end MeshSidecar.Text
