import MeshSidecar.Pattern.CharacterSet
import MeshSidecar.Text.Alphanumeric

/-!
# Reading patterns

A pattern is read whole, or refused: a bracket or a parenthesis that is not closed, a
repetition of nothing, an unknown setting, a name that two groups share, or pieces nested
deeper than `Pattern.depthLimit`. Repetitions with counts are never written: where patterns
stand, a closing brace ends the pattern.

`Pattern.check` refuses also those patterns that cannot be matched in one pass over the bytes
of a text, since they ask for the edges of words of all scripts.
-/

namespace MeshSidecar.Pattern

/-- The settings that a pattern changes, of those that decide how it is read. -/
structure Settings where
  spaced : Option Bool := none
  unicode : Option Bool := none

/-- The settings that some letters stand for, switched off after a hyphen. -/
def Settings.ofLetters? (letters : List Char) : Option Settings :=
  let known := "imsUuRx-".toList
  let repeated := letters.any fun c => 1 < letters.count c
  if letters.all known.contains && !repeated && letters.getLast? ≠ some '-' then
    let on := letters.takeWhile (· ≠ '-')
    let state (c : Char) : Option Bool := if letters.contains c then some (on.contains c) else none
    some { spaced := state 'x', unicode := state 'u' }
  else none

/-- Changes settings. -/
def Cursor.apply (settings : Settings) (cursor : Cursor) : Cursor :=
  { cursor with
    spaced := settings.spaced.getD cursor.spaced
    unicode := settings.unicode.getD cursor.unicode }

/-- Whether a text names a group: letters, numbers and `_`, `.`, `[` or `]`, of which only a
    letter or `_` stands first. -/
def isGroupName : List Char → Bool
  | [] => false
  | c :: rest =>
      (c = '_' || Text.isAlphabetic c) &&
        rest.all fun c => "_.[]".toList.contains c || Text.isAlphanumeric c

/-- What an opening parenthesis opens. -/
inductive Opening where
  /-- Settings for what follows. -/
  | settings (s : Settings)
  /-- A group under settings of its own. -/
  | group (s : Settings)

/-- Reads the name of a group, which no other group may have. -/
def groupName : Read Unit := do
  let cursor ← get
  let name := cursor.rest.takeWhile (· ≠ '>')
  match cursor.rest.dropWhile (· ≠ '>') with
  | '>' :: rest =>
    if isGroupName name && !cursor.names.contains name then
      modify fun cursor => { cursor with rest, names := name :: cursor.names }
    else refuse
  | _ => refuse

/-- Reads what follows an opening parenthesis. -/
def opening : Read Opening := do
  skip
  match (← get).rest with
  | '?' :: 'P' :: '<' :: rest | '?' :: '<' :: rest =>
    goOn rest
    groupName
    return .group {}
  | '?' :: rest =>
    let letters := rest.takeWhile fun c => c ≠ ':' && c ≠ ')'
    match Settings.ofLetters? letters, rest.drop letters.length with
    | some s, ':' :: rest =>
      goOn rest
      return .group s
    | some s, ')' :: rest =>
      if letters.isEmpty then refuse
      else
        goOn rest
        return .settings s
    | _, _ => refuse
  | _ => return .group {}

/-- Reads up to a closing parenthesis or the end, in at most so many steps, after some
    alternatives and the items of the next one, the last ones first. -/
def contents : Nat → List Pattern → List Pattern → Read Pattern
  | 0, _, _ => refuse
  | n + 1, alternatives, items => do
    skip
    let cursor ← get
    match cursor.rest with
    | [] | ')' :: _ => return ofAlternatives (ofItems items :: alternatives)
    | '|' :: rest =>
      goOn rest
      contents n (ofItems items :: alternatives) []
    | '(' :: rest =>
      goOn rest
      match ← opening with
      | .settings s =>
        modify (·.apply s)
        contents n alternatives (.settings :: items)
      | .group s =>
        modify (·.apply s)
        let inner ← contents n [] []
        if (← next) = ')' then
          modify fun after => { after with spaced := cursor.spaced, unicode := cursor.unicode }
          contents n alternatives (.group inner :: items)
        else refuse
    | '[' :: rest =>
      goOn rest
      let s ← brackets n
      contents n alternatives (.set s :: items)
    | '?' :: rest | '*' :: rest | '+' :: rest =>
      match items with
      | [] | .settings :: _ => refuse
      | item :: items =>
        goOn (if rest.head? = some '?' then rest.tail else rest)
        contents n alternatives (.repeated item :: items)
    | '\x7b' :: _ => refuse
    | _ =>
      let a ← outside
      contents n alternatives (.atom a :: items)

/-- How deep a pattern may be nested. -/
def depthLimit : Nat := 250

/-- Reads a pattern. Every step reads a character or opens a set, so that twice as many steps
    as there are characters are enough. -/
def parse? (text : String) : Option Pattern :=
  let characters := text.toList
  match contents (2 * characters.length + 2) [] [] { rest := characters } with
  | some (pattern, cursor) =>
    if cursor.rest.isEmpty && pattern.depth ≤ depthLimit then some pattern else none
  | none => none

/-- The reason why a text is no good as a pattern. -/
inductive Fault where
  | malformed
  | unicodeWordEdge
deriving DecidableEq

namespace Fault

/-- The words for the reason. -/
def message : Fault → String
  | .malformed => "error building NFA"
  | .unicodeWordEdge =>
      "unsupported regex feature for DFAs: cannot build DFAs for regexes with Unicode word " ++
        "boundaries; switch to ASCII word boundaries, or heuristically enable Unicode word " ++
        "boundaries or use a different regex engine"

/-- The words for the reason and for all that caused it. -/
def chain : Fault → String
  | .malformed => message .malformed ++ ": error parsing regex: regex parse error:"
  | .unicodeWordEdge => message .unicodeWordEdge

end Fault

/-- What is wrong with a text as a pattern, if anything is. -/
def check (text : String) : Option Fault :=
  match parse? text with
  | none => some .malformed
  | some pattern => if pattern.hasUnicodeWordEdge then some .unicodeWordEdge else none

end MeshSidecar.Pattern
