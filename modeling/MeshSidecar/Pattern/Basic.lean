/-!
# Patterns

A pattern is a regular expression. It is built from atoms, each of which stands for one
character of the text or for a place in it, and from bracketed sets of characters, by
repetition, grouping, sequence and choice.

`Pattern.depth` tells how deep a pattern is nested, and `Pattern.hasUnicodeWordEdge` whether
it asks for the edges of words with the letters of all scripts.
-/

namespace MeshSidecar

namespace Pattern

/-- A piece of a pattern that holds no other one. -/
inductive Atom where
  | character (c : Char)
  /-- A dot, for any character of a line. -/
  | anyCharacter
  /-- Digits, blank characters or characters of words, named by a letter; all others, where
      the letter is a capital one. -/
  | shorthand (letter : Char)
  /-- The characters of a general category, named by its first letter, or all others. -/
  | category (letter : Char) (negated : Bool)
  /-- The start or the end of a line or of the text. -/
  | edge
  /-- The edge of a word, of the letters of all scripts or of those of ASCII. -/
  | wordEdge (unicode : Bool)
deriving DecidableEq

/-- A set of characters. -/
inductive CharacterSet where
  | atom (a : Atom)
  | range (first last : Char)
  /-- The characters of a class of ASCII, or all others. -/
  | named (name : String) (negated : Bool)
  | union (members : List CharacterSet)
  /-- An intersection or a difference. -/
  | combined (left right : CharacterSet)
  /-- The members, or all characters but these. -/
  | bracketed (negated : Bool) (members : CharacterSet)

namespace CharacterSet

/-- The set of some members, the last one first. -/
def ofMembers : List CharacterSet → CharacterSet
  | [member] => member
  | members => union members.reverse

/-- A set combined with the one to the left of it, if there is one. -/
def after : Option CharacterSet → CharacterSet → CharacterSet
  | none, set => set
  | some left, set => combined left set

mutual

/-- How deep a set is nested. -/
def depth : CharacterSet → Nat
  | atom _ | range _ _ | named _ _ | union [] => 0
  | union (member :: members) => max member.depth (depthOfAll members) + 1
  | combined left right => max left.depth right.depth + 1
  | bracketed _ members => members.depth + 1

/-- How deep the deepest of some sets is nested. -/
def depthOfAll : List CharacterSet → Nat
  | [] => 0
  | set :: sets => max set.depth (depthOfAll sets)

end

end CharacterSet

end Pattern

/-- A pattern. -/
inductive Pattern where
  /-- The empty text. -/
  | empty
  | atom (a : Pattern.Atom)
  | set (s : Pattern.CharacterSet)
  /-- Settings for what follows, which stand for no text. -/
  | settings
  | repeated (p : Pattern)
  | group (p : Pattern)
  | sequence (ps : List Pattern)
  | choice (ps : List Pattern)

namespace Pattern

/-- The pattern of some items in sequence, the last one first. -/
def ofItems : List Pattern → Pattern
  | [] => empty
  | [item] => item
  | items => sequence items.reverse

/-- The pattern of some alternatives, the last one first. -/
def ofAlternatives : List Pattern → Pattern
  | [alternative] => alternative
  | alternatives => choice alternatives.reverse

mutual

/-- How deep a pattern is nested. -/
def depth : Pattern → Nat
  | empty | atom _ | settings => 0
  | set s => s.depth
  | repeated p | group p => p.depth + 1
  | sequence ps | choice ps => depthOfAll ps + 1

/-- How deep the deepest of some patterns is nested. -/
def depthOfAll : List Pattern → Nat
  | [] => 0
  | p :: ps => max p.depth (depthOfAll ps)

end

mutual

/-- Whether a pattern asks for the edge of a word of the letters of all scripts. -/
def hasUnicodeWordEdge : Pattern → Bool
  | atom a => a = .wordEdge true
  | empty | set _ | settings => false
  | repeated p | group p => p.hasUnicodeWordEdge
  | sequence ps | choice ps => anyHasUnicodeWordEdge ps

/-- Whether one of some patterns asks for such an edge. -/
def anyHasUnicodeWordEdge : List Pattern → Bool
  | [] => false
  | p :: ps => p.hasUnicodeWordEdge || anyHasUnicodeWordEdge ps

end

end Pattern

end MeshSidecar
