import MeshSidecar.Text.Lines

/-!
# Reading a pattern

A pattern is read from left to right. A `Cursor` is what remains of it, with the settings
that hold there, and a `Read α` reads an `α` or refuses the pattern.

In a *spaced* pattern blank characters do not count, nor does the rest of a line from `#` on;
they are skipped where one piece of the pattern may follow another.
-/

namespace MeshSidecar.Pattern

/-- What remains of a pattern, and the settings that hold. -/
structure Cursor where
  rest : List Char
  /-- Whether blank characters and comments are skipped. -/
  spaced : Bool := false
  /-- Whether the pattern is about the characters of all scripts. -/
  unicode : Bool := true
  /-- The names of the groups so far. -/
  names : List (List Char) := []

/-- Reads from a pattern, or refuses it. -/
abbrev Read (α : Type) := StateT Cursor Option α

/-- Refuses the pattern. -/
def refuse {α : Type} : Read α := fun _ => none

/-- Goes on with what remains. -/
def goOn (rest : List Char) : Read Unit := modify fun cursor => { cursor with rest }

/-- Reads a character, of which there must be one. -/
def next : Read Char := fun cursor =>
  match cursor.rest with
  | [] => none
  | c :: rest => some (c, { cursor with rest })

/-- What remains after blank characters and comments, from inside a comment or not. -/
def skipSpacing : Bool → List Char → List Char
  | _, [] => []
  | true, c :: rest => skipSpacing (c ≠ '\n') rest
  | false, c :: rest =>
      if Text.isBlank c then skipSpacing false rest
      else if c = '#' then skipSpacing true rest
      else c :: rest

/-- Skips what does not count in a spaced pattern. -/
def skip : Read Unit := modify fun cursor =>
  if cursor.spaced then { cursor with rest := skipSpacing false cursor.rest } else cursor

/-- The character that tells what a hyphen is, given what follows the hyphen: the next one, or
    in a spaced pattern the first one that is not blank, after at most one sign of a comment. -/
def afterHyphen (spaced : Bool) (s : List Char) : Option Char :=
  if spaced then
    match s.dropWhile Text.isBlank with
    | '#' :: comment => (comment.dropWhile Text.isBlank).head?.or s.head?
    | c :: _ => some c
    | [] => s.head?
  else s.head?

end MeshSidecar.Pattern
