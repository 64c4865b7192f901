import PegEngine.Source.Basic
import PegEngine.Text.Quoted

/-! Cursors. A cursor is a position in a source together with the line and column that reading up to
it has counted, and with the character that comes next. Cursors are plain values: to go back is to
take an earlier one again. -/
namespace PegEngine

/-- A position in a source with what reading up to it has counted. -/
structure Cursor where
  /-- The character at the position, or none at the end of the source. -/
  character : Option Char
  position : Nat
  /-- Line breaks passed so far. -/
  line : Nat
  /-- Characters passed since the last line break. -/
  column : Nat
  /-- The position right after the last line break passed. -/
  lineStart : Nat
  deriving DecidableEq, Repr

namespace Cursor

/-- The cursor before the first character. -/
def start (source : Source) : Cursor :=
  ⟨source[0]?, 0, 0, 0, 0⟩

def isDone (cursor : Cursor) : Bool :=
  cursor.character.isNone

/-- Passing `previous` completes a line break when `following` comes next. A carriage return in
front of a line feed leaves the break to the line feed. -/
def completesBreak (previous : Char) (following : Option Char) : Bool :=
  previous = '\n' || (previous = '\r' && following ≠ some '\n')

/-- One character further, or the same cursor at the end. -/
def next (source : Source) (cursor : Cursor) : Cursor :=
  match cursor.character with
  | none => cursor
  | some previous =>
    let position := cursor.position + 1
    let following := source[position]?
    if completesBreak previous following then
      ⟨following, position, cursor.line + 1, 0, position⟩
    else
      ⟨following, position, cursor.line, cursor.column + 1, cursor.lineStart⟩

/-- Up to `count` characters further; the end of the source is never left. -/
def advance (source : Source) : Nat → Cursor → Cursor
  | 0, cursor => cursor
  | count + 1, cursor =>
    if cursor.isDone then cursor else advance source count (cursor.next source)

/-- The cursors met from here on, this one first, in at most `count` steps. -/
def visits (source : Source) : Nat → Cursor → List Cursor
  | 0, cursor => [cursor]
  | count + 1, cursor =>
    if cursor.isDone then [cursor] else cursor :: visits source count (cursor.next source)

/-- All cursors from here to the end of the source, both included. -/
def toEnd (source : Source) (cursor : Cursor) : List Cursor :=
  visits source (source.size - cursor.position) cursor

/-- The character at the cursor in quote marks, or the end marker. -/
def renderCharacter (cursor : Cursor) : String :=
  match cursor.character with
  | some c => Text.quoteChar c
  | none => "EOF"

/-- Line and column as people count them, from one. -/
def renderPlace (cursor : Cursor) : String :=
  toString (cursor.line + 1) ++ ":" ++ toString (cursor.column + 1)

/-- The place and the character that stands there. -/
def render (cursor : Cursor) : String :=
  cursor.renderPlace ++ " " ++ cursor.renderCharacter

end Cursor

end PegEngine
