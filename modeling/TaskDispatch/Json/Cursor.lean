import TaskDispatch.Json.Cause

/-!
# Reading position

A cursor is what is left of a text, with the number of bytes already consumed. A reader takes a
value off the front or fails. A failure of the text itself, or of a value just read, knows its
offset at once; a failure that a record or list discovers about its content floats until the
enclosing brackets give it a place.
-/

namespace TaskDispatch.Json

set_option autoImplicit false

structure Cursor where
  offset : Nat
  rest : Bytes

namespace Cursor

def start (text : Bytes) : Cursor := ⟨0, text⟩

def advance (cursor : Cursor) (count : Nat) : Cursor :=
  ⟨cursor.offset + count, cursor.rest.drop count⟩

def isBlankByte (byte : UInt8) : Bool :=
  byte == Ascii.space || byte == Ascii.lineFeed || byte == Ascii.tab
    || byte == Ascii.carriageReturn

def skipBlanks (cursor : Cursor) : Cursor :=
  cursor.advance (cursor.rest.takeWhile isBlankByte).length

def peekOffset (cursor : Cursor) : Nat :=
  match cursor.rest with
  | [] => cursor.offset
  | _ :: _ => cursor.offset + 1

end Cursor

inductive Place where
  | fixed (offset : Nat)
  | floating (cursor : Cursor)

structure Failure where
  cause : Cause
  place : Place

abbrev Reader (α : Type) := Cursor → Except Failure (α × Cursor)

namespace Cursor

/-- Fails at the bytes consumed so far. -/
def failHere {α : Type} (cursor : Cursor) (cause : Cause) : Except Failure α :=
  .error ⟨cause, .fixed cursor.offset⟩

/-- Fails at the next byte, that byte included. -/
def failPeek {α : Type} (cursor : Cursor) (cause : Cause) : Except Failure α :=
  .error ⟨cause, .fixed cursor.peekOffset⟩

/-- Fails without a place of its own. -/
def failFloating {α : Type} (cursor : Cursor) (cause : Cause) : Except Failure α :=
  .error ⟨cause, .floating cursor⟩

end Cursor

def Position.ofOffset (text : Bytes) (offset : Nat) : Position :=
  let consumed := text.take offset
  { line := consumed.count Ascii.lineFeed + 1
    column := (consumed.reverse.takeWhile fun byte => byte != Ascii.lineFeed).length }

def Failure.report (failure : Failure) (text : Bytes) : DecodeError :=
  match failure.place with
  | .fixed offset => ⟨failure.cause, some (.ofOffset text offset)⟩
  | .floating _ => ⟨failure.cause, none⟩

end TaskDispatch.Json
