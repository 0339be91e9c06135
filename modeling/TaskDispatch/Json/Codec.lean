import TaskDispatch.Json.Skip

/-!
# Codecs

A codec ties a type to its compact JSON text: it writes a value, reads it from a text with exact
failures, and takes it from a tree. This module has the codecs of the scalar types, of lists and
of optional values; records follow in `TaskDispatch.Json.Record`.
-/

namespace TaskDispatch

set_option autoImplicit false

structure Codec (α : Type) where
  write : α → Bytes
  read : Json.Reader α
  ofTree : Json → Except Json.Cause α

namespace Json

/-- Gives a floating failure the place of the cursor after trying to close a bracket. -/
def Failure.settle (failure : Failure) (close : Cursor → Nat) : Failure :=
  match failure.place with
  | .fixed _ => failure
  | .floating cursor => ⟨failure.cause, .fixed (close cursor)⟩

/-- The offset after an attempt to close an object: white space is consumed, and a brace. -/
def objectCloseOffset (cursor : Cursor) : Nat :=
  let cursor := cursor.skipBlanks
  match cursor.rest with
  | mark :: _ => if mark = Ascii.closeBrace then cursor.offset + 1 else cursor.offset
  | [] => cursor.offset

/-- The offset after an attempt to close a list: white space is consumed, and a bracket, or a
comma with the white space after it. -/
def listCloseOffset (cursor : Cursor) : Nat :=
  let cursor := cursor.skipBlanks
  match cursor.rest with
  | mark :: _ =>
      if mark = Ascii.closeBracket then cursor.offset + 1
      else if mark = Ascii.comma then (cursor.advance 1).skipBlanks.offset
      else cursor.offset
  | [] => cursor.offset

def closeList (cursor : Cursor) : Except Failure Cursor :=
  let cursor := cursor.skipBlanks
  match cursor.rest with
  | [] => cursor.failPeek .endInList
  | mark :: _ =>
      if mark = Ascii.closeBracket then .ok (cursor.advance 1)
      else if mark = Ascii.comma then
        let next := (cursor.advance 1).skipBlanks
        match next.rest with
        | after :: _ =>
            if after = Ascii.closeBracket then next.failPeek .trailingComma
            else next.failPeek .trailingCharacters
        | [] => next.failPeek .trailingCharacters
      else cursor.failPeek .trailingCharacters

/-- Refuses the value in front, which is of the wrong type. A list or an object is refused before
it is entered, any other value after it has been read. -/
def failType {α : Type} (expected : String) (cursor : Cursor) : Except Failure α :=
  match cursor.rest with
  | [] => cursor.failPeek .valueExpected
  | first :: _ =>
      let next := cursor.advance 1
      if first = 0x6e then do
        let after ← readIdent nullTail next
        after.failHere (.invalidType .null expected)
      else if first = 0x74 then do
        let after ← readIdent trueTail next
        after.failHere (.invalidType (.boolean true) expected)
      else if first = 0x66 then do
        let after ← readIdent falseTail next
        after.failHere (.invalidType (.boolean false) expected)
      else if first = Ascii.minus then do
        let (number, after) ← readNumber true next
        after.failHere (.invalidType number.found expected)
      else if Ascii.isDigit first then do
        let (number, after) ← readNumber false cursor
        after.failHere (.invalidType number.found expected)
      else if first = Ascii.quote then do
        let (content, after) ← readString next
        after.failHere (.invalidType (.text content) expected)
      else if first = Ascii.openBracket then cursor.failHere (.invalidType .sequence expected)
      else if first = Ascii.openBrace then cursor.failHere (.invalidType .map expected)
      else cursor.failPeek .valueExpected

def valueStart (cursor : Cursor) : Except Failure (UInt8 × Cursor) :=
  let cursor := cursor.skipBlanks
  match cursor.rest with
  | [] => cursor.failPeek .endInValue
  | first :: _ => .ok (first, cursor)

/-! ## Writing strings -/

def escapedByte (byte : UInt8) : Bytes :=
  if byte = Ascii.quote then [Ascii.backslash, Ascii.quote]
  else if byte = Ascii.backslash then [Ascii.backslash, Ascii.backslash]
  else if byte = 0x08 then [Ascii.backslash, 0x62]
  else if byte = 0x09 then [Ascii.backslash, 0x74]
  else if byte = 0x0a then [Ascii.backslash, 0x6e]
  else if byte = 0x0c then [Ascii.backslash, 0x66]
  else if byte = 0x0d then [Ascii.backslash, 0x72]
  else if byte < 0x20 then
    [Ascii.backslash, Ascii.lowerU, Ascii.zero, Ascii.zero,
      Ascii.hexDigit (byte.toNat / 16), Ascii.hexDigit (byte.toNat % 16)]
  else [byte]

/-- A string in quotes; only the quote, the backslash and control characters are escaped. -/
def writeString (content : String) : Bytes :=
  Ascii.quote :: ((Bytes.ofText content).flatMap escapedByte ++ [Ascii.quote])

end Json

namespace Codec

open Json

def string : Codec String where
  write := writeString
  read cursor := do
    let (first, cursor) ← valueStart cursor
    if first = Ascii.quote then readString (cursor.advance 1)
    else failType "a string" cursor
  ofTree
    | .text content => .ok content
    | other => .error (.invalidType other.found "a string")

/-- A type whose JSON form is a string of its own grammar. -/
def parsedString {α : Type} (display : α → String) (parse : String → Except Cause α) :
    Codec α where
  write value := writeString (display value)
  read cursor := do
    let (content, after) ← string.read cursor
    match parse content with
    | .ok value => .ok (value, after)
    | .error cause => after.failFloating cause
  ofTree tree := do parse (← string.ofTree tree)

def boolean : Codec Bool where
  write flag := if flag then 0x74 :: trueTail else 0x66 :: falseTail
  read cursor := do
    let (first, cursor) ← valueStart cursor
    if first = 0x74 then do
      let after ← readIdent trueTail (cursor.advance 1)
      .ok (true, after)
    else if first = 0x66 then do
      let after ← readIdent falseTail (cursor.advance 1)
      .ok (false, after)
    else failType "a boolean" cursor
  ofTree
    | .boolean flag => .ok flag
    | other => .error (.invalidType other.found "a boolean")

/-- Numbers of an integer type, which is described in messages as `expected`. -/
def integer {α : Type} (expected : String) (toInt : α → Int) (ofInt? : Int → Option α) :
    Codec α where
  write value := Decimal.signedBytes (toInt value)
  read cursor := do
    let (first, cursor) ← valueStart cursor
    if first = Ascii.minus ∨ Ascii.isDigit first then do
      let negative : Bool := first = Ascii.minus
      let (number, after) ← readNumber negative (if negative then cursor.advance 1 else cursor)
      match number with
      | .integer whole =>
          match ofInt? whole with
          | some value => .ok (value, after)
          | none => after.failHere (.invalidValue (.integer whole) expected)
      | .double value => after.failHere (.invalidType (.double value) expected)
    else failType expected cursor
  ofTree
    | .integer whole =>
        match ofInt? whole with
        | some value => .ok value
        | none => .error (.invalidValue (.integer whole) expected)
    | other => .error (.invalidType other.found expected)

def belowBound? (bound : Nat) (number : Int) : Option Nat :=
  match number with
  | .ofNat whole => if whole < bound then some whole else none
  | .negSucc _ => none

def byte : Codec UInt8 :=
  integer "u8" (fun value => value.toNat) fun number =>
    (belowBound? (Nat.pow 2 8) number).map UInt8.ofNat

def word32 : Codec UInt32 :=
  integer "u32" (fun value => value.toNat) fun number =>
    (belowBound? (Nat.pow 2 32) number).map UInt32.ofNat

def word64 : Codec UInt64 :=
  integer "u64" (fun value => value.toNat) fun number =>
    (belowBound? (Nat.pow 2 64) number).map UInt64.ofNat

def int32 : Codec Int32 :=
  integer "i32" Int32.toInt fun number =>
    if -Int.pow 2 31 ≤ number ∧ number < Int.pow 2 31 then some (Int32.ofInt number) else none

def size : Codec UInt64 :=
  integer "usize" (fun value => value.toNat) fun number =>
    (belowBound? (Nat.pow 2 64) number).map UInt64.ofNat

def joinItems : List Bytes → Bytes
  | [] => []
  | [only] => only
  | first :: others => first ++ Ascii.comma :: joinItems others

/-- Reads the items of a list up to its closing bracket, which is left in place. -/
def readItems {α : Type} (item : Reader α) : Nat → Bool → Reader (List α)
  | 0, _, cursor => cursor.failHere .endInList
  | fuel + 1, isFirst, cursor =>
      let cursor := cursor.skipBlanks
      match cursor.rest with
      | [] => cursor.failPeek .endInList
      | mark :: _ =>
          if mark = Ascii.closeBracket then .ok ([], cursor)
          else if isFirst then do
            let (value, after) ← item cursor
            let (others, after) ← readItems item fuel false after
            .ok (value :: others, after)
          else if mark = Ascii.comma then
            let next := (cursor.advance 1).skipBlanks
            match next.rest with
            | [] => next.failPeek .endInValue
            | after :: _ =>
                if after = Ascii.closeBracket then next.failPeek .trailingComma
                else do
                  let (value, after) ← item next
                  let (others, after) ← readItems item fuel false after
                  .ok (value :: others, after)
          else cursor.failPeek .listCommaExpected

def ofTrees {α : Type} (item : Json → Except Cause α) : List Json → Except Cause (List α)
  | [] => .ok []
  | tree :: others => do
      let value ← item tree
      let values ← ofTrees item others
      .ok (value :: values)

def list {α : Type} (item : Codec α) : Codec (List α) where
  write values :=
    Ascii.openBracket :: (joinItems (values.map item.write) ++ [Ascii.closeBracket])
  read cursor := do
    let (first, cursor) ← valueStart cursor
    if first = Ascii.openBracket then
      let inside := cursor.advance 1
      match readItems item.read (inside.rest.length + 1) true inside with
      | .ok (values, after) => .ok (values, after.advance 1)
      | .error failure => .error (failure.settle listCloseOffset)
    else failType "a sequence" cursor
  ofTree
    | .list items => ofTrees item.ofTree items
    | other => .error (.invalidType other.found "a sequence")

def optional {α : Type} (item : Codec α) : Codec (Option α) where
  write
    | none => 0x6e :: nullTail
    | some value => item.write value
  read cursor :=
    let cursor := cursor.skipBlanks
    match cursor.rest with
    | first :: _ =>
        if first = 0x6e then do
          let after ← readIdent nullTail (cursor.advance 1)
          .ok (none, after)
        else do
          let (value, after) ← item.read cursor
          .ok (some value, after)
    | [] => cursor.failPeek .endInValue
  ofTree
    | .null => .ok none
    | other => do
        let value ← item.ofTree other
        .ok (some value)

def decode {α : Type} (codec : Codec α) (content : Bytes) : Except DecodeError α :=
  let result : Except Failure α := do
    let (value, after) ← codec.read (.start content)
    let after := after.skipBlanks
    if after.rest.isEmpty then .ok value else after.failPeek .trailingCharacters
  match result with
  | .ok value => .ok value
  | .error failure => .error (failure.report content)

/-- Decodes a tree; a failure has no place. -/
def decodeTree {α : Type} (codec : Codec α) (tree : Json) : Except DecodeError α :=
  match codec.ofTree tree with
  | .ok value => .ok value
  | .error cause => .error ⟨cause, none⟩

def text {α : Type} (codec : Codec α) (value : α) : String :=
  (Bytes.toText? (codec.write value)).getD ""

end Codec

end TaskDispatch
