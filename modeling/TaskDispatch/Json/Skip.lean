import TaskDispatch.Json.Literal

/-!
# Skipping a value

The value of an unknown key is passed over without being built. Its brackets are kept on a stack,
so it may be nested to any depth. Less is asked of it than of a value that is read: surrogates need
no partner, bytes need not be UTF-8, and the size of a number does not matter.
-/

namespace TaskDispatch.Json

set_option autoImplicit false

def skipString : Nat → Cursor → Except Failure Cursor
  | 0, cursor => cursor.failHere .endInString
  | fuel + 1, cursor =>
      match cursor.rest with
      | [] => cursor.failHere .endInString
      | byte :: _ =>
          let next := cursor.advance 1
          if byte = Ascii.quote then .ok next
          else if byte = Ascii.backslash then
            match next.rest with
            | [] => next.failHere .endInString
            | letter :: _ =>
                let next := next.advance 1
                if letter = Ascii.lowerU then do
                  let (_, next) ← readHexUnit next
                  skipString fuel next
                else if (shortEscape? letter).isSome then skipString fuel next
                else next.failHere .invalidEscape
          else if byte < 0x20 then cursor.failHere .controlCharacter
          else skipString fuel next

def skipExponent (cursor : Cursor) : Except Failure Cursor :=
  let cursor :=
    match cursor.rest with
    | sign :: _ =>
        if sign = Ascii.plus ∨ sign = Ascii.minus then cursor.advance 1 else cursor
    | [] => cursor
  match digitRun cursor with
  | [] => (cursor.advance (min 1 cursor.rest.length)).failHere .invalidNumber
  | digits => .ok (cursor.advance digits.length)

def skipOptionalExponent (cursor : Cursor) : Except Failure Cursor :=
  match cursor.rest with
  | next :: _ =>
      if next = Ascii.lowerE ∨ next = Ascii.upperE then skipExponent (cursor.advance 1)
      else .ok cursor
  | [] => .ok cursor

def skipNumber (cursor : Cursor) : Except Failure Cursor :=
  match digitRun cursor with
  | [] => (cursor.advance (min 1 cursor.rest.length)).failHere .invalidNumber
  | first :: others =>
      if first = 0 ∧ others ≠ [] then (cursor.advance 1).failPeek .invalidNumber
      else
        let after := cursor.advance (others.length + 1)
        match after.rest with
        | next :: _ =>
            if next = Ascii.point then
              let fraction := after.advance 1
              match digitRun fraction with
              | [] => fraction.failPeek .invalidNumber
              | digits => skipOptionalExponent (fraction.advance digits.length)
            else skipOptionalExponent after
        | [] => .ok after

inductive Bracket where
  | list
  | object
  deriving DecidableEq

def Bracket.closing : Bracket → UInt8
  | .list => Ascii.closeBracket
  | .object => Ascii.closeBrace

def Bracket.endCause : Bracket → Cause
  | .list => .endInList
  | .object => .endInObject

def Bracket.commaCause : Bracket → Cause
  | .list => .listCommaExpected
  | .object => .objectCommaExpected

/-- What is due next while skipping. -/
inductive SkipStage where
  | value
  | key
  | firstItem (bracket : Bracket)
  | afterValue

/-- Passes over the rest of a value, given the brackets that are open. -/
def skipFrom : Nat → SkipStage → List Bracket → Cursor → Except Failure Cursor
  | 0, _, _, cursor => cursor.failHere .endInValue
  | fuel + 1, .value, brackets, cursor =>
      let cursor := cursor.skipBlanks
      match cursor.rest with
      | [] => cursor.failPeek .endInValue
      | first :: _ =>
          let next := cursor.advance 1
          if first = 0x6e then do
            skipFrom fuel .afterValue brackets (← readIdent nullTail next)
          else if first = 0x74 then do
            skipFrom fuel .afterValue brackets (← readIdent trueTail next)
          else if first = 0x66 then do
            skipFrom fuel .afterValue brackets (← readIdent falseTail next)
          else if first = Ascii.minus then do
            skipFrom fuel .afterValue brackets (← skipNumber next)
          else if Ascii.isDigit first then do
            skipFrom fuel .afterValue brackets (← skipNumber cursor)
          else if first = Ascii.quote then do
            skipFrom fuel .afterValue brackets (← skipString (next.rest.length + 1) next)
          else if first = Ascii.openBracket then
            skipFrom fuel (.firstItem .list) (.list :: brackets) next
          else if first = Ascii.openBrace then
            skipFrom fuel (.firstItem .object) (.object :: brackets) next
          else cursor.failPeek .valueExpected
  | fuel + 1, .key, brackets, cursor =>
      let cursor := cursor.skipBlanks
      match cursor.rest with
      | [] => cursor.failPeek .endInObject
      | first :: _ =>
          if first = Ascii.quote then do
            let next := cursor.advance 1
            let after := (← skipString (next.rest.length + 1) next).skipBlanks
            match after.rest with
            | [] => after.failPeek .endInObject
            | mark :: _ =>
                if mark = Ascii.colon then skipFrom fuel .value brackets (after.advance 1)
                else after.failPeek .colonExpected
          else cursor.failPeek .keyNotString
  | fuel + 1, .firstItem bracket, brackets, cursor =>
      let cursor := cursor.skipBlanks
      match cursor.rest with
      | [] => cursor.failPeek bracket.endCause
      | first :: _ =>
          if first = bracket.closing then
            skipFrom fuel .afterValue (brackets.drop 1) (cursor.advance 1)
          else
            match bracket with
            | .list => skipFrom fuel .value brackets cursor
            | .object => skipFrom fuel .key brackets cursor
  | _ + 1, .afterValue, [], cursor => .ok cursor
  | fuel + 1, .afterValue, bracket :: outer, cursor =>
      let cursor := cursor.skipBlanks
      match cursor.rest with
      | [] => cursor.failPeek bracket.endCause
      | first :: _ =>
          if first = Ascii.comma then
            match bracket with
            | .list => skipFrom fuel .value (bracket :: outer) (cursor.advance 1)
            | .object => skipFrom fuel .key (bracket :: outer) (cursor.advance 1)
          else if first = bracket.closing then
            skipFrom fuel .afterValue outer (cursor.advance 1)
          else cursor.failPeek bracket.commaCause

/-- Passes over one value. Every byte is met by at most three stages. -/
def skipValue (cursor : Cursor) : Except Failure Cursor :=
  skipFrom (3 * cursor.rest.length + 3) .value [] cursor

end TaskDispatch.Json
