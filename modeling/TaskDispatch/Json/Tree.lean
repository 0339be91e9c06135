import TaskDispatch.Json.Literal

/-!
# Reading a whole tree

A JSON text as a tree, for texts whose shape is not known beforehand.
-/

namespace TaskDispatch.Json

set_option autoImplicit false

mutual

def readTree : Nat → Reader Json
  | 0, cursor => cursor.failHere .endInValue
  | fuel + 1, cursor =>
      let cursor := cursor.skipBlanks
      match cursor.rest with
      | [] => cursor.failPeek .endInValue
      | first :: _ =>
          let next := cursor.advance 1
          if first = 0x6e then do
            let after ← readIdent nullTail next
            .ok (.null, after)
          else if first = 0x74 then do
            let after ← readIdent trueTail next
            .ok (.boolean true, after)
          else if first = 0x66 then do
            let after ← readIdent falseTail next
            .ok (.boolean false, after)
          else if first = Ascii.minus ∨ Ascii.isDigit first then do
            let negative : Bool := first = Ascii.minus
            let (number, after) ← readNumber negative (if negative then next else cursor)
            match number with
            | .integer whole => .ok (.integer whole, after)
            | .double value => .ok (.double value, after)
          else if first = Ascii.quote then do
            let (content, after) ← readString next
            .ok (.text content, after)
          else if first = Ascii.openBracket then do
            let (items, after) ← readTreeItems fuel true next
            .ok (.list items, after)
          else if first = Ascii.openBrace then do
            let (members, after) ← readTreeMembers fuel true next
            .ok (.object members, after)
          else cursor.failPeek .valueExpected

/-- Reads the items of a list up to and including its closing bracket. -/
def readTreeItems : Nat → Bool → Reader (List Json)
  | 0, _, cursor => cursor.failHere .endInList
  | fuel + 1, isFirst, cursor =>
      let cursor := cursor.skipBlanks
      match cursor.rest with
      | [] => cursor.failPeek .endInList
      | mark :: _ =>
          if mark = Ascii.closeBracket then .ok ([], cursor.advance 1)
          else if !isFirst && mark != Ascii.comma then cursor.failPeek .listCommaExpected
          else do
            let cursor := if isFirst then cursor else (cursor.advance 1).skipBlanks
            let (item, after) ← readTree fuel cursor
            let (others, after) ← readTreeItems fuel false after
            .ok (item :: others, after)

def readTreeMembers : Nat → Bool → Reader (List (String × Json))
  | 0, _, cursor => cursor.failHere .endInObject
  | fuel + 1, isFirst, cursor =>
      let cursor := cursor.skipBlanks
      match cursor.rest with
      | [] => cursor.failPeek .endInObject
      | mark :: _ =>
          if mark = Ascii.closeBrace then .ok ([], cursor.advance 1)
          else if !isFirst && mark != Ascii.comma then cursor.failPeek .objectCommaExpected
          else do
            let cursor := if isFirst then cursor else (cursor.advance 1).skipBlanks
            match cursor.rest with
            | [] => cursor.failPeek .endInValue
            | quote :: _ =>
                if quote ≠ Ascii.quote then cursor.failPeek .keyNotString
                else do
                  let (key, after) ← readString (cursor.advance 1)
                  let after := after.skipBlanks
                  match after.rest with
                  | [] => after.failPeek .endInObject
                  | colon :: _ =>
                      if colon ≠ Ascii.colon then after.failPeek .colonExpected
                      else do
                        let (value, after) ← readTree fuel (after.advance 1)
                        let (others, after) ← readTreeMembers fuel false after
                        .ok ((key, value) :: others, after)

end

def parse (content : Bytes) : Except DecodeError Json :=
  let result : Except Failure Json := do
    let (tree, after) ← readTree (2 * content.length + 2) (.start content)
    let after := after.skipBlanks
    if after.rest.isEmpty then .ok tree else after.failPeek .trailingCharacters
  match result with
  | .ok tree => .ok tree
  | .error failure => .error (failure.report content)

end TaskDispatch.Json
