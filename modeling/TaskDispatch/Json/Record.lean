import TaskDispatch.Json.Codec

/-!
# Records

A record is written as an object with its fields in declaration order. It is read from an object
with the fields in any order, or from a list of the fields in declaration order. Fields are decoded
as they come, so the first problem of the text is the one reported; what is missing is reported at
the end, in declaration order.
-/

namespace TaskDispatch.Json

set_option autoImplicit false

/-- How a field may be left out: not at all; in an object; in an object and at the end of a list;
or so, and it is not written when it has its absent value. -/
inductive Presence (α : Type) where
  | required
  | nullable (absent : α)
  | defaulted (absent : α)
  | omitted (absent : α) (isAbsent : α → Bool)

namespace Presence

def inObject {α : Type} : Presence α → Option α
  | .required => none
  | .nullable absent => some absent
  | .defaulted absent => some absent
  | .omitted absent _ => some absent

def inList {α : Type} : Presence α → Option α
  | .required => none
  | .nullable _ => none
  | .defaulted absent => some absent
  | .omitted absent _ => some absent

def skips {α : Type} (presence : Presence α) (value : α) : Bool :=
  match presence with
  | .omitted _ isAbsent => isAbsent value
  | _ => false

end Presence

/-- The fields of a record. The first index is the type of what has been read of them so far, the
second the type of their values. -/
inductive Fields : Type → Type → Type 1 where
  | nil : Fields Unit Unit
  | cons {α σ β : Type} (key : String) (presence : Presence α) (codec : Codec α)
      (others : Fields σ β) : Fields (Option α × σ) (α × β)

inductive KeyUse (σ : Type) where
  | unknown
  | repeated
  | field (read : Reader σ)

namespace Fields

def keys {σ β : Type} : Fields σ β → List String
  | .nil => []
  | .cons key _ _ others => key :: others.keys

def unread {σ β : Type} : Fields σ β → σ
  | .nil => ()
  | .cons _ _ _ others => (none, others.unread)

def useKey {σ β : Type} (fields : Fields σ β) (name : String) (slots : σ) : KeyUse σ :=
  match fields, slots with
  | .nil, () => .unknown
  | .cons key _ codec others, (slot, rest) =>
      if name = key then
        match slot with
        | some _ => .repeated
        | none => .field fun cursor => do
            let (value, after) ← codec.read cursor
            .ok ((some value, rest), after)
      else
        match others.useKey name rest with
        | .unknown => .unknown
        | .repeated => .repeated
        | .field read => .field fun cursor => do
            let (rest, after) ← read cursor
            .ok ((slot, rest), after)

def complete {σ β : Type} (fields : Fields σ β) (slots : σ) : Except Cause β :=
  match fields, slots with
  | .nil, () => .ok ()
  | .cons key presence _ others, (slot, rest) => do
      let value ←
        match slot, presence.inObject with
        | some value, _ => .ok value
        | none, some absent => .ok absent
        | none, none => .error (.missingField key)
      let values ← others.complete rest
      .ok (value, values)

/-- Reads the fields from a list, up to its closing bracket. `index` counts the fields before. -/
def readList {σ β : Type} (fields : Fields σ β) (lengthText : String) (index : Nat) : Reader β :=
  match fields with
  | .nil => fun cursor => .ok ((), cursor)
  | .cons _ presence codec others => fun cursor =>
      let cursor := cursor.skipBlanks
      let readRest (value : _) (after : Cursor) : Except Failure (_ × Cursor) := do
        let (values, after) ← others.readList lengthText (index + 1) after
        .ok ((value, values), after)
      match cursor.rest with
      | [] => cursor.failPeek .endInList
      | mark :: _ =>
          if mark = Ascii.closeBracket then
            match presence.inList with
            | some absent => readRest absent cursor
            | none => cursor.failFloating (.invalidLength index lengthText)
          else if index = 0 then do
            let (value, after) ← codec.read cursor
            readRest value after
          else if mark = Ascii.comma then
            let next := (cursor.advance 1).skipBlanks
            match next.rest with
            | [] => next.failPeek .endInValue
            | after :: _ =>
                if after = Ascii.closeBracket then next.failPeek .trailingComma
                else do
                  let (value, after) ← codec.read next
                  readRest value after
          else cursor.failPeek .listCommaExpected

def writeMembers {σ β : Type} (fields : Fields σ β) (values : β) : List Bytes :=
  match fields, values with
  | .nil, () => []
  | .cons key presence codec others, (value, rest) =>
      if presence.skips value then others.writeMembers rest
      else (writeString key ++ Ascii.colon :: codec.write value) :: others.writeMembers rest

def takeMember {σ β : Type} (fields : Fields σ β) (name : String) (tree : Json) (slots : σ) :
    Except Cause (Option σ) :=
  match fields, slots with
  | .nil, () => .ok none
  | .cons key _ codec others, (slot, rest) =>
      if name = key then do
        let value ← codec.ofTree tree
        .ok (some (some value, rest))
      else do
        let taken ← others.takeMember name tree rest
        .ok (taken.map fun rest => (slot, rest))

def takeMembers {σ β : Type} (fields : Fields σ β) (closed : Bool) :
    List (String × Json) → σ → Except Cause σ
  | [], slots => .ok slots
  | (name, tree) :: others, slots => do
      match ← fields.takeMember name tree slots with
      | some slots => fields.takeMembers closed others slots
      | none =>
          if closed then .error (.unknownField name fields.keys)
          else fields.takeMembers closed others slots

/-- Takes the fields from the items of a list. `length` is the length of the whole list. -/
def takeItems {σ β : Type} (fields : Fields σ β) (lengthText : String) (length index : Nat)
    (items : List Json) : Except Cause β :=
  match fields, items with
  | .nil, [] => .ok ()
  | .nil, _ :: _ => .error (.invalidLength length "fewer elements in array")
  | .cons _ presence _ others, [] =>
      match presence.inList with
      | some absent => do
          let values ← others.takeItems lengthText length (index + 1) []
          .ok (absent, values)
      | none => .error (.invalidLength index lengthText)
  | .cons _ _ codec others, tree :: rest => do
      let value ← codec.ofTree tree
      let values ← others.takeItems lengthText length (index + 1) rest
      .ok (value, values)

end Fields

/-- The shape of a record: how messages call it, its fields, and whether unknown keys are
refused. -/
structure RecordShape (σ β : Type) where
  expected : String
  lengthText : String
  fields : Fields σ β
  closed : Bool

def readColon (cursor : Cursor) : Except Failure Cursor :=
  let cursor := cursor.skipBlanks
  match cursor.rest with
  | [] => cursor.failPeek .endInObject
  | mark :: _ =>
      if mark = Ascii.colon then .ok (cursor.advance 1) else cursor.failPeek .colonExpected

/-- Finds the next key of an object, or its end: the cursor is then in front of the brace. -/
def nextKey (isFirst : Bool) (cursor : Cursor) : Except Failure (Option String × Cursor) :=
  let cursor := cursor.skipBlanks
  let keyAt (cursor : Cursor) : Except Failure (Option String × Cursor) :=
    match cursor.rest with
    | [] => cursor.failPeek .endInValue
    | mark :: _ =>
        if mark = Ascii.quote then do
          let (key, after) ← readString (cursor.advance 1)
          .ok (some key, after)
        else if mark = Ascii.closeBrace then cursor.failPeek .trailingComma
        else cursor.failPeek .keyNotString
  match cursor.rest with
  | [] => cursor.failPeek .endInObject
  | mark :: _ =>
      if mark = Ascii.closeBrace then .ok (none, cursor)
      else if isFirst then keyAt cursor
      else if mark = Ascii.comma then keyAt (cursor.advance 1).skipBlanks
      else cursor.failPeek .objectCommaExpected

/-- Reads the members of an object up to its closing brace, which is left in place. -/
def RecordShape.readMembers {σ β : Type} (shape : RecordShape σ β) :
    Nat → Bool → σ → Reader σ
  | 0, _, _, cursor => cursor.failHere .endInObject
  | fuel + 1, isFirst, slots, cursor => do
      match ← nextKey isFirst cursor with
      | (none, after) => .ok (slots, after)
      | (some key, after) =>
          match shape.fields.useKey key slots with
          | .unknown =>
              if shape.closed then
                after.failFloating (.unknownField key shape.fields.keys)
              else do
                let after ← skipValue (← readColon after)
                shape.readMembers fuel false slots after
          | .repeated => after.failFloating (.duplicateField key)
          | .field read => do
              let (slots, after) ← read (← readColon after)
              shape.readMembers fuel false slots after

end TaskDispatch.Json

namespace TaskDispatch.Codec

open Json

set_option autoImplicit false

/-- The codec of a type whose JSON form is a record. `build` may still refuse the field values;
`parts` are those of a value. -/
def record {σ β α : Type} (shape : RecordShape σ β) (build : β → Except Cause α)
    (parts : α → β) : Codec α where
  write value :=
    Ascii.openBrace
      :: (joinItems (shape.fields.writeMembers (parts value)) ++ [Ascii.closeBrace])
  read cursor := do
    let (first, cursor) ← valueStart cursor
    let inside := cursor.advance 1
    if first = Ascii.openBrace then
      let content : Except Failure (α × Cursor) := do
        let (slots, after) ←
          shape.readMembers (inside.rest.length + 1) true shape.fields.unread inside
        match shape.fields.complete slots >>= build with
        | .ok value => .ok (value, after)
        | .error cause => after.failFloating cause
      match content with
      | .ok (value, after) => .ok (value, after.advance 1)
      | .error failure => .error (failure.settle objectCloseOffset)
    else if first = Ascii.openBracket then
      let content : Except Failure (α × Cursor) := do
        let (values, after) ← shape.fields.readList shape.lengthText 0 inside
        match build values with
        | .ok value => .ok (value, after)
        | .error cause => after.failFloating cause
      match content with
      | .ok (value, after) => do
          let after ← closeList after
          .ok (value, after)
      | .error failure => .error (failure.settle listCloseOffset)
    else failType shape.expected cursor
  ofTree
    | .object members => do
        let slots ←
          shape.fields.takeMembers shape.closed (membersByKey members) shape.fields.unread
        let values ← shape.fields.complete slots
        build values
    | .list items => do
        let values ← shape.fields.takeItems shape.lengthText items.length 0 items
        build values
    | other => .error (.invalidType other.found shape.expected)

end TaskDispatch.Codec
