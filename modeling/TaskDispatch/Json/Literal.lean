import TaskDispatch.Json.Cursor

/-!
# Scalar literals

Readers of the literals `null`, `true`, `false`, of strings and of numbers, each behind its first
byte or in front of its first digit. Strings come out as the bytes they denote; whether these are
UTF-8 is tested when the string ends.
-/

namespace TaskDispatch.Json

set_option autoImplicit false

def readIdent : Bytes → Cursor → Except Failure Cursor
  | [], cursor => .ok cursor
  | expected :: others, cursor =>
      match cursor.rest with
      | [] => cursor.failHere .endInValue
      | next :: _ =>
          if next = expected then readIdent others (cursor.advance 1)
          else (cursor.advance 1).failHere .identExpected

def nullTail : Bytes := [0x75, 0x6c, 0x6c]

def trueTail : Bytes := [0x72, 0x75, 0x65]

def falseTail : Bytes := [0x61, 0x6c, 0x73, 0x65]

/-! ## Strings -/

def readHexUnit (cursor : Cursor) : Except Failure (Nat × Cursor) :=
  match cursor.rest with
  | first :: second :: third :: fourth :: _ =>
      let value := do
        let a ← Ascii.hexValue? first
        let b ← Ascii.hexValue? second
        let c ← Ascii.hexValue? third
        let d ← Ascii.hexValue? fourth
        some (((a * 16 + b) * 16 + c) * 16 + d)
      match value with
      | some unit => .ok (unit, cursor.advance 4)
      | none => (cursor.advance 4).failHere .invalidEscape
  | short => (cursor.advance short.length).failHere .endInString

def codePointBytes (code : Nat) : Bytes := Bytes.ofText (String.ofList [Char.ofNat code])

/-- Reads what follows `\u`. A high surrogate needs a second escape with a low one. -/
def readUnicodeEscape (cursor : Cursor) : Except Failure (Bytes × Cursor) := do
  let (unit, cursor) ← readHexUnit cursor
  if 0xdc00 ≤ unit ∧ unit ≤ 0xdfff then cursor.failHere .loneSurrogate
  else if unit < 0xd800 ∨ 0xdbff < unit then .ok (codePointBytes unit, cursor)
  else
    match cursor.rest with
    | [] => cursor.failHere .endInString
    | first :: _ =>
        let cursor := cursor.advance 1
        if first ≠ Ascii.backslash then cursor.failHere .surrogatePairCut
        else
          match cursor.rest with
          | [] => cursor.failHere .endInString
          | second :: _ =>
              let cursor := cursor.advance 1
              if second ≠ Ascii.lowerU then cursor.failHere .surrogatePairCut
              else do
                let (low, cursor) ← readHexUnit cursor
                if low < 0xdc00 ∨ 0xdfff < low then cursor.failHere .loneSurrogate
                else
                  .ok (codePointBytes (0x10000 + (unit - 0xd800) * 0x400 + (low - 0xdc00)),
                    cursor)

def shortEscape? (letter : UInt8) : Option UInt8 :=
  if letter = Ascii.quote ∨ letter = Ascii.backslash ∨ letter = 0x2f then some letter
  else if letter = 0x62 then some 0x08
  else if letter = 0x66 then some 0x0c
  else if letter = 0x6e then some 0x0a
  else if letter = 0x72 then some 0x0d
  else if letter = 0x74 then some 0x09
  else none

def readEscape (cursor : Cursor) : Except Failure (Bytes × Cursor) :=
  match cursor.rest with
  | [] => cursor.failHere .endInString
  | letter :: _ =>
      let cursor := cursor.advance 1
      if letter = Ascii.lowerU then readUnicodeEscape cursor
      else
        match shortEscape? letter with
        | some byte => .ok ([byte], cursor)
        | none => cursor.failHere .invalidEscape

/-- Reads up to and including the closing quote and returns the bytes in between, escapes
resolved. -/
def readStringBytes : Nat → Bytes → Cursor → Except Failure (Bytes × Cursor)
  | 0, _, cursor => cursor.failHere .endInString
  | fuel + 1, collected, cursor =>
      match cursor.rest with
      | [] => cursor.failHere .endInString
      | byte :: _ =>
          let next := cursor.advance 1
          if byte = Ascii.quote then .ok (collected.reverse, next)
          else if byte = Ascii.backslash then do
            let (piece, next) ← readEscape next
            readStringBytes fuel (piece.reverse ++ collected) next
          else if byte < 0x20 then next.failHere .controlCharacter
          else readStringBytes fuel (byte :: collected) next

/-- Reads a string behind its opening quote. When the bytes are not UTF-8, the failure is placed
behind the closing quote, less the resolved bytes from the first bad one on. -/
def readString (cursor : Cursor) : Except Failure (String × Cursor) := do
  let (content, next) ← readStringBytes (cursor.rest.length + 1) [] cursor
  match Bytes.toText? content with
  | some decoded => .ok (decoded, next)
  | none =>
      .error ⟨.invalidCodePoint,
        .fixed (next.offset - (content.length - Bytes.validLength content))⟩

/-! ## Numbers -/

inductive Number where
  | integer (number : Int)
  | double (number : Binary64)

def Number.found : Number → Found
  | .integer number => .integer number
  | .double number => .double number

/-- The greatest significand that is collected exactly. -/
abbrev significandLimit : Nat := 18446744073709551615

abbrev exponentLimit : Nat := 2147483647

/-- Collects the digits before the point. As soon as one does not fit, it and all later ones only
raise the power of ten. -/
def collectWhole (digits : List Nat) : Nat × Nat :=
  digits.foldl
    (fun (significand, skipped) digit =>
      if skipped = 0 ∧ significand * 10 + digit ≤ significandLimit then
        (significand * 10 + digit, 0)
      else (significand, skipped + 1))
    (0, 0)

/-- Collects the digits after the point onto a significand, up to the first that does not fit.
Returns how many were collected. -/
def collectFraction : Nat → List Nat → Nat × Nat
  | significand, [] => (significand, 0)
  | significand, digit :: others =>
      if significand * 10 + digit ≤ significandLimit then
        let (total, count) := collectFraction (significand * 10 + digit) others
        (total, count + 1)
      else (significand, 0)

def powerOfTen (power : Nat) : Binary64 := .ofNat (Nat.pow 10 power)

/-- `significand * 10 ^ power` in double precision, rounded first when the significand is
converted and again at every scaling; `none` if it is too large. -/
def scaleByTen : Nat → Binary64 → Int → Option Binary64
  | 0, value, _ => some value
  | steps + 1, value, power =>
      if power.natAbs ≤ 308 then
        if 0 ≤ power then
          match Binary64.mul value (powerOfTen power.natAbs) with
          | .infinite _ => none
          | scaled => some scaled
        else some (Binary64.div value (powerOfTen power.natAbs))
      else if value = .finite false 0 Binary64.leastExponent then some value
      else if 0 ≤ power then none
      else scaleByTen steps (Binary64.div value (powerOfTen 308)) (power + 308)

/-- The double of a significand and a power of ten. Four scalings by `10 ^ 308` leave nothing. -/
def doubleOf (negative : Bool) (significand : Nat) (power : Int) : Option Binary64 :=
  (scaleByTen 8 (.ofNat significand) power).map fun value =>
    if negative then value.negate else value

def digitRun (cursor : Cursor) : List Nat :=
  (cursor.rest.takeWhile Ascii.isDigit).map Ascii.digitValue

def finishDouble (negative : Bool) (significand : Nat) (power : Int) (cursor : Cursor) :
    Except Failure (Number × Cursor) :=
  match doubleOf negative significand power with
  | some value => .ok (.double value, cursor)
  | none => cursor.failHere .numberOutOfRange

/-- How many digits it takes to exceed the greatest exponent, if the run does. -/
def exponentOverflow? (digits : List Nat) : Option Nat :=
  (List.range (digits.length + 1)).find? fun count =>
    exponentLimit < Decimal.value (digits.take count)

def readExponent (negative : Bool) (significand : Nat) (power : Int) (cursor : Cursor) :
    Except Failure (Number × Cursor) :=
  let signed : Bool × Cursor :=
    match cursor.rest with
    | sign :: _ =>
        if sign = Ascii.plus then (false, cursor.advance 1)
        else if sign = Ascii.minus then (true, cursor.advance 1)
        else (false, cursor)
    | [] => (false, cursor)
  let cursor := signed.2
  match cursor.rest with
  | [] => cursor.failHere .endInValue
  | first :: _ =>
      if Ascii.isDigit first then
        let digits := digitRun cursor
        match exponentOverflow? digits with
        | some count =>
            if significand ≠ 0 ∧ !signed.1 then
              (cursor.advance count).failHere .numberOutOfRange
            else
              .ok (.double (.finite negative 0 Binary64.leastExponent),
                cursor.advance digits.length)
        | none =>
            let exponent : Int := Decimal.value digits
            finishDouble negative significand
              (if signed.1 then power - exponent else power + exponent)
              (cursor.advance digits.length)
      else (cursor.advance 1).failHere .invalidNumber

def readOptionalExponent (negative : Bool) (significand : Nat) (power : Int) (cursor : Cursor) :
    Except Failure (Number × Cursor) :=
  match cursor.rest with
  | next :: _ =>
      if next = Ascii.lowerE ∨ next = Ascii.upperE then
        readExponent negative significand power (cursor.advance 1)
      else finishDouble negative significand power cursor
  | [] => finishDouble negative significand power cursor

def readFraction (negative : Bool) (significand : Nat) (power : Int) (cursor : Cursor) :
    Except Failure (Number × Cursor) :=
  let digits := digitRun cursor
  match digits, cursor.rest with
  | [], [] => cursor.failPeek .endInValue
  | [], _ :: _ => cursor.failPeek .invalidNumber
  | _ :: _, _ =>
      let (total, count) := collectFraction significand digits
      readOptionalExponent negative total (power - count) (cursor.advance digits.length)

/-- An integer of 64 bits, or the double nearest to a whole number that is none. There is no
negative integer zero. -/
def wholeNumber (negative : Bool) (significand : Nat) : Number :=
  if negative then
    if significand = 0 ∨ Nat.pow 2 63 < significand then
      .double (Binary64.ofNat significand).negate
    else .integer (-(significand : Int))
  else .integer significand

/-- Reads a number in front of its first digit, its minus sign consumed. -/
def readNumber (negative : Bool) (cursor : Cursor) : Except Failure (Number × Cursor) :=
  match cursor.rest with
  | [] => cursor.failHere .endInValue
  | first :: _ =>
      if Ascii.isDigit first then
        let digits := digitRun cursor
        if first = Ascii.zero ∧ 1 < digits.length then
          (cursor.advance 1).failPeek .invalidNumber
        else
          let (significand, skipped) := collectWhole digits
          let after := cursor.advance digits.length
          match after.rest with
          | next :: _ =>
              if next = Ascii.point then
                readFraction negative significand skipped (after.advance 1)
              else if next = Ascii.lowerE ∨ next = Ascii.upperE then
                readExponent negative significand skipped (after.advance 1)
              else if skipped = 0 then .ok (wholeNumber negative significand, after)
              else finishDouble negative significand skipped after
          | [] =>
              if skipped = 0 then .ok (wholeNumber negative significand, after)
              else finishDouble negative significand skipped after
      else (cursor.advance 1).failHere .invalidNumber

end TaskDispatch.Json
