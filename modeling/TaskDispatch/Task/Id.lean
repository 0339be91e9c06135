import TaskDispatch.Json.Codec

/-!
# Task identifiers

An identifier is a 128-bit number, ordered as a number. Its text has 26 digits in base 32 with the
letters I, L, O and U left out of the alphabet, most significant digit first: 130 bits, the top two
of which are zero. Reading takes letters of either case; digits beyond the 128th bit are lost.
-/

namespace TaskDispatch

set_option autoImplicit false

structure TaskId where
  number : Fin (Nat.pow 2 128)
  deriving DecidableEq

namespace TaskId

instance : Inhabited TaskId := ⟨⟨0⟩⟩

instance : LT TaskId := ⟨fun left right => left.number.val < right.number.val⟩

instance : LE TaskId := ⟨fun left right => left.number.val ≤ right.number.val⟩

instance (left right : TaskId) : Decidable (left < right) :=
  inferInstanceAs (Decidable (left.number.val < right.number.val))

instance (left right : TaskId) : Decidable (left ≤ right) :=
  inferInstanceAs (Decidable (left.number.val ≤ right.number.val))

/-- The identifier of a number, taken modulo `2 ^ 128`. -/
def ofNat (number : Nat) : TaskId := ⟨⟨number % Nat.pow 2 128, Nat.mod_lt _ (by decide)⟩⟩

def alphabet : List Char :=
  ['0', '1', '2', '3', '4', '5', '6', '7', '8', '9', 'A', 'B', 'C', 'D', 'E', 'F', 'G', 'H', 'J',
   'K', 'M', 'N', 'P', 'Q', 'R', 'S', 'T', 'V', 'W', 'X', 'Y', 'Z']

def digit (value : Nat) : Char := alphabet.getD value '0'

/-- The value of a digit; a lower case letter counts as its upper case one. -/
def digitValue? (character : Char) : Option Nat := alphabet.idxOf? character.toUpper

/-- The base 32 digit values of a number in a fixed width, most significant first. -/
def digitValues : Nat → Nat → List Nat
  | 0, _ => []
  | width + 1, number => digitValues width (number / 32) ++ [number % 32]

def digits (id : TaskId) : List Char := (digitValues 26 id.number.val).map digit

def text (id : TaskId) : String := String.ofList id.digits

def display (id : TaskId) : String := String.ofList ("task-".toList ++ id.digits)

/-- The number that a digit sequence denotes, or nothing if some character is no digit. -/
def valueOf? : List Char → Option Nat :=
  List.foldl
    (fun total character => do
      let number ← total
      let value ← digitValue? character
      some (number * 32 + value))
    (some 0)

/-- Reads 26 digits. The length is counted in UTF-8 bytes and tested first. -/
def parse (content : String) : Except Json.Cause TaskId :=
  if content.utf8ByteSize ≠ 26 then .error .identifierLength
  else
    match valueOf? content.toList with
    | some number => .ok (ofNat number)
    | none => .error .identifierCharacter

def codec : Codec TaskId := .parsedString text parse

def sorted (ids : List TaskId) : List TaskId :=
  ids.mergeSort fun left right => decide (left ≤ right)

end TaskId

end TaskDispatch
