/-!
# Bytes

Texts travel as UTF-8 bytes. This module names the bytes that formats give a meaning to, and
holds the lower-case hexadecimal writing of a byte sequence.
-/

namespace TaskDispatch

set_option autoImplicit false

abbrev Bytes := List UInt8

namespace Ascii

def tab : UInt8 := 0x09
def lineFeed : UInt8 := 0x0a
def carriageReturn : UInt8 := 0x0d
def space : UInt8 := 0x20
def quote : UInt8 := 0x22
def plus : UInt8 := 0x2b
def comma : UInt8 := 0x2c
def minus : UInt8 := 0x2d
def point : UInt8 := 0x2e
def zero : UInt8 := 0x30
def colon : UInt8 := 0x3a
def upperE : UInt8 := 0x45
def openBracket : UInt8 := 0x5b
def backslash : UInt8 := 0x5c
def closeBracket : UInt8 := 0x5d
def lowerE : UInt8 := 0x65
def lowerU : UInt8 := 0x75
def openBrace : UInt8 := 0x7b
def closeBrace : UInt8 := 0x7d

def isDigit (byte : UInt8) : Bool := 0x30 ≤ byte && byte ≤ 0x39

def digitValue (byte : UInt8) : Nat := byte.toNat - 0x30

def hexValue? (byte : UInt8) : Option Nat :=
  if 0x30 ≤ byte && byte ≤ 0x39 then some (byte.toNat - 0x30)
  else if 0x61 ≤ byte && byte ≤ 0x66 then some (byte.toNat - 0x61 + 10)
  else if 0x41 ≤ byte && byte ≤ 0x46 then some (byte.toNat - 0x41 + 10)
  else none

def hexDigit (value : Nat) : UInt8 :=
  if value < 10 then UInt8.ofNat (0x30 + value) else UInt8.ofNat (0x61 + (value - 10))

end Ascii

namespace Bytes

def ofText (text : String) : Bytes := text.toUTF8.data.toList

def toText? (bytes : Bytes) : Option String := String.fromUTF8? ⟨bytes.toArray⟩

def toHex (bytes : Bytes) : String :=
  String.ofList (bytes.flatMap fun byte =>
    [Char.ofNat (Ascii.hexDigit (byte.toNat / 16)).toNat,
     Char.ofNat (Ascii.hexDigit (byte.toNat % 16)).toNat])

def ofHexDigits? : Bytes → Option Bytes
  | [] => some []
  | [_] => none
  | high :: low :: rest => do
      let highValue ← Ascii.hexValue? high
      let lowValue ← Ascii.hexValue? low
      let decoded ← ofHexDigits? rest
      some (UInt8.ofNat (highValue * 16 + lowValue) :: decoded)

/-- How many leading bytes form complete, well-formed UTF-8 characters. A sequence is well formed
when its length is the one its first byte announces, it is the shortest for its code point, and
the code point is no surrogate and at most U+10FFFF. -/
def validLength : Bytes → Nat
  | [] => 0
  | first :: rest =>
      if first < 0x80 then validLength rest + 1
      else
        match rest with
        | [] => 0
        | second :: rest =>
            let continues (byte : UInt8) : Bool := 0x80 ≤ byte && byte ≤ 0xbf
            if 0xc2 ≤ first && first ≤ 0xdf then
              if continues second then validLength rest + 2 else 0
            else
              match rest with
              | [] => 0
              | third :: rest =>
                  if 0xe0 ≤ first && first ≤ 0xef then
                    let low : UInt8 := if first = 0xe0 then 0xa0 else 0x80
                    let high : UInt8 := if first = 0xed then 0x9f else 0xbf
                    if low ≤ second && second ≤ high && continues third then
                      validLength rest + 3
                    else 0
                  else
                    match rest with
                    | [] => 0
                    | fourth :: rest =>
                        let low : UInt8 := if first = 0xf0 then 0x90 else 0x80
                        let high : UInt8 := if first = 0xf4 then 0x8f else 0xbf
                        if 0xf0 ≤ first && first ≤ 0xf4 && low ≤ second && second ≤ high
                            && continues third && continues fourth then
                          validLength rest + 4
                        else 0

end Bytes

end TaskDispatch
