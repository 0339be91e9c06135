import TaskDispatch.Text.Bytes
import TaskDispatch.Text.Unprintable
import TaskDispatch.Text.GraphemeExtend

/-!
# Quoted texts

How a text that came from outside is shown inside a message: in double quotes, with everything
escaped that would not show as itself. NUL, tab, carriage return, line feed, the double quote and
the backslash have short escapes; a character that has no printed form, or that would merge with
the one before it, is written by its code point in braces.
-/

namespace TaskDispatch.Text

set_option autoImplicit false

def hexDigits (number : Nat) : List Char :=
  if number < 16 then [Char.ofNat (Ascii.hexDigit number).toNat]
  else hexDigits (number / 16) ++ [Char.ofNat (Ascii.hexDigit (number % 16)).toNat]

def quotedCharacter (character : Char) : List Char :=
  match character.toNat with
  | 0x00 => ['\\', '0']
  | 0x09 => ['\\', 't']
  | 0x0a => ['\\', 'n']
  | 0x0d => ['\\', 'r']
  | 0x22 => ['\\', Char.ofNat 0x22]
  | 0x5c => ['\\', '\\']
  | code =>
      if 0x20 ≤ code && code < 0x7f then [character]
      else if extendsGrapheme character || !isPrintable character then
        ['\\', 'u', Char.ofNat 0x7b] ++ hexDigits code ++ [Char.ofNat 0x7d]
      else [character]

def quoted (text : String) : String :=
  String.ofList
    (Char.ofNat 0x22 :: (text.toList.flatMap quotedCharacter ++ [Char.ofNat 0x22]))

end TaskDispatch.Text
