import HandlerChains.Text.Utf8

/-!
# Percent encoding

`decode` turns every `%XX` into a byte, keeps a percent sign that two hexadecimal digits do not
follow, and reads the bytes as UTF-8. Characters outside ASCII pass through. `encode` writes every
byte of a text as `%XX`.
-/

namespace HandlerChains
namespace Text
namespace Percent

def hexValue? (c : Char) : Option Nat :=
  let n := c.toNat
  if 0x30 ≤ n ∧ n ≤ 0x39 then some (n - 0x30)
  else if 0x41 ≤ n ∧ n ≤ 0x46 then some (n - 0x37)
  else if 0x61 ≤ n ∧ n ≤ 0x66 then some (n - 0x57)
  else none

def plain (c : Char) : Utf8.Piece :=
  if c.toNat < 0x80 then .byte (UInt8.ofNat c.toNat) else .char c

/-- The bytes written by a text, and between them its characters outside ASCII. -/
def pieces : List Char → List Utf8.Piece
  | [] => []
  | '%' :: h :: l :: rest =>
    match hexValue? h, hexValue? l with
    | some high, some low => .byte (UInt8.ofNat (16 * high + low)) :: pieces rest
    | _, _ => plain '%' :: pieces (h :: l :: rest)
  | c :: rest => plain c :: pieces rest

def decodeChars (cs : List Char) : List Char := Utf8.decode (pieces cs)

def decode (s : String) : String := String.ofList (decodeChars s.toList)

def hexDigit (n : Nat) : Char := (Nat.digitChar n).toUpper

def encodeByte (b : UInt8) : List Char :=
  ['%', hexDigit (b.toNat / 16), hexDigit (b.toNat % 16)]

def encode (s : String) : List Char :=
  s.toUTF8.toList.flatMap encodeByte

end Percent
end Text
end HandlerChains
