/-!
# Lossy UTF-8 decoding

Bytes are read one at a time. An ill-formed sequence gives one replacement character for its
longest start that could still have been completed, and reading goes on with the byte that broke it.
Characters that never were bytes may stand between them; they end a sequence like any other break.
-/

namespace HandlerChains
namespace Text
namespace Utf8

inductive Piece where
  | byte (b : UInt8)
  | char (c : Char)
  deriving DecidableEq, Repr

/-- The state inside a sequence: the bits read, the bytes still missing, and the bounds of the next.
-/
structure Pending where
  bits : Nat
  missing : Nat
  low : UInt8 := 0x80
  high : UInt8 := 0xbf

def replacement : Char := Char.ofNat 0xfffd

/-- What a byte gives when it starts a sequence. The bounds on the second byte rule out overlong
forms, surrogates and numbers past U+10FFFF. -/
def start (b : UInt8) : List Char × Option Pending :=
  let n := b.toNat
  if n < 0x80 then ([Char.ofNat n], none)
  else if n < 0xc2 then ([replacement], none)
  else if n < 0xe0 then ([], some { bits := n - 0xc0, missing := 1 })
  else if n = 0xe0 then ([], some { bits := 0, missing := 2, low := 0xa0 })
  else if n = 0xed then ([], some { bits := 0xd, missing := 2, high := 0x9f })
  else if n < 0xf0 then ([], some { bits := n - 0xe0, missing := 2 })
  else if n = 0xf0 then ([], some { bits := 0, missing := 3, low := 0x90 })
  else if n < 0xf4 then ([], some { bits := n - 0xf0, missing := 3 })
  else if n = 0xf4 then ([], some { bits := 4, missing := 3, high := 0x8f })
  else ([replacement], none)

def decodeFrom : Option Pending → List Piece → List Char
  | none, [] => []
  | some _, [] => [replacement]
  | none, .char c :: rest => c :: decodeFrom none rest
  | some _, .char c :: rest => replacement :: c :: decodeFrom none rest
  | none, .byte b :: rest => (start b).1 ++ decodeFrom (start b).2 rest
  | some p, .byte b :: rest =>
    if p.low ≤ b ∧ b ≤ p.high then
      let bits := p.bits * 64 + (b.toNat - 0x80)
      if p.missing ≤ 1 then Char.ofNat bits :: decodeFrom none rest
      else decodeFrom (some { bits, missing := p.missing - 1 }) rest
    else replacement :: (start b).1 ++ decodeFrom (start b).2 rest

def decode (ps : List Piece) : List Char := decodeFrom none ps

end Utf8
end Text
end HandlerChains
