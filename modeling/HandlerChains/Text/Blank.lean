/-!
# White space and stripping

Two sets of blank characters are in use. `isWhiteSpace` is the Unicode property; `isBlank`
adds the four information separators and is the one stripped from names, methods and flags.
`trim` cuts the characters of a set off both ends of a text.
-/

namespace HandlerChains
namespace Text

/-- The characters with the Unicode property White_Space. -/
def isWhiteSpace (c : Char) : Bool :=
  let n := c.toNat
  (9 ≤ n && n ≤ 13) || n == 0x20 || n == 0x85 || n == 0xa0 || n == 0x1680 ||
    (0x2000 ≤ n && n ≤ 0x200a) || n == 0x2028 || n == 0x2029 || n == 0x202f ||
    n == 0x205f || n == 0x3000

/-- White space together with the information separators U+001C to U+001F. -/
def isBlank (c : Char) : Bool :=
  isWhiteSpace c || (0x1c ≤ c.toNat && c.toNat ≤ 0x1f)

/-- The characters between the first and the last that are outside `p`. -/
def trimBoth (p : Char → Bool) (cs : List Char) : List Char :=
  ((cs.dropWhile p).reverse.dropWhile p).reverse

def trim (p : Char → Bool) (s : String) : String :=
  String.ofList (trimBoth p s.toList)

def trimStart (p : Char → Bool) (s : String) : String :=
  String.ofList (s.toList.dropWhile p)

def trimEnd (p : Char → Bool) (s : String) : String :=
  String.ofList (s.toList.reverse.dropWhile p).reverse

def strip (s : String) : String := trim isBlank s

@[simp] theorem trimBoth_nil (p : Char → Bool) : trimBoth p [] = [] := rfl

end Text
end HandlerChains
