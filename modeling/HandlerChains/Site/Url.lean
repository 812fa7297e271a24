import HandlerChains.Text.Blank
import HandlerChains.Text.UpperCase
import HandlerChains.Text.Quoted

/-!
# Splitting URLs

A URL is split into scheme, host and path. Leading controls and blanks and all tabs and line breaks
are dropped first. A scheme is the text before the first colon if it starts with a letter and holds
nothing but letters, digits and `+-.`; two slashes introduce the host; the fragment and the query
are cut off. Parts that are missing are empty.
-/

namespace HandlerChains
namespace Site

structure UrlParts where
  scheme : String
  host : String
  path : String
  deriving DecidableEq, Repr

def isSchemeChar (c : Char) : Bool :=
  c.isAlphanum || c == '+' || c == '-' || c == '.'

def isScheme : List Char → Bool
  | [] => false
  | c :: rest => c.isAlpha && (c :: rest).all isSchemeChar

def splitScheme (cs : List Char) : List Char × List Char :=
  let start := cs.takeWhile (· != ':')
  match cs.dropWhile (· != ':') with
  | ':' :: rest => if isScheme start then (start.map Char.toLower, rest) else ([], cs)
  | _ => ([], cs)

def endsHost (c : Char) : Bool := c == '/' || c == '?' || c == '#'

def splitHost : List Char → List Char × List Char
  | '/' :: '/' :: rest => (rest.takeWhile (!endsHost ·), rest.dropWhile (!endsHost ·))
  | cs => ([], cs)

/-- The characters whose compatibility form holds a URL delimiter. -/
def hidesDelimiter (c : Char) : Bool :=
  [0x2047, 0x2048, 0x2049, 0x2100, 0x2101, 0x2105, 0x2106, 0x2a74, 0xfe13, 0xfe16, 0xfe55, 0xfe56,
    0xfe5f, 0xfe6b, 0xff03, 0xff0f, 0xff1a, 0xff1f, 0xff20].contains c.toNat

/-- What is wrong with a host: one bracket without the other, or a delimiter in disguise. -/
def hostFault? (host : List Char) : Option String :=
  if host.contains '[' != host.contains ']' then some "Invalid IPv6 URL"
  else if host.any hidesDelimiter then
    some ("netloc '" ++ String.ofList host ++
      "' contains invalid characters under NFKC normalization")
  else none

def isDropped (c : Char) : Bool := c == '\t' || c == '\r' || c == '\n'

def isControlOrSpace (c : Char) : Bool := c.toNat ≤ 0x20

/-- The parts of a URL, or what is wrong with its host. -/
def splitUrl (url : String) : Except String UrlParts :=
  let cs := (url.toList.dropWhile isControlOrSpace).filter (!isDropped ·)
  let (scheme, afterScheme) := splitScheme cs
  let (host, afterHost) := splitHost afterScheme
  let path := (afterHost.takeWhile (· != '#')).takeWhile (· != '?')
  match hostFault? host with
  | some reason => .error reason
  | none => .ok ⟨String.ofList scheme, String.ofList host, String.ofList path⟩

end Site
end HandlerChains
