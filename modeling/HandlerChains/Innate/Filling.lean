import HandlerChains.Context
import HandlerChains.Text.Elapsed

/-!
# Texts that are filled

A text can have places for something to be written into. They are either percent signs with a letter
that says how the thing is written, or pairs of braces with the name of the thing between them. Here
the thing is always a context: what matters is whether the filled text has anything in it, and how
the filling fails.
-/

namespace HandlerChains
namespace Filling

def context : String := Context.kindName

def refuse {α : Type} (text : String) : Except Failure α := .error (.unworded .badValue text)

def complain {α : Type} (text : String) : Except Failure α := .error (.badCall text)

/-! ## Percent signs -/

/-- What may stand between a percent sign and the width of its place. -/
def isFlag (c : Char) : Bool := c ∈ ['-', '+', ' ', '#', '0']

/-- Digits at the start of a text as a number that stays below a limit, and what follows them. -/
def number (what : String) (limit : Nat) (cs : List Char) :
    Except Failure (Option Nat × List Char) :=
  match cs.takeWhile Char.isDigit with
  | [] => .ok (none, cs)
  | digits =>
    let n := digits.foldl (fun n c => 10 * n + (c.toNat - '0'.toNat)) 0
    if limit ≤ n then refuse (what ++ " too big") else .ok (some n, cs.dropWhile Char.isDigit)

/-- What asks for a further thing, which is to be a number. -/
def starred {α : Type} (used : Bool) : Except Failure α :=
  complain (if used then "not enough arguments for format string" else "* wants int")

def width (used : Bool) (cs : List Char) : Except Failure (Option Nat × List Char) :=
  match cs.dropWhile isFlag with
  | '*' :: _ => starred used
  | cs => number "width" (Nat.pow 2 63) cs

def precision (used : Bool) : List Char → Except Failure (Option Nat × List Char)
  | '.' :: '*' :: _ => starred used
  | '.' :: cs => do
    let (n, rest) ← number "precision" (Nat.pow 2 31) cs
    return (some (n.getD 0), rest)
  | cs => .ok (none, cs)

def dropSize : List Char → List Char
  | c :: rest => if c ∈ ['h', 'l', 'L'] then rest else c :: rest
  | [] => []

/-- A place after its percent sign: whether a long text leaves anything there, the letter, and what
follows it. -/
def place (used : Bool) (cs : List Char) : Except Failure (Bool × Char × List Char) := do
  if cs.head? = some '(' then complain "format requires a mapping"
  let (wide, cs) ← width used cs
  let (most, cs) ← precision used cs
  match dropSize cs with
  | [] => refuse "incomplete format"
  | c :: rest => return (most != some 0 || 0 < wide.getD 0, c, rest)

def unknownLetter {α : Type} (c : Char) (index : Nat) : Except Failure α :=
  let shown := if 31 ≤ c.toNat ∧ c.toNat ≤ 126 then c else '?'
  refuse ("unsupported format character '" ++ shown.toString ++ "' (0x" ++
    String.ofList (Nat.toDigits 16 c.toNat) ++ ") at index " ++ toString index)

def expectLetter (c : Char) (index : Nat) : Except Failure Unit :=
  if c ∈ ['s', 'r', 'a'] then .ok ()
  else if c ∈ ['d', 'i', 'u'] then
    complain ("%" ++ c.toString ++ " format: a real number is required, not " ++ context)
  else if c ∈ ['o', 'x', 'X'] then
    complain ("%" ++ c.toString ++ " format: an integer is required, not " ++ context)
  else if c ∈ ['e', 'E', 'f', 'F', 'g', 'G'] then
    complain ("must be real number, not " ++ context)
  else if c = 'c' then complain "%c requires int or char"
  else unknownLetter c index

/-- Whether the rest of a text of `total` characters leaves anything behind once its percent signs
are filled; `size` bounds its length, `used` says whether the context is written already, and
`written` whether anything is. -/
def percentFrom (total : Nat) :
    (size : Nat) → (used written : Bool) → List Char → Except Failure Bool
  | 0, used, written, _ | _, used, written, [] =>
    if used then .ok written else complain "not all arguments converted during string formatting"
  | size + 1, used, written, '%' :: cs =>
    if cs.head? = some '%' then percentFrom total size used true cs.tail
    else do
      let (leaves, c, rest) ← place used cs
      if used then complain "not enough arguments for format string"
      else
        expectLetter c (total - rest.length - 1)
        percentFrom total size true (written || leaves) rest
  | size + 1, used, _, _ :: cs => percentFrom total size used true cs

/-- Whether anything is left of a text when its percent signs are filled with a context. -/
def percent (s : String) : Except Failure Bool :=
  percentFrom s.length s.length false false s.toList

/-! ## Braces -/

/-- What stands between two braces: a name, a letter for how to write what it names, and more about
that, which may have braces of its own. -/
structure Field where
  name : List Char
  letter : Option Char := none
  spec : List Char := []

/-- The name at the start of a field, what ends it, and what follows; what is in brackets belongs to
it. -/
def nameOf : (size : Nat) → List Char → Except Failure (List Char × Option Char × List Char)
  | 0, _ | _, [] => .ok ([], none, [])
  | size + 1, c :: cs =>
    if c = '{' then refuse "unexpected '\x7b' in field name"
    else if c ∈ ['}', ':', '!'] then .ok ([], some c, cs)
    else do
      let inner := if c = '[' then cs.takeWhile (· != ']') else []
      let (name, stop, rest) ← nameOf size (cs.drop inner.length)
      return (c :: inner ++ name, stop, rest)

/-- What stands before the brace that closes a field, and what follows it. -/
def specOf : (depth : Nat) → List Char → Except Failure (List Char × List Char)
  | _, [] => refuse "unmatched '\x7b' in format spec"
  | depth, c :: cs =>
    if c = '}' ∧ depth = 0 then .ok ([], cs)
    else do
      let depth := if c = '{' then depth + 1 else if c = '}' then depth - 1 else depth
      let (spec, rest) ← specOf depth cs
      return (c :: spec, rest)

def field (cs : List Char) : Except Failure (Field × List Char) := do
  let (name, stop, rest) ← nameOf cs.length cs
  match stop, rest with
  | none, _ => refuse "expected '\x7d' before end of string"
  | some ':', rest => do
    let (spec, rest) ← specOf 0 rest
    return ({ name, spec }, rest)
  | some '!', [] => refuse "end of string while looking for conversion specifier"
  | some '!', [_] => refuse "unmatched '\x7b' in format spec"
  | some '!', letter :: '}' :: rest => return ({ name, letter := some letter }, rest)
  | some '!', letter :: ':' :: rest => do
    let (spec, rest) ← specOf 0 rest
    return ({ name, letter := some letter, spec }, rest)
  | some '!', _ => refuse "expected ':' after conversion specifier"
  | some _, rest => return ({ name }, rest)

/-- How the fields so far are numbered, if they are: by themselves, so many of them, or by hand. -/
inductive Numbering where
  | unknown
  | counted (next : Nat)
  | given

def digitValue (c : Char) : Nat :=
  if c.isDigit then c.toNat - '0'.toNat
  else ((Text.zeros.find? fun first => first ≤ c.toNat && c.toNat < first + 10).map
    (c.toNat - ·)).getD 0

/-- The number that a name is, if it is one. -/
def indexOf? (name : List Char) : Except Failure (Option Nat) :=
  if name.isEmpty || !name.all Text.isDecimal then .ok none
  else
    let n := name.foldl (fun n c => 10 * n + digitValue c) 0
    if Nat.pow 2 63 ≤ n then refuse "Too many decimal digits in format string" else .ok (some n)

/-- The number of a field, and the numbering after it. A name that is no number has none. -/
def Numbering.take (numbering : Numbering) (name : List Char) :
    Except Failure (Option Nat × Numbering) := do
  match ← indexOf? name, numbering with
  | some n, unknown | some n, given => return (some n, given)
  | some _, counted _ =>
    refuse "cannot switch from automatic field numbering to manual field specification"
  | none, numbering =>
    if !name.isEmpty then return (none, numbering)
    else match numbering with
      | unknown => return (some 0, counted 1)
      | counted next => return (some next, counted (next + 1))
      | given => refuse "cannot switch from manual field specification to automatic field numbering"

/-- Whether the context can be found under the name of a field. Where it is asked for names itself,
there are no numbers. -/
def expectThing (byName : Bool) (name : List Char) : Option Nat → Except Failure Unit
  | some n =>
    if byName then refuse "Format string contains positional fields"
    else if n = 0 then .ok ()
    else .error <| .unworded .missingIndex <|
      "Replacement index " ++ toString n ++ " out of range for positional args tuple"
  | none =>
    if byName then complain ("'" ++ context ++ "' object is not subscriptable")
    else .error (.unworded .missingKey (String.ofList name))

def isNameEnd (c : Char) : Bool := c == '.' || c == '['

/-- What follows the name of the context is asked of it. A field of it can always be written. -/
def expectPart : List Char → Except Failure Unit
  | [] => .ok ()
  | '[' :: rest =>
    if !rest.contains ']' then refuse "Missing ']' in format string"
    else if rest.head? = some ']' then refuse "Empty attribute in format string"
    else complain ("'" ++ context ++ "' object is not subscriptable")
  | _ :: rest =>
    let name := String.ofList (rest.takeWhile (!isNameEnd ·))
    if name = "" then refuse "Empty attribute in format string"
    else match Field.ofLabel name with
      | .other name =>
        if name ∈ Context.fixedNames then .ok ()
        else (fun _ => ()) <$> ({ } : Context).field? (.other name)
      | _ => .ok ()

/-- Whether what is found can be written in the way of a letter. -/
def expectConversion : Option Char → Except Failure Unit
  | none => .ok ()
  | some c =>
    if c ∈ ['r', 's', 'a'] then .ok ()
    else refuse <| "Unknown conversion specifier " ++
      if 32 < c.toNat ∧ c.toNat < 127 then c.toString
      else "\\x" ++ String.ofList (Nat.toDigits 16 c.toNat)

/-- A single brace, which has to be doubled where it is no field. -/
def single {α : Type} (brace : Char) : Except Failure α :=
  refuse ("Single '" ++ brace.toString ++ "' encountered in format string")

/-- Whether a text leaves anything behind once its fields are filled, and the numbering after it;
the flag says whether anything was left before it. Fields may have fields inside them, `depth` deep;
`size` bounds the length. -/
def bracesFrom (byName : Bool) : (depth size : Nat) → Numbering → Bool → List Char →
    Except Failure (Bool × Numbering)
  | 0, _, _, _, _ => refuse "Max string recursion exceeded"
  | _, 0, numbering, written, _ => .ok (written, numbering)
  | _, _, numbering, written, [] => .ok (written, numbering)
  | depth + 1, size + 1, numbering, _, c :: cs =>
    if c != '{' && c != '}' then bracesFrom byName (depth + 1) size numbering true cs
    else if cs.head? = some c then bracesFrom byName (depth + 1) size numbering true cs.tail
    else if c = '}' || cs.isEmpty then single c
    else do
      let (f, rest) ← field cs
      let name := f.name.takeWhile (!isNameEnd ·)
      let (index, numbering) ← numbering.take name
      expectThing byName name index
      expectPart (f.name.dropWhile (!isNameEnd ·))
      expectConversion f.letter
      let (special, numbering) ←
        if f.spec.contains '{' then bracesFrom byName depth size numbering false f.spec
        else pure (!f.spec.isEmpty, numbering)
      if special ∧ f.letter.isNone then
        complain ("unsupported format string passed to " ++ context ++ ".__format__")
      bracesFrom byName (depth + 1) size numbering true rest

/-- Whether anything is left of a text when its fields are filled with a context, or with what a
context has under their names. -/
def braces (byName : Bool) (s : String) : Except Failure Bool :=
  Prod.fst <$> bracesFrom byName 2 (s.length + 1) .unknown false s.toList

end Filling
end HandlerChains
