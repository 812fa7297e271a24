import HandlerChains.Text.Blank

/-!
# Whole numbers in texts

A text of a whole number is cleaned before it is read: blanks at its ends, a plus sign, zeros in
front and a fraction of zeros do not count, and single underscores may stand between digits. Among
the zeros in front underscores may stand as they like, and a minus sign may follow them. What is
left has to be a number in plain digits, of which there may not be too many.
-/

namespace HandlerChains
namespace Options

/-- What a number starts with if no zero stands in front. -/
def isLead (c : Char) : Bool := c == '-' || (c.isDigit && c != '0')

/-- What follows zeros and underscores of which `last` is the last one. It belongs to what follows
where nothing or a fraction does. -/
def behindZeros? (last : Char) : List Char → Option (List Char)
  | [] => some [last]
  | c :: rest =>
    if c = '0' ∨ c = '_' then behindZeros? c rest
    else if isLead c then some (c :: rest)
    else if c = '.' then some (last :: c :: rest)
    else none

def dropZeros? : List Char → Option (List Char)
  | [] => none
  | c :: rest =>
    if c = '0' then behindZeros? c rest
    else if isLead c then some (c :: rest)
    else none

/-- A number without a plus sign. No minus sign may follow it. -/
def dropPlus? : List Char → Option (List Char)
  | '+' :: '-' :: _ => none
  | '+' :: rest => some rest
  | cs => some cs

def dropFraction (cs : List Char) : List Char :=
  match cs.dropWhile (· != '.') with
  | _ :: digit :: digits =>
    if (digit :: digits).all (· == '0') then cs.takeWhile (· != '.') else cs
  | _ => cs

def hasDoubleUnderscore : List Char → Bool
  | '_' :: '_' :: _ => true
  | _ :: rest => hasDoubleUnderscore rest
  | [] => false

/-- A number without underscores, if these stand one by one inside it. -/
def dropUnderscores (cs : List Char) : List Char :=
  if cs.head? = some '_' ∨ cs.getLast? = some '_' ∨ hasDoubleUnderscore cs then cs
  else cs.filter (· != '_')

def cleaned? (cs : List Char) : Option (List Char) :=
  (dropZeros? cs).map fun cs => dropUnderscores (dropFraction cs)

def unsigned : List Char → List Char
  | '-' :: rest => rest
  | cs => cs

def longestWhole : Nat := 4300

/-- Digits that are not too many, without a zero in front of others. -/
def isPlainWhole : List Char → Bool
  | [] => false
  | ['0'] => true
  | c :: rest => c != '0' && (c :: rest).all Char.isDigit && (c :: rest).length ≤ longestWhole

/-- Whether a text can be read as a whole number. A minus sign may stand before the zeros in front
or after them, but not in both places. -/
def isWhole (s : String) : Bool :=
  match Text.trimBoth Text.isWhiteSpace s.toList with
  | '-' :: digits => (cleaned? digits).any isPlainWhole
  | cs => ((dropPlus? cs).bind cleaned?).any fun cs => isPlainWhole (unsigned cs)

/-- Whether a text starts, just as it is, with a whole number of too many digits. -/
def startsTooLong (s : String) : Bool :=
  let digits := (unsigned s.toList).takeWhile Char.isDigit
  digits.head? != some '0' && longestWhole < digits.length

end Options
end HandlerChains
