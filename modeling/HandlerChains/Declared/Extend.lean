import HandlerChains.Declared.Basic
import HandlerChains.Text.Name

/-!
# Extending classes

A class is made of its bases and its members. A list under `__slots__` names the places that its
routers have besides those of its bases; without such a list they have one for every attribute.
Bases can be combined if the places of each are among those of a single one, and if they agree on a
line.
-/

namespace HandlerChains

namespace RouterClass

/-- The name under which a class lists its places. -/
def listName : String := "__slots__"

/-- Names that members are declared under and that classes do not keep. -/
def titleName : String := "__qualname__"

def cellName : String := "__classcell__"

def moduleName : String := "__module__"

/-- The names under which a class keeps what it finds out about itself, whatever is declared there.
-/
def recordNames : List String := ["_abc_impl", "__abstractmethods__"]

def placeName : Value → Except Failure String
  | .text s =>
    if Text.isName s then .ok s else .error (.badCall (listName ++ " must be identifiers"))
  | v => .error (.badCall (listName ++ " items must be strings, not '" ++ v.kindName ++ "'"))

/-- The places that a class lists, if it has a list of them. A text is a single place. -/
def listedPlaces (members : Assoc ClassMember) : Except Failure (Option (List String)) := do
  match Assoc.get? members listName with
  | none => return none
  | some (.constant (.text s)) => return some [← placeName (.text s)]
  | some (.constant v) => return some (← (← Failure.itemsOf v).mapM placeName)
  | some _ => .error (.badCall "'function' object is not iterable")

/-- The name of a place inside a class: two leading underscores make it one of this class only. -/
def innerName (className place : String) : String :=
  let owner := Text.trimStart (· == '_') className
  if place.startsWith "__" ∧ ¬ place.endsWith "__" ∧ owner ≠ "" then "_" ++ owner ++ place
  else place

/-- The places that come with a class, unless it lists its own, and that are there only once. -/
def isGeneral (place : String) : Bool := Library.declaredNames.contains place

/-- Refuses a list that gives a general place twice or once more than its base does. -/
def expectOnce (base : RouterClass) (places : List String) : Except Failure Unit :=
  if Library.declaredNames.any fun place =>
      1 < places.count place ∨ place ∈ places ∧ base.hasPlace place then
    .error (.badCall "slot disallowed: we already got one")
  else .ok ()

/-- Whether a class has a member under the name of a place. What members are declared under and
classes do not keep is none. -/
def hasMember (members : Assoc ClassMember) (place : String) : Bool :=
  place == moduleName || place != titleName && place != cellName && Assoc.has members place

/-- The places of its own that a class adds to those of its base; a member cannot have the name of
one. -/
def addedPlaces (className : String) (members : Assoc ClassMember) (places : List String) :
    Except Failure (List String) :=
  let added := (places.filter (!isGeneral ·)).map (innerName className)
  if added.any (hasMember members) then
    .error (.unworded .badValue "a place conflicts with a member")
  else .ok added

/-- The base whose places a class takes over, if one has the places of all. -/
def widest? : List RouterClass → Option RouterClass
  | [] => none
  | c :: rest => rest.foldlM wider? c
where
  wider? (best c : RouterClass) : Option RouterClass :=
    if c.layout.isSuffixOf best.layout then some best
    else if best.layout.isSuffixOf c.layout then some c
    else none

def expectName (name : String) : Except Failure Unit :=
  if name.contains '\x00' then
    .error (.unworded .badValue "type name must not contain null characters")
  else .ok ()

def expectTitle (members : Assoc ClassMember) : Except Failure Unit := do
  match Assoc.get? members titleName with
  | none | some (.constant (.text _)) => .ok ()
  | some _ => .error (.badCall "the title of a class must be a text")
  if Assoc.has members cellName then .error (.badCall (cellName ++ " must be a cell"))

/-- The class of a name, with a serial number of its own, that has bases and members. -/
def extend (name : String) (serial : Nat) (bases : List RouterClass)
    (members : Assoc ClassMember) : Except Failure RouterClass := do
  let some base := widest? bases | .error (.badCall "the bases have places that conflict")
  let places ← listedPlaces members
  let listed := places.getD []
  expectOnce base listed
  let added ← addedPlaces name members listed
  expectName name
  expectTitle members
  let kept := Assoc.erase members titleName ++ added.map fun place => (place, .place)
  let members := recordNames.foldl Assoc.erase kept
  let body : ClassBody := { serial, members, places }
  let some line := lineOf body bases | .error (.badCall "the bases do not agree on an order")
  return { line, layout := if added.isEmpty then base.layout else serial :: base.layout }

end RouterClass
end HandlerChains
