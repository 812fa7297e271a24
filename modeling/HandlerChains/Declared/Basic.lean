import HandlerChains.Declared.Library
import HandlerChains.Declared.Linearization
import HandlerChains.Declared.Mark
import HandlerChains.Router.Basic

/-!
# Classes of routers

A class is declared with its bases and its members. The methods that its routers register are found
by walking its line from the far end: a name takes its place when it first is that of a marked
method, a later marked method replaces the one before it there, and any later function without marks
takes the name off. Declaring a class anew leaves the classes that were made of the old one alone.
-/

namespace HandlerChains

/-- A method of a class, with its marks in the order in which they were made. -/
structure Method where
  callable : Callable
  markers : List Marker

/-- A `place` is one that a class lists for its routers; `function` and `field` are what the
library's own classes have. -/
inductive ClassMember where
  | method (m : Method)
  | constant (v : Value)
  | setup (rs : List Registration)
  | place
  | function
  | field

/-- What a member of a declared class puts in the place of what routers have under its name. -/
def ClassMember.override? : ClassMember → Option Override
  | method m => some (.method m.callable)
  | constant v => some (.constant v)
  | setup rs => some (.setup rs)
  | place => some .empty
  | function | field => none

/-- What one class declares. Classes are told apart by their serial numbers. `places` are those
that it lists, if it has a list of them. -/
structure ClassBody where
  serial : Nat
  members : Assoc ClassMember := []
  places : Option (List String) := some []

/-- A class is its line: its own body, and then those of all that it inherits from. The `layout` are
those in the line that brought the places of its routers, one on top of the other. -/
structure RouterClass where
  line : List ClassBody
  layout : List Nat

namespace RouterClass

def serials (c : RouterClass) : List Nat := c.line.map ClassBody.serial

def body? (classes : List RouterClass) (serial : Nat) : Option ClassBody :=
  (classes.flatMap RouterClass.line).find? fun b => b.serial == serial

/-- The line of a class from its body and its bases, if these agree on an order. -/
def lineOf (body : ClassBody) (bases : List RouterClass) : Option (List ClassBody) := do
  let serials ← Linearization.ofBases body.serial (bases.filterMap fun c => c.serials.head?)
    (bases.map serials)
  return body :: serials.tail.filterMap (body? bases)

/-- Whether routers of a class have one of the places that come with every class without a list. -/
def hasPlace (c : RouterClass) (place : String) : Bool :=
  c.line.any fun b => b.places.all (List.contains · place)

def ownMembers (functions fields : List String) : Assoc ClassMember :=
  functions.map (fun name => (name, .function)) ++ fields.map fun name => (name, .field)

/-- The class of routers without plugins. It stands at the far end of every line, where what it has
hides nothing. -/
def plain : RouterClass := { line := [{ serial := 0 }], layout := [0] }

def pluggable : RouterClass where
  layout := [1, 0]
  line := { serial := 1
            members := ownMembers Library.pluggableFunctions
              (Library.pluggableFields ++ Library.fieldNames) } :: plain.line

def application : RouterClass where
  layout := [2, 1, 0]
  line := { serial := 2
            members := ownMembers Library.applicationFunctions Library.applicationFields } ::
    pluggable.line

def builtin : Assoc RouterClass :=
  [("BaseRouter", plain), ("Router", pluggable), ("Application", application)]

def firstDeclared : Nat := 3

/-- What routers of a class can do. -/
def tier (c : RouterClass) : Tier :=
  if 2 ∈ c.serials then .application else if 1 ∈ c.serials then .pluggable else .plain

/-- The names under which a function becomes one of the class and not of its routers. -/
def classLevelNames : List String := ["__new__", "__init_subclass__", "__class_getitem__"]

/-- One member on the walk along the line. What is no function of routers is passed over. -/
def markStep (marked : Assoc Method) : String × ClassMember → Assoc Method
  | (_, .constant _) | (_, .place) | (_, .field) => marked
  | (name, .setup _) | (name, .function) => Assoc.erase marked name
  | (name, .method m) =>
    if name ∈ classLevelNames then marked
    else if m.markers.isEmpty then Assoc.erase marked name
    else Assoc.put marked name m

/-- The marked methods of a class in the order of registration. -/
def markedMethods (c : RouterClass) : Assoc Method :=
  (c.line.reverse.flatMap ClassBody.members).foldl markStep []

/-- All members of a class, each that of the nearest class which has one. -/
def members (c : RouterClass) : Assoc ClassMember :=
  c.line.reverse.foldl (fun t b => Assoc.merge t b.members) []

/-- What a class puts in the place of what routers have by themselves. -/
def overrides (c : RouterClass) : Overrides :=
  c.members.filterMap fun (name, m) => m.override?.map fun o => (name, o)

/-- The names of what every router of a class has. -/
def attributes (c : RouterClass) : List String :=
  Library.declaredNames.filter c.hasPlace ++ match c.tier with
    | .plain => Library.plainNames
    | .pluggable => Library.pluggableNames
    | .application => Library.applicationNames

def fields (c : RouterClass) : List String :=
  match c.tier with
  | .plain => Library.fieldNames
  | .pluggable => Library.pluginFields ++ Library.fieldNames
  | .application => Library.applicationFields ++ Library.pluginFields ++ Library.fieldNames

/-- Whether a field is out of reach: its class has something else under the name, and its routers
have no place for any attribute. -/
def isBlocked (c : RouterClass) (field : String) : Bool :=
  !c.hasPlace "__dict__" && (match Assoc.get? c.overrides field with
    | none | some .empty => false
    | some _ => true)

end RouterClass
end HandlerChains
