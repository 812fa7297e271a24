import HandlerChains.Innate.Uptake

/-!
# Modules of actions

A name such as `site.pages.index` is looked up in the longest prefix of it that is a module; what is
left of the name are attributes. Loading a module loads what it lies in first; what it defines by
the name of a known function is the function of that name at that time. A module that fails is not
remembered, so it is loaded again when it is needed again. Only a module that is not there makes the
search go on with a shorter prefix: one that is there and fails ends it with its failure.
-/

namespace HandlerChains

/-- What loading a module does. -/
structure ModuleCode where
  items : Assoc ModuleItem
  failure : Option Failure

/-- `executed` lists the modules whose code was run, in order, and `kept` has what was put into the
keepers of the modules. -/
structure Modules where
  sources : Assoc ModuleCode := []
  loaded : Assoc (Assoc ModuleItem) := []
  kept : Assoc (List ContextRef) := []
  executed : List String := []

namespace ModuleItem

variable (functions : Assoc Target)

def ofTarget (place : String) : Target → ModuleItem
  | .plain (.list items) => keeper place (.list items)
  | .plain (.record fields) => keeper place (.record fields)
  | t => target t

mutual

/-- An item with known functions in the places of their names, given the place that it lies at. -/
def load (place : String) : ModuleItem → Except Failure ModuleItem
  | function id =>
    match Assoc.get? functions id with
    | some t => .ok (ofTarget place t)
    | none => .error (.unworded .missingKey id)
  | target t => .ok (ofTarget place t)
  | space items => do return space (← loadRows place items)
  | item => .ok item

def loadRows (place : String) :
    List (String × ModuleItem) → Except Failure (List (String × ModuleItem))
  | [] => .ok []
  | (name, item) :: rest => do
    return (name, ← load (place ++ "." ++ name) item) :: (← loadRows place rest)

end

/-- Puts an item into a module. What a module is and the table of its items cannot be replaced. -/
def put (module name : String) (item : ModuleItem) : Except Failure ModuleItem := do
  let item ← load functions (module ++ "." ++ name) item
  if name = "__class__" then .error (.badCall "__class__ must be set to a class")
  else if name = "__dict__" then .error (.noAttribute "readonly attribute")
  else return item

def putRows (module : String) :
    List (String × ModuleItem) → Except Failure (List (String × ModuleItem))
  | [] => .ok []
  | (name, item) :: rest => do
    return (name, ← put functions module name item) :: (← putRows module rest)

end ModuleItem

namespace Modules

abbrev Name := List String

variable (functions : Assoc Target)

def dotted (name : Name) : String := ".".intercalate name

/-- The names that a name lies in, outermost first, and the name itself. -/
def ancestry (name : Name) : List Name :=
  (List.range name.length).map fun i => name.take (i + 1)

/-- Runs the code of a module. If it succeeds, the module is remembered and becomes an attribute of
the one that it lies in. -/
def execute (m : Modules) (name : Name) (code : ModuleCode) : Except Failure Unit × Modules :=
  let m := { m with executed := m.executed ++ [dotted name] }
  match ModuleItem.putRows functions (dotted name) code.items, code.failure with
  | .error f, _ | .ok _, some f => (.error f, m)
  | .ok items, none =>
    let loaded := Assoc.put m.loaded (dotted name) items
    let parent := dotted name.dropLast
    (.ok (), { m with
      loaded := match Assoc.get? loaded parent with
        | some items =>
          Assoc.put loaded parent (Assoc.put items (name.getLastD "") (.module (dotted name)))
        | none => loaded })

/-- Uses what is kept at a place. There is no answer where nothing is kept to be used. -/
def useKept (m : Modules) (place : String) (others : Nat) (k : Keeping) (c : ContextRef) :
    Option Bool × Modules :=
  match k.take? others ((Assoc.get? m.kept place).getD []) c with
  | some (kept, answer) => (some answer, { m with kept := Assoc.put m.kept place kept })
  | none => (none, m)

def hasInside (m : Modules) (name : String) : Bool :=
  m.sources.any fun row => (Site.dropStart? (name ++ ".").toList row.1.toList).isSome

/-- What a loaded module has under a name: what was put into it, or what it is called and where it
lies. -/
def itemOf? (m : Modules) (module name : String) : Option ModuleItem :=
  (Assoc.get? ((Assoc.get? m.loaded module).getD []) name).or <|
    match name with
    | "__name__" => some (.target (.plain (.text module)))
    | "__package__" => some <| .target <| .plain <| .text <|
      if hasInside m module then module else dotted (Text.fields '.' module).dropLast
    | "__path__" => if hasInside m module then some (.thing Nature.list.kind) else none
    | _ => none

def put? (m : Modules) (name : String) : ModuleItem → Option ModuleItem
  | .space items => Assoc.get? items name
  | .module module => itemOf? m module name
  | _ => none

/-- What an item has under a name. A module may have something of its own to ask for what it does
not have, which has to be callable; no callable there gives anything. The names of actions have a
place that is none of theirs. -/
def attribute? (m : Modules) (item : ModuleItem) (name : String) :
    Except Failure (Option ModuleItem) :=
  match item.attribute? name (put? m name item), item with
  | _, .target (.named _) =>
    if name = "__weakref__" then .error (.strangePlace name Nature.named.kind)
    else .ok (item.attribute? name none)
  | some found, _ => .ok (some found)
  | none, .module module =>
    match itemOf? m module "__getattr__" with
    | some asked =>
      if (Uptake.ofItem? asked).isSome then .ok none
      else .error (.badCall "The module cannot be asked for what it does not have")
    | none => .ok none
  | none, _ => .ok none

/-- Why a module that is not there is not loaded. What it would lie in is asked where it is. -/
def absence (m : Modules) (name : Name) : Failure :=
  match attribute? m (.module (dotted name.dropLast)) "__path__" with
  | .error f => f
  | .ok _ => .brokenModule "No module of this name" (some (dotted name))

/-- Loads one module whose surroundings are loaded. -/
def load (m : Modules) (name : Name) : Except Failure Unit × Modules :=
  if Assoc.has m.loaded (dotted name) then (.ok (), m)
  else match Assoc.get? m.sources (dotted name) with
    | some code => execute functions m name code
    | none => (.error (absence m name), m)

def loadEach (m : Modules) : List Name → Except Failure Unit × Modules
  | [] => (.ok (), m)
  | name :: rest =>
    match load functions m name with
    | (.ok (), m) => loadEach m rest
    | failed => failed

def refusal (name : Name) : Failure :=
  if name.length = 1 then .unworded .badValue "Empty module name"
  else .badCall ("the 'package' argument is required to perform a relative import for " ++
    Text.quoted (dotted name))

/-- Loads a module and all that it lies in. A name that starts with a dot is none. -/
def require (m : Modules) (name : Name) : Except Failure Unit × Modules :=
  if name.head? = some "" then (.error (refusal name), m)
  else loadEach functions m (ancestry name)

/-- Whether a failure says that a module of this name, or one that it lies in, is not there. -/
def isMissing (name : Name) : Failure → Bool
  | .brokenModule _ (some missing) =>
    dotted name == missing ||
      (Site.dropStart? (missing ++ ".").toList (dotted name).toList).isSome
  | _ => false

/-- The item reached by attribute after attribute. -/
def follow (m : Modules) : ModuleItem → List String → Except Failure (Option ModuleItem)
  | item, [] => .ok (some item)
  | item, name :: rest => do
    match ← attribute? m item name with
    | some found => follow m found rest
    | none => return none

/-- What can be called at attributes of a loaded module. -/
def resolvedAt (m : Modules) (name : Name) (attributes : List String) :
    Except Failure Resolved := do
  match (← follow m (.module (dotted name)) attributes).bind Resolved.ofItem? with
  | some r => return r
  | none => .error (.unknownAction (.text (dotted (name ++ attributes))))

/-- What a name resolves to, with modules of at most `size` parts. -/
def findWithin (name : Name) : (size : Nat) → Modules → Except Failure Resolved × Modules
  | 0, m => (.error (.unknownAction (.text (dotted name))), m)
  | size + 1, m =>
    let module := name.take (size + 1)
    match require functions m module with
    | (.ok (), m) => (resolvedAt m module (name.drop (size + 1)), m)
    | (.error f, m) => if isMissing module f then findWithin name size m else (.error f, m)

/-- What a dotted name resolves to. -/
def find (m : Modules) (text : String) : Except Failure Resolved × Modules :=
  let name := Text.fields '.' text
  findWithin functions name (name.length - 1) m

end Modules
end HandlerChains
