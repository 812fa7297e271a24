import HandlerChains.Failure
import HandlerChains.Options.Check
import HandlerChains.Site.BasePath
import HandlerChains.Site.Url

/-!
# Site configuration

Where an application is published: scheme, host and path, and any further settings. A base URL among
the settings is split, and each part that it has replaces the setting of that name.
-/

namespace HandlerChains

/-- Where an application is published. Besides scheme, host and path, `settings` has what was
assigned under private names; the further settings are `extra`, and `privates` has what is looked up
for private settings. One that is sealed no longer keeps track of what was assigned, so nothing that
is checked can be assigned to it. -/
structure SiteConfig where
  settings : Assoc Value
  extra : Value := .record []
  privates : Value := .null
  isSealed : Bool := false

namespace SiteConfig

/-- The URL that a setting gives. Null, false and zero give the empty one. -/
def urlOf : Value → Except Failure String
  | .text s => .ok s
  | .list _ | .record _ => .error (.badCall "unhashable type")
  | v => if v.isTruthy then .error (.lacks v "decode") else .ok ""

/-- The settings with a base URL replaced by its parts. -/
def expandUrl (settings : Assoc Value) : Except Failure (Assoc Value) :=
  match Assoc.get? settings "base_url" with
  | none => .ok settings
  | some v => do
    let url ← urlOf v
    match Site.splitUrl url with
    | .error reason => .error (.invalid [⟨none, .badUrl reason⟩])
    | .ok parts =>
      let given := [("scheme", parts.scheme), ("host", parts.host), ("path", parts.path)]
      .ok (Assoc.merge (Assoc.erase settings "base_url")
        ((given.filter (·.2 ≠ "")).map fun (name, s) => (name, Value.text s)))

def rules : Options.Rules := [("scheme", .text), ("host", .text), ("path", .text)]

def defaults : Assoc Value :=
  [("scheme", .text "http"), ("host", .text "localhost"), ("path", .text "")]

/-- The settings with a place of their own among all settings. -/
def ownSettings (settings : Assoc Value) : Assoc Value :=
  settings.filter fun (name, _) => Assoc.has rules name

/-- The further settings among all settings. -/
def furtherSettings (settings : Assoc Value) : Assoc Value :=
  settings.filter fun (name, _) => !Assoc.has rules name

/-- The refusals among settings; settings without a rule are kept as they are. -/
def refusals (settings : Assoc Value) : List Options.Refusal :=
  Options.Rules.check rules (ownSettings settings)

def ofSettings (settings : Assoc Value) : Except Failure SiteConfig := do
  let settings ← expandUrl settings
  let refused := refusals settings
  if refused.isEmpty then
    return { settings := Assoc.merge defaults (ownSettings settings)
             extra := .record (Assoc.merge [] (furtherSettings settings)) }
  else .error (.invalid refused)

def ofValue : Value → Except Failure SiteConfig
  | .record fields => ofSettings fields
  | _ => .error (.invalid [⟨none, .notRecord⟩])

/-- A configuration from a URL and further settings, among which no second URL may stand. -/
def ofUrl (url : Value) (settings : Assoc Value) : Except Failure SiteConfig :=
  if ["cls", "url", "base_url"].any (Assoc.has settings) then
    .error (.badCall "got multiple values for an argument")
  else ofSettings (("base_url", url) :: settings)

def computedNames : List String := ["base_url", "base_path", "model_extra", "model_fields_set"]

/-- The private names of what every configuration has and nothing can be put in the place of. -/
def fixedNames : List String := ["__fields__", "__fields_set__", "__weakref__"]

/-- The private names of what a configuration is assigned to and looked up with. What is put under
one of them takes its place. -/
def setterTableName : String := "__pydantic_setattr_handlers__"

def setterName : String := "_setattr_handler"

def checkerName : String := "__pydantic_validator__"

def privateTableName : String := "__private_attributes__"

def reach (c : SiteConfig) (method : String) : Except Failure Unit :=
  match Assoc.get? c.settings method with
  | some v => .error (.notCallable v)
  | none => .ok ()

def expectSetter (c : SiteConfig) (name : String) : Except Failure Unit := do
  match Assoc.get? c.settings setterTableName with
  | none => .ok ()
  | some (.record setters) =>
    match Assoc.get? setters name with
    | none | some .null => .ok ()
    | some v => .error (.notCallable v)
  | some v => .error (.lacks v "get")
  c.reach setterName

def expectChecker (c : SiteConfig) : Except Failure Unit :=
  match Assoc.get? c.settings checkerName with
  | some v => .error (.lacks v "validate_assignment")
  | none => .ok ()

/-- The further settings that are kept when something is assigned: those of a record. -/
def extraFields (c : SiteConfig) : Assoc Value :=
  match c.extra with
  | .record fields => fields
  | _ => []

/-- Assigns what is private: it is kept among the settings, unless it is what a configuration is
made of. -/
def assignPrivate (c : SiteConfig) (name : String) (v : Value) : Except Failure SiteConfig :=
  if name ∈ fixedNames then .error (.noAttribute (name ++ " cannot be set"))
  else match name, v with
    | "__class__", _ =>
      .error (.badCall ("__class__ must be set to a class, not '" ++ v.kindName ++ "' object"))
    | "__dict__", .record settings => .ok { c with settings }
    | "__dict__", _ =>
      .error (.badCall ("__dict__ must be set to a dictionary, not a '" ++ v.kindName ++ "'"))
    | "__pydantic_extra__", extra => .ok { c with extra }
    | "__pydantic_fields_set__", _ => .ok { c with isSealed := true }
    | "__pydantic_private__", privates => .ok { c with privates }
    | _, _ => .ok { c with settings := Assoc.put c.settings name v }

/-- Assigns what is checked. All settings without a place of their own become further ones. -/
def assignChecked (c : SiteConfig) (name : String) (v : Value) : Except Failure SiteConfig := do
  c.expectChecker
  let refused := refusals [(name, v)]
  if !refused.isEmpty then .error (.invalid refused)
  else if c.isSealed then .error (.badCall "the names of what was assigned are no set")
  else
    let settings := Assoc.put (Assoc.merge c.settings c.extraFields) name v
    return { c with settings := ownSettings settings, extra := .record (furtherSettings settings) }

/-- Assigns one setting. What is computed from the others cannot be assigned, and what starts with
an underscore is private. -/
def assign (c : SiteConfig) (name : String) (v : Value) : Except Failure SiteConfig := do
  c.expectSetter name
  if name ∈ computedNames then .error (.noAttribute "property has no setter")
  else if name.startsWith "_" then c.assignPrivate name v
  else c.assignChecked name v

def private? (c : SiteConfig) (name : String) : Except Failure (Option Value) := do
  match Assoc.get? c.settings privateTableName with
  | none => return none
  | some listed =>
    if !(← hasMember listed (.text name)) then return none
    else match listed, c.privates with
      | .record _, .record fields =>
        match Assoc.get? fields name with
        | some v => return some v
        | none => .error (.lacking "SiteConfig" name)
      | _, _ => .error (.badCall "the private settings have no names")

def further (c : SiteConfig) (name : String) : Except Failure Value :=
  match c.extra with
  | .record fields =>
    match Assoc.get? fields name with
    | some v => .ok v
    | none => .error (.lacking "SiteConfig" name)
  | extra =>
    if extra.isTruthy then .error (.badCall "the further settings have no names")
    else .error (.lacking "SiteConfig" name)

/-- What a configuration has under a name that is none of its settings: a private setting, or else a
further one. -/
def beyond (c : SiteConfig) (name : String) : Except Failure Value := do
  match ← c.private? name with
  | some v => return v
  | none => c.further name

def get (c : SiteConfig) (name : String) : Except Failure Value :=
  match Assoc.get? c.settings name with
  | some v => .ok v
  | none => c.beyond name

/-- The base path: that of the path, or what goes by that name where the path gives none. -/
def basePath (c : SiteConfig) : Except Failure String :=
  match c.get "path" >>= Site.basePathOf with
  | .ok base => .ok base
  | .error f =>
    if f.kind = .badAttribute then do
      match ← c.beyond "base_path" with
      | .text base => return base
      | v => .error (.badCall ("the base path is of the kind " ++ v.kindName))
    else .error f

def urlOfPath (c : SiteConfig) (path : String) : Except Failure String :=
  return (← c.get "scheme").shown ++ "://" ++ (← c.get "host").shown ++ path

def baseUrl (c : SiteConfig) : Except Failure String := do c.urlOfPath (← c.basePath)

def routeOf : Value → Except Failure String
  | .text s => .ok s
  | v => .error (.badCall ("can only concatenate str (not \"" ++ v.kindName ++ "\") to str"))

def makePath (c : SiteConfig) (route : Value) : Except Failure String := do
  c.reach "make_path"
  return (← c.basePath) ++ (← routeOf route)

/-- With an empty path and an empty route the URL has no slash at its end. -/
def makeUrl (c : SiteConfig) (route : Value) : Except Failure String := do
  c.reach "make_url"
  match route with
  | .text "" =>
    match ← c.get "path" with
    | .text "" => c.urlOfPath ""
    | _ => c.urlOfPath (← c.makePath route)
  | _ => c.urlOfPath (← c.makePath route)

def removePath (c : SiteConfig) (path : Value) : Except Failure (Option String) := do
  c.reach "remove_path"
  let base ← c.basePath
  return Site.routeBelow? base (← Failure.textOf "startswith" path)

end SiteConfig
end HandlerChains
