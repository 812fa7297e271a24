import HandlerChains.Router.Basic
import HandlerChains.Options.Split
import HandlerChains.Plugin.Configure
import HandlerChains.Value.Succ

/-!
# Registering handlers

A registration names the handler, splits its options, lets every attached plugin fit the new entry,
and puts the entry at the end of its chain. Names are unique over both chains of a router. What a
plugin wrote to the store before another one refused the handler stays written.
-/

namespace HandlerChains

/-- The first of `base`, `base#2`, `base#3`, ... that is not taken, when counting from `n`. One of
the first `fuel` numbers is free if `fuel` is above the number of taken names. -/
def numberedName (base : String) (taken : List Key) : (fuel n : Nat) → String
  | 0, n => base ++ "#" ++ toString n
  | fuel + 1, n =>
    let name := base ++ "#" ++ toString n
    if .text name ∈ taken then numberedName base taken fuel (n + 1) else name

def uniqueName (base : Value) (taken : List Key) : Value :=
  if base.key ∈ taken then .text (numberedName base.shown taken taken.length 2) else base

/-- An entry that is being fitted with plugins, and the store of its router. -/
structure Fit where
  store : PluginStore
  entry : Entry

abbrev Fitting := ExceptT Failure (StateM Fit)

namespace Fitting

variable {α β : Type}

def lift : Except Failure α → Fitting α
  | .ok a => pure a
  | .error f => throw f

theorem run_bind (x : Fitting α) (f : α → Fitting β) (s : Fit) :
    (x >>= f).run s =
      match x.run s with
      | (.ok a, s') => (f a).run s'
      | (.error g, s') => (.error g, s') := by
  change ExceptT.bindCont f (x.run s).1 (x.run s).2 = _
  rcases x.run s with ⟨g | a, s'⟩ <;> rfl

@[simp] theorem run_lift (x : Except Failure α) (s : Fit) : (lift x).run s = (x, s) := by
  cases x <;> rfl

@[simp] theorem run_get (s : Fit) : (get : Fitting Fit).run s = (.ok s, s) := rfl

@[simp] theorem run_set (t s : Fit) : (set t : Fitting Unit).run s = (.ok (), t) := rfl

@[simp] theorem run_modify (f : Fit → Fit) (s : Fit) :
    (modify f : Fitting Unit).run s = (.ok (), f s) := rfl

end Fitting

namespace Plugin

/-- The options for a plugin among the metadata of an entry. What users put there themselves is
taken for what it is. -/
def optionsIn (metadata : Assoc Value) (plugin : String) : Except Failure (Assoc Value) :=
  match Assoc.get? metadata "plugin_config" with
  | none => .ok []
  | some (.record fields) =>
    match Assoc.get? fields plugin with
    | none => .ok []
    | some (.record options) => .ok options
    | some v => if v.isTruthy then .error (.badCall "options are named") else .ok []
  | some v => .error (.lacks v "get")

/-- What a plugin of the catalogue makes of the metadata of an entry that was registered. -/
def onRegister (p : Plugin) (e : Entry) : Except Failure (Assoc Value) :=
  match p.pluginClass.hook with
  | .count =>
    let counted := (Assoc.get? e.metadata "counted").getD (.int 0)
    match counted.succ? with
    | some v => .ok (Assoc.put e.metadata "counted" v)
    | none => .error (.notCountable counted)
  | .refuse =>
    match e.name with
    | .text name =>
      if name.startsWith "bad" then .error (.raised .boom ("picky refuses " ++ name))
      else .ok e.metadata
    | v => .error (.lacks v "startswith")
  | .idle | .trace | .gate | .log => .ok e.metadata

end Plugin

/-- What plugins do when they are told of an entry (`on_register`). That is up to them: they see the
router as it stands, and can change its store and the entry, or fail. -/
class Telling where
  tell (p : Plugin) (r : Router) : Fitting Unit

/-- The plugins of the catalogue make at most a note in the metadata. -/
instance : Telling where
  tell p _ := do
    let s ← get
    let metadata ← Fitting.lift (p.onRegister s.entry)
    set { s with entry := { s.entry with metadata } }

namespace Plugin

/-- Tells a plugin of an entry, which keeps that the plugin was told. -/
def notify [Telling] (p : Plugin) (r : Router) : Fitting Unit := do
  let s ← get
  Telling.tell p { r with store := s.store }
  modify fun s => { s with entry := { s.entry with told := s.entry.told ++ [p] } }

/-- Fits one plugin to an entry: lists it, writes the entry's options for it, and tells it. -/
def fit [Telling] (p : Plugin) (r : Router) : Fitting Unit := do
  modify fun s =>
    if p.name ∈ s.entry.plugins then s
    else { s with entry := { s.entry with plugins := s.entry.plugins ++ [p.name] } }
  let s ← get
  let options ← Fitting.lift (optionsIn s.entry.metadata p.name)
  if !options.isEmpty then
    let store ← Fitting.lift (p.configureHandler s.store s.entry.name options)
    set { s with store }
  p.notify r

end Plugin

namespace Router

/-- The name of a new entry: the given one if it is free, or else one derived from the handler. -/
def entryName (r : Router) (given : Value) (derived : Except Failure Value) :
    Except Failure Value := do
  if given.isTruthy then
    let key ← Failure.keyOf given
    if key ∈ r.keys then .error (.handlerNameTaken given) else return given
  else
    let base ← derived
    let _ ← Failure.keyOf base
    return uniqueName base r.keys

/-- The metadata of a new entry. A router without plugins keeps all options as they are. -/
def entryMetadata (r : Router) (codes : List String) (options : Assoc Value) : Assoc Value :=
  match r.tier with
  | .plain => options
  | .pluggable | .application =>
    let metadata := Options.metadata codes options
    let taken := Options.forPlugins codes options
    if taken.isEmpty then metadata else Assoc.put metadata "plugin_config" (.record taken)

/-- Fits a plugin of a router to an entry. -/
def fit [Telling] (r : Router) (p : Plugin) : Fitting Unit := do
  Fitting.lift (r.expect "_apply_plugin" (.several 2))
  p.fit r

/-- Fails where the class of a router has its own way to put layers around calls, or where there is
nothing to put them around. -/
def expectLayers (r : Router) (found : Except Failure Unit) : Except Failure Unit := do
  r.reach "_wrap_handler"
  found
  r.expect "_wrap_handler" (.several 2)
  if r.plugins.isEmpty then return () else r.expect "_create_wrapper" (.several 4)

/-- Fits all plugins of a router to an entry, whose handler has to be found then. -/
def fitAll [Telling] (r : Router) (found : Except Failure Unit) : Fitting Unit := do
  Fitting.lift (r.expect "_after_entry_registered" (.alone "HandlerEntry"))
  r.plugins.forM r.fit
  Fitting.lift (r.expectLayers found)

/-- Adds an entry after its plugins were fitted. -/
def addEntry [Telling] (r : Router) (e : Entry) (found : Except Failure Unit) :
    Except Failure Unit × Router :=
  match (r.fitAll found).run ⟨r.store, e⟩ with
  | (.ok _, s) => (.ok (), { r with store := s.store }.append { s.entry with layers := r.plugins })
  | (.error f, s) => (.error f, { r with store := s.store })

/-- The entry for a handler, before plugins are fitted to it. -/
def newEntry (r : Router) (codes : List String) (h : Handler) (error : Bool) (name : Value)
    (derived : Except Failure Value) (options : Assoc Value) : Except Failure Entry := do
  r.expect "_split_options" (.alone "dict")
  let name ← r.entryName name derived
  return { name, handler := h, error, metadata := r.entryMetadata codes options }

/-- Registers a handler that is no router containing this one. `derived` and `found` are what asking
the handler for its own name and for what it does comes to. -/
def register [Telling] (r : Router) (codes : List String) (h : Handler) (error : Bool)
    (name : Value) (derived : Except Failure Value) (found : Except Failure Unit)
    (options : Assoc Value) : Except Failure Unit × Router :=
  match r.newEntry codes h error name derived options with
  | .error f => (.error f, r)
  | .ok e => r.addEntry e found

end Router
end HandlerChains
