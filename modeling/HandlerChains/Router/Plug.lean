import HandlerChains.Router.Register

/-!
# Attaching plugins

A plugin is attached by the name under which its class is registered. It is configured first, then
fitted to every entry that is there, and only then do calls go through it. Where a step fails, what
was done before it stays done.
-/

namespace HandlerChains
namespace Router

def withEntries (r : Router) (entries : List Entry) : Router :=
  { r with
    handlers := entries.take r.handlers.length
    errorHandlers := entries.drop r.handlers.length }

/-- Fits a plugin to one entry after another, until one of them is refused. Those that are `done`
come before them in the router. -/
def fitEach [Telling] (r : Router) (p : Plugin) :
    (done left : List Entry) → PluginStore → Except Failure Unit × PluginStore × List Entry
  | _, [], store => (.ok (), store, [])
  | done, e :: left, store =>
    match ((r.withEntries (done ++ e :: left)).fit p).run ⟨store, e⟩ with
    | (.ok (), s) =>
      let (result, store, fitted) := fitEach r p (done ++ [s.entry]) left s.store
      (result, store, s.entry :: fitted)
    | (.error f, s) => (.error f, s.store, s.entry :: left)

/-- Sends the calls of all entries through the plugins that are attached now. -/
def layer (r : Router) : Router :=
  r.withEntries (r.entries.map fun e => { e with layers := r.plugins })

/-- Fails where the class of a router has its own way to send calls through plugins. -/
def expectRebuilding (r : Router) : Except Failure Unit := do
  r.expect "_rebuild_handlers" .bare
  if r.entries.isEmpty then return () else r.expectLayers (.ok ())

/-- Fits an attached plugin to all entries, and sends their calls through it. -/
def fitEntries [Telling] (r : Router) (p : Plugin) : Except Failure Unit × Router :=
  match r.expect "_all_entries" .bare with
  | .error f => (.error f, r)
  | .ok () =>
    match r.fitEach p [] r.entries r.store with
    | (.error f, store, entries) => (.error f, { r with store }.withEntries entries)
    | (.ok (), store, entries) =>
      let r := { r with store }.withEntries entries
      match r.expectRebuilding with
      | .error f => (.error f, r)
      | .ok () => (.ok (), r.layer)

/-- Attaches a plugin that is configured already. -/
def attach [Telling] (r : Router) (p : Plugin) : Except Failure Unit × Router :=
  { r with plugins := r.plugins ++ [p] }.fitEntries p

def pluginClass (r : Router) (registry : Assoc PluginClass) : Value → Except Failure PluginClass
  | .text name =>
    match Assoc.get? registry name with
    | none => .error (.unknownPlugin name ((Assoc.names registry).mergeSort (· ≤ ·)))
    | some c => if (r.plugin? name).isSome then .error (.alreadyAttached name) else .ok c
  | v => .error (.pluginNotText v)

/-- The names that are no options of a plugin but arguments of the call. -/
def callArguments : List String := ["self", "plugin"]

/-- A logger is an argument of a plugin that logs, and an option for any other. One that was made
for the call comes before one among the options. -/
def takeLogger (c : PluginClass) (config : Assoc Value) (logger : Option Logger) :
    Plugin × Assoc Value :=
  match c.hook, logger with
  | .log, some logger => (⟨c, logger⟩, Assoc.erase config "logger")
  | .log, none =>
    (⟨c, .ofValue ((Assoc.get? config "logger").getD .null)⟩, Assoc.erase config "logger")
  | _, some _ => (⟨c, .standard⟩, Assoc.put config "logger" .null)
  | _, none => (⟨c, .standard⟩, config)

/-- Attaches a plugin by name. -/
def plug [Telling] (r : Router) (registry : Assoc PluginClass) (plugin : Value)
    (config : Assoc Value) (logger : Option Logger) : Except Failure Unit × Router :=
  if callArguments.any (Assoc.has config) then
    (.error (.badCall "multiple values for an argument"), r)
  else match r.pluginClass registry plugin with
    | .error f => (.error f, r)
    | .ok c =>
      if Assoc.has config "router" then (.error (.badCall "multiple values for an argument"), r)
      else
        let (p, config) := takeLogger c config logger
        let r := { r with store := r.store.openBucket p.name }
        match p.configure r.store config with
        | .error f => (.error f, r)
        | .ok store => { r with store }.attach p

end Router
end HandlerChains
