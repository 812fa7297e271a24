import HandlerChains.Options.Check
import HandlerChains.Script

/-!
# Plugin classes

A plugin class is its name, the code under which it registers itself, the options that it accepts,
and what it does around a handler call. `catalogue` lists the classes that can be registered, and
`registered` is the registry that a world starts with.
-/

namespace HandlerChains

/-- What a plugin does when a handler is registered and when it is called. -/
inductive Hook where
  | idle | count | trace | gate | refuse | log
  deriving DecidableEq, Repr

/-- `options` is `none` for a class that accepts no options. -/
structure PluginClass where
  className : String
  code : String := ""
  description : String := ""
  hook : Hook := .idle
  options : Option Options.Rules := none
  deriving DecidableEq, Repr

namespace PluginClass

def logging : PluginClass where
  className := "LoggingPlugin"
  code := "logging"
  description := "Logs handler outcomes with timing"
  hook := .log
  options := some [("enabled", .flag), ("before", .flag), ("after", .flag), ("log", .flag),
    ("print", .flag)]

def counting : PluginClass where
  className := "CountingPlugin"
  code := "counting"
  description := "Counts handler calls"
  hook := .count
  options := some [("enabled", .flag), ("limit", .whole), ("tag", .text)]

/-- The classes that trace calls differ in their codes only. -/
def tracing (className code : String) : PluginClass where
  className
  code
  description := "Traces handler calls"
  hook := .trace

def gate : PluginClass where
  className := "GatePlugin"
  code := "gate"
  description := "Forces results"
  hook := .gate
  options := some [("enabled", .flag), ("force", .text)]

def picky : PluginClass where
  className := "PickyPlugin"
  code := "picky"
  description := "Refuses some handlers"
  hook := .refuse

def impostor : PluginClass where
  className := "ImpostorPlugin"
  code := "counting"
  description := "Not the counting plugin"

def trace : PluginClass := tracing "TracePlugin" "trace"

def outer : PluginClass := tracing "OuterPlugin" "outer"

def outerTrace : PluginClass := tracing "OuterTracePlugin" "outer_trace"

def catalogue : List PluginClass :=
  [logging, counting, trace, outer, outerTrace, tracing "SparePlugin" "spare", gate, picky,
    impostor, { className := "NoCodePlugin" }, { className := "BasePlugin" }]

def find? (className : String) : Option PluginClass :=
  catalogue.find? fun c => c.className == className

def registered : Assoc PluginClass :=
  [logging, counting, trace, outer, outerTrace, gate, picky].map fun c => (c.code, c)

end PluginClass

/-- An attached plugin. -/
structure Plugin where
  pluginClass : PluginClass
  logger : Logger := .standard
  deriving DecidableEq, Repr

/-- A plugin is addressed by the code of its class. -/
def Plugin.name (p : Plugin) : String := p.pluginClass.code

end HandlerChains
