import HandlerChains.Cells
import HandlerChains.Declared.Basic
import HandlerChains.Resolve.Modules
import HandlerChains.Resolve.Registry
import HandlerChains.Trace

/-!
# Worlds

All that commands build and change: contexts, routers and registries in numbered cells, the names
that were given to them, the classes, modules and plugins, and the report of what happened.
-/

namespace HandlerChains

structure World where
  contexts : Cells Context := []
  routers : Cells Router := []
  registries : Cells Registry := []
  contextNames : Assoc ContextRef := []
  routerNames : Assoc RouterRef := []
  registryNames : Assoc Nat := []
  functions : Assoc Target := []
  handlers : Assoc HandlerArgument := []
  classes : Assoc RouterClass := RouterClass.builtin
  pluginClasses : Assoc PluginClass := PluginClass.registered
  modules : Modules := {}
  nextSerial : Nat := RouterClass.firstDeclared
  events : List Event := []
  log : List LogLine := []

namespace World

def context (w : World) (c : ContextRef) : Context := Cells.read w.contexts c

def router (w : World) (r : RouterRef) : Router := Cells.read w.routers r

def registry (w : World) (r : Nat) : Registry := Cells.read w.registries r

def setContext (w : World) (c : ContextRef) (ctx : Context) : World :=
  { w with contexts := Cells.write w.contexts c ctx }

def putFailure (w : World) (c : ContextRef) (f : Option Failure) : World :=
  w.setContext c { w.context c with failure := f }

def setRouter (w : World) (r : RouterRef) (router : Router) : World :=
  { w with routers := Cells.write w.routers r router }

def setRegistry (w : World) (r : Nat) (t : Registry) : World :=
  { w with registries := Cells.write w.registries r t }

def record (w : World) (e : Event) : World := { w with events := w.events ++ [e] }

def logLine (w : World) (l : LogLine) : World := { w with log := w.log ++ [l] }

variable (w : World)

@[simp] theorem context_setContext_self (c : ContextRef) (ctx : Context) :
    (w.setContext c ctx).context c = ctx := by simp [context, setContext]

@[simp] theorem setContext_setContext (c : ContextRef) (ctx ctx' : Context) :
    (w.setContext c ctx).setContext c ctx' = w.setContext c ctx' := by simp [setContext]

@[simp] theorem context_putFailure_self (c : ContextRef) (f : Option Failure) :
    (w.putFailure c f).context c = { w.context c with failure := f } :=
  w.context_setContext_self c _

@[simp] theorem router_putFailure (c : ContextRef) (f : Option Failure) (r : RouterRef) :
    (w.putFailure c f).router r = w.router r := rfl

@[simp] theorem router_setContext (c : ContextRef) (ctx : Context) (r : RouterRef) :
    (w.setContext c ctx).router r = w.router r := rfl

@[simp] theorem router_setRouter_self (r : RouterRef) (router : Router) :
    (w.setRouter r router).router r = router := by simp [World.router, setRouter]

theorem router_setRouter_of_ne {r s : RouterRef} (router : Router) (ne : s ≠ r) :
    (w.setRouter r router).router s = w.router s :=
  Cells.read_write_of_ne w.routers router ne

@[simp] theorem context_setRouter (r : RouterRef) (router : Router) (c : ContextRef) :
    (w.setRouter r router).context c = w.context c := rfl

@[simp] theorem context_record (e : Event) (c : ContextRef) :
    (w.record e).context c = w.context c := rfl

@[simp] theorem router_record (e : Event) (r : RouterRef) :
    (w.record e).router r = w.router r := rfl

@[simp] theorem context_logLine (l : LogLine) (c : ContextRef) :
    (w.logLine l).context c = w.context c := rfl

@[simp] theorem router_logLine (l : LogLine) (r : RouterRef) :
    (w.logLine l).router r = w.router r := rfl

end World
end HandlerChains
