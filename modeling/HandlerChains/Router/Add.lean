import HandlerChains.Router.Containment
import HandlerChains.Router.Name
import HandlerChains.Router.Register
import HandlerChains.World

/-!
# Adding handlers to the routers of a world

A handler that is a router, or leads to one, is refused where the router added to would end up
inside itself. All other registration is the router's own.
-/

namespace HandlerChains
namespace World

def contains (w : World) (r target : RouterRef) : Bool :=
  Containment.contains (fun s => (w.router s).children) w.routers.length r target

/-- Asks a router whether it contains another one. A method that its class has in the place of this
takes the other router for a context. -/
def reaches (w : World) (r target : RouterRef) : Except Failure Bool :=
  match Assoc.get? (w.router r).overrides "_reaches" with
  | none => .ok (w.contains r target)
  | some (.method _) => .error (w.router target).noContext
  | some o => .error ((w.router r).misuse "_reaches" (.alone "router") o)

def expectNoCycle (w : World) (self : RouterRef) (h : Handler) : Except Failure Unit :=
  match h.child? with
  | none => .ok ()
  | some child =>
    if child = self then .error .containsItself
    else do
      if ← w.reaches child self then
        .error (.mountCycle (w.router child).name (w.router self).name)

/-- The name that a handler has for itself, unless another one is given in its place. -/
def derivedName (w : World) (h : Handler) : Option String → Except Failure Value
  | some s => .ok (.text s)
  | none => h.defaultName w.router

/-- Registers a handler with a router. `derived` replaces the handler's own name for itself. -/
def register [Telling] (w : World) (self : RouterRef) (h : Handler) (error : Bool) (name : Value)
    (derived : Option String) (options : Assoc Value) : Except Failure Unit × World :=
  match w.expectNoCycle self h with
  | .error f => (.error f, w)
  | .ok () =>
    let (result, r) := (w.router self).register (Assoc.names w.pluginClasses) h error name
      (w.derivedName h derived) (h.reach w.router) options
    (result, w.setRouter self r)

end World
end HandlerChains
