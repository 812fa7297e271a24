import HandlerChains.Trace

/-!
# Names of handlers

The word for the kind of a handler, and the name that a handler gets where it is registered without
one. Both look at the routers for a handler that is one; a class of routers can have a member of its
own in the place of the name.
-/

namespace HandlerChains
namespace Handler

variable (routers : RouterRef → Router)

def kind : Handler → Except Failure Value
  | callback _ => .ok (.text "callback")
  | always _ => .ok (.text "always")
  | badMethod _ => .ok (.text "bad_method")
  | conditional .. => .ok (.text "conditional")
  | route .. => .ok (.text "route")
  | endpoint .. => .ok (.text "endpoint")
  | setNamespace _ => .ok (.text "set_namespace")
  | mount .. => .ok (.text "mount")
  | configure _ => .ok (.text "configure")
  | router r => (routers r).kind
  | custom kind _ => .ok kind

def defaultName : Handler → Except Failure Value
  | callback a | always a | badMethod a | conditional _ a => .ok (.text a.label)
  | route p _ => .ok (.text p.source)
  | endpoint method p _ => .ok (.text (method ++ " " ++ p.source))
  | setNamespace nameSpace => .ok (.text ("namespace " ++ nameSpace))
  | mount p _ => .ok (.text ("mount " ++ p.source))
  | configure _ => .ok (.text "configure")
  | router r => do
    (routers r).expect "default_name" .bare
    (routers r).defaultName
  | custom kind _ => .ok kind

def reach : Handler → Except Failure Unit
  | router r => (routers r).reach "handle"
  | _ => .ok ()

end Handler

def Entry.row (routers : RouterRef → Router) (e : Entry) : Except Failure EntryRow :=
  return { name := e.name, kind := ← e.handler.kind routers, error := e.error, plugins := e.plugins
           metadata := e.metadata }

end HandlerChains
