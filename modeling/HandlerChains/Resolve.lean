import HandlerChains.Exec

/-!
# Resolving actions

A named action is looked up when it is due, in the name space and with the resolver of the context.
What is found has to be callable.
-/

namespace HandlerChains
namespace Exec

def findInModules (name : String) : Exec Resolved := do
  let result ← settle fun w =>
    let (result, m) := w.modules.find w.functions name
    let w := { w with modules := { m with executed := [] } }
    (.ok result, m.executed.foldl (fun w module => w.record (.executed module)) w)
  lift result

def findIn (resolver : Resolver) (name : String) : Exec Resolved := do
  match resolver with
  | .plain v => fail (.notCallable v)
  | .modules => findInModules name
  | .registry r => .ofCallable <$> lift (((← get).registry r).resolve (.text name))
  | .table rows =>
    match Assoc.get? rows name with
    | some (.callable f) => return .ofCallable f
    | _ => fail (.unknownAction (.text name))

def resolve (c : ContextRef) : Action → Exec Resolved
  | .callable f => return .ofCallable f
  | .named name => do
    let ctx ← context c
    findIn ctx.resolver (← lift (fullName ctx.nameSpace name))

end Exec
end HandlerChains
