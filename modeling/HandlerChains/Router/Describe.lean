import HandlerChains.Router.Name

/-!
# The tree of a router

A router describes itself by its entries, each by what its handler is, its metadata, and what the
attached plugins hold about it. Routers inside are described in place. It fails where a class has
something of its own in the place of a step.
-/

namespace HandlerChains
namespace Describe

def texts (items : List String) : Value := .list (items.map .text)

def ofPattern (p : Pattern) : Assoc Value :=
  [("pattern", .text p.source), ("parameters", texts p.names)]

def ofAction (a : Action) : Assoc Value := [("action", .text a.label)]

/-- What a plugin adds to the description of an entry: how often it was called. -/
def pluginMetadata (r : Router) (p : Plugin) (e : Entry) : Except Failure (Assoc Value) :=
  match p.pluginClass.hook with
  | .count => do
    r.expect "get_runtime_data" (.several 4)
    r.expect "_get_plugin_bucket" (.alone "str")
    let calls := (r.store.data? p.name e.key (.text "calls")).getD (.int 0)
    return if calls.isTruthy then [("calls", calls)] else []
  | _ => .ok []

def ofPlugin (r : Router) (e : Entry) (p : Plugin) : Except Failure (Assoc Value) := do
  let config := r.store.configuration p.name e.key
  let metadata ← pluginMetadata r p e
  return (if config.isEmpty then [] else [("config", .record config)]) ++
    (if metadata.isEmpty then [] else [("metadata", .record metadata)])

def ofPlugins (r : Router) (e : Entry) : Except Failure (Assoc Value) := do
  r.expect "_describe_entry_extra" (.several 2)
  let rows ← r.plugins.mapM fun p => do return (p.name, ← ofPlugin r e p)
  return Assoc.merge [] (rows.filterMap fun (name, fields) =>
    if fields.isEmpty then none else some (name, .record fields))

variable (routers : RouterRef → Router)

/-- A handler, with `nodes` to describe the routers inside it. -/
def ofHandler (nodes : RouterRef → Except Failure Value) (h : Handler) :
    Except Failure (Assoc Value) := do
  let fields ← match h with
    | .callback a | .always a | .badMethod a | .conditional _ a => pure (ofAction a)
    | .route p a => pure (ofPattern p ++ ofAction a)
    | .endpoint method p a => pure (ofPattern p ++ ofAction a ++ [("method", .text method)])
    | .setNamespace nameSpace => pure [("namespace", .text nameSpace)]
    | .mount p child => pure (ofPattern p ++ [("router", ← nodes child)])
    | .configure base => pure [("base_path", .ofOption base)]
    | .router r => do
      (routers r).expect "describe" .bare
      (routers r).reach "kind"
      pure [("router", ← nodes r)]
    | .custom .. => pure []
  return ("kind", ← h.kind routers) :: fields

def ofEntry (nodes : RouterRef → Except Failure Value) (r : Router) (e : Entry) :
    Except Failure Value := do
  r.expect "_entry_node_info" (.alone "HandlerEntry")
  let fields ← ofHandler routers nodes e.handler
  let plugins ← ofPlugins r e
  return .record (("name", e.name) :: fields ++ ("metadata", .record e.metadata) ::
    (if plugins.isEmpty then [] else [("plugins", .record plugins)]))

/-- A router and at most `depth - 1` levels inside it. -/
def nodes : (depth : Nat) → RouterRef → Except Failure Value
  | 0, _ => .ok .null
  | depth + 1, ref => do
    let r := routers ref
    r.expect "nodes" .bare
    let handlers ← r.handlers.mapM (ofEntry routers (nodes depth) r)
    let errorHandlers ← r.errorHandlers.mapM (ofEntry routers (nodes depth) r)
    return .record [("name", r.name), ("description", r.description),
      ("handlers", .list handlers), ("error_handlers", .list errorHandlers)]

end Describe
end HandlerChains
