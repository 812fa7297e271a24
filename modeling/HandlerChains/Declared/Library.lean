/-!
# What routers have by themselves

The names of everything that routers of each tier have, apart from what declared classes add. A name
among them is no name of a plugin, and a function among them takes the marks off a declared method
of its name wherever its class comes nearer.
-/

namespace HandlerChains
namespace Library

def objectNames : List String :=
  ["__class__", "__delattr__", "__dir__", "__doc__", "__eq__", "__format__", "__ge__",
    "__getattribute__", "__getstate__", "__gt__", "__hash__", "__init__", "__init_subclass__",
    "__le__", "__lt__", "__module__", "__ne__", "__new__", "__reduce__", "__reduce_ex__",
    "__repr__", "__setattr__", "__sizeof__", "__str__", "__subclasshook__"]

def handlerNames : List String :=
  ["__abstractmethods__", "__annotations__", "__slots__", "_abc_impl", "kind", "handle",
    "default_name", "describe"]

def fieldNames : List String := ["name", "description", "_handlers", "_error_handlers", "_lock"]

def routerNames : List String :=
  ["initialize", "_register_builtin_handlers", "handler", "error_handler", "_register", "_reaches",
    "_add", "callback", "condition", "set_namespace", "route", "endpoint", "get", "post", "put",
    "patch", "delete", "mount", "bad_method", "not_found", "error", "_register_marked",
    "_iter_marked_methods", "run", "_recover", "dispatch", "handlers", "error_handlers", "entries",
    "nodes", "_entry_node_info", "_split_options", "_wrap_handler", "_after_entry_registered",
    "_describe_entry_extra"]

/-- The functions of routers with plugins. -/
def pluggableFunctions : List String :=
  ["__init__", "plug", "iter_plugins", "get_config", "__getattr__", "_get_plugin_bucket",
    "set_plugin_enabled", "is_plugin_enabled", "set_runtime_data", "get_runtime_data",
    "_all_entries", "_rebuild_handlers", "_split_options", "_wrap_handler", "_create_wrapper",
    "_apply_plugin", "_after_entry_registered", "_describe_entry_extra"]

def pluginFields : List String :=
  ["_plugin_specs", "_plugins", "_plugins_by_name", "_plugin_info"]

def pluggableFields : List String := ["register_plugin", "available_plugins"] ++ pluginFields

def applicationFunctions : List String := ["__init__", "_register_builtin_handlers", "respond"]

def applicationFields : List String := ["base_path"]

/-- What routers of declared classes have besides the members of their classes, unless these say
otherwise. -/
def declaredNames : List String := ["__dict__", "__weakref__"]

def plainNames : List String := objectNames ++ handlerNames ++ fieldNames ++ routerNames

def pluggableNames : List String := pluggableFunctions ++ pluggableFields ++ plainNames

def applicationNames : List String := applicationFunctions ++ applicationFields ++ pluggableNames

end Library
end HandlerChains
