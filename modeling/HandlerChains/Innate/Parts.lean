import HandlerChains.Innate.Values

/-!
# The natures of what modules consist of

What functions, modules, spaces, the names of actions and the kinds themselves have by themselves,
and what is found in them: their methods, and the parts of functions and modules.
-/

namespace HandlerChains
namespace Nature

open Reaction

def type : Nature where
  kind := "type"
  making := .answers true
  operators :=
    [(.bare, "__delattr__ __getattribute__ __init__ __repr__ __setattr__"),
      (.answers true, "__or__ __ror__"),
      (.passesOn, "__call__")]
  routines :=
    [(.bare, "__dir__ __sizeof__ __subclasses__ mro"),
      (.includes, "__instancecheck__"),
      (complains "issubclass() arg 1 must be a class", "__subclasscheck__")]
  shared := [(.answers false, "__prepare__")]
  getters :=
    [("str", "__doc__ __module__ __name__ __qualname__"),
      ("tuple", "__bases__"),
      ("mappingproxy", "__dict__"),
      ("NoneType", "__text_signature__")]
  places :=
    [("int", "__basicsize__ __dictoffset__ __flags__ __itemsize__ __weakrefoffset__"),
      ("tuple", "__mro__"),
      ("type", "__base__")]
  unsigned := "__prepare__"

def function : Nature where
  kind := "function"
  making := complains "function() missing required argument 'globals' (pos 2)"
  operators := [(.bare, "__repr__"), (.answers true, "__get__"), (.passesOn, "__call__")]
  getters :=
    [("code", "__code__"),
      ("NoneType", "__defaults__ __kwdefaults__"),
      ("dict", "__annotations__ __dict__"),
      ("str", "__name__ __qualname__")]
  places :=
    [("tuple", "__closure__"),
      ("NoneType", "__doc__"),
      ("dict", "__builtins__ __globals__"),
      ("str", "__module__")]
  signature := "str"
  undescribed := "__code__ __defaults__ __kwdefaults__"

def module : Nature where
  kind := "module"
  making := noText "module() argument 'name' "
  operators :=
    [(.bare, "__repr__"),
      (noName, "__delattr__ __getattribute__"),
      (twoExpected, "__setattr__"),
      (noText "module() argument 'name' ", "__init__")]
  routines := [(.bare, "__dir__")]
  places := [("dict", "__dict__")]
  constants := [("str", "__doc__")]
  own :=
    [("str", "__name__ __package__"),
      ("dict", "__annotations__"),
      ("NoneType", "__doc__"),
      ("ModuleSpec", "__spec__")]
  signature := "str"
  unsigned := "__dir__"

def named : Nature where
  kind := "Named"
  constructs := false
  making := .answers true
  functions :=
    [(.answers false, "__init__"),
      (.answers true, "__eq__"),
      (.alone, "__hash__ __repr__ __str__"),
      (noIterable, "__setstate__"),
      (complains "Named.__setattr__() missing 1 required positional argument: 'value'",
        "__setattr__"),
      (complains "super(type, obj): obj must be an instance or subtype of type", "__delattr__"),
      (complains "_dataclass_getstate() takes 1 positional argument but 2 were given",
        "__getstate__")]
  free :=
    [(.answers true, "__getstate__"),
      (lacks "name", "__hash__ __repr__ __str__"),
      (complains "Named.__init__() missing 1 required positional argument: 'name'", "__init__"),
      (complains "Named.__eq__() missing 1 required positional argument: 'other'", "__eq__"),
      (complains ("Named.__setattr__() missing 2 required positional arguments: " ++
          "'name' and 'value'"),
        "__setattr__"),
      (complains "Named.__delattr__() missing 1 required positional argument: 'name'",
        "__delattr__"),
      (complains "_dataclass_setstate() missing 1 required positional argument: 'state'",
        "__setstate__")]
  getters := [("NoneType", "__weakref__")]
  places := [("str", "name")]
  constants :=
    [("str", "__doc__ __module__"),
      ("dict", "__annotations__ __dataclass_fields__"),
      ("_DataclassParams", "__dataclass_params__"),
      ("tuple", "__match_args__ __slots__")]
  enclosed := "__delattr__ __init__ __repr__ __setattr__"

def space : Nature where
  kind := "SimpleNamespace"
  typeName := "types.SimpleNamespace"
  making := complains "no positional arguments expected"
  operators :=
    [(.bare, "__repr__"),
      (.answers true, comparisons),
      (noName, "__delattr__ __getattribute__"),
      (twoExpected, "__setattr__"),
      (complains "no positional arguments expected", "__init__")]
  routines := [(.bare, "__reduce__")]
  places := [("dict", "__dict__")]
  constants := [("str", "__doc__"), ("NoneType", "__hash__")]
  unsigned := "__reduce__"

def operator : Nature where
  kind := "method-wrapper"
  constructs := false
  operators :=
    [(.bare, "__hash__ __repr__"),
      (.answers true, comparisons),
      (.passesOn, "__call__"),
      (noName, "__getattribute__")]
  routines := [(.bare, "__reduce__")]
  getters := [("str", "__doc__ __name__ __qualname__ __text_signature__"), ("type", "__objclass__")]
  places := [("object", "__self__")]
  about := "getset_descriptor"
  unsigned := "__reduce__"
  undescribed := "__reduce__ __objclass__ __doc__"

def routine : Nature where
  kind := "builtin_function_or_method"
  constructs := false
  operators :=
    [(.bare, "__hash__ __repr__"),
      (.answers true, comparisons),
      (.passesOn, "__call__"),
      (noName, "__getattribute__")]
  routines := [(.bare, "__reduce__")]
  getters := [("str", "__doc__ __name__ __qualname__ __text_signature__"), ("object", "__self__")]
  places := [("NoneType", "__module__")]
  about := "getset_descriptor"
  unsigned := "__reduce__"
  undescribed := "__reduce__ __doc__ __self__"

def method : Nature where
  kind := "method"
  making := complains "method expected 2 arguments, got 1"
  operators :=
    [(.bare, "__hash__ __repr__"),
      (.answers true, comparisons),
      (.passesOn, "__call__"),
      (noName, "__delattr__ __getattribute__"),
      (twoExpected, "__setattr__")]
  routines := [(.bare, "__reduce__")]
  getters := [("NoneType", "__doc__")]
  places := [("function", "__func__"), ("object", "__self__")]
  signature := "str"
  undescribed := "__reduce__"
  described := "__func__ __self__"

/-- What operators have where a kind is asked for them. -/
def freeOperator : Nature where
  kind := "wrapper_descriptor"
  constructs := false
  operators :=
    [(.bare, "__repr__"),
      (.passesOn, "__call__"),
      (noName, "__getattribute__"),
      (.misfits, "__get__")]
  routines := [(.bare, "__reduce__")]
  getters := [("str", "__doc__ __qualname__ __text_signature__")]
  places := [("str", "__name__"), ("type", "__objclass__")]
  about := "getset_descriptor"
  unsigned := "__reduce__"
  undescribed := "__reduce__ __doc__"

/-- What routines have where a kind is asked for them. -/
def freeRoutine : Nature where
  kind := "method_descriptor"
  constructs := false
  operators :=
    [(.bare, "__repr__"),
      (.passesOn, "__call__"),
      (noName, "__getattribute__"),
      (.misfits, "__get__")]
  routines := [(.bare, "__reduce__")]
  getters := [("str", "__doc__ __qualname__ __text_signature__")]
  places := [("str", "__name__"), ("type", "__objclass__")]
  about := "getset_descriptor"
  unsigned := "__reduce__"
  undescribed := "__reduce__ __doc__"

/-- What that which is computed from a thing has where a kind is asked for it. -/
def getter : Nature where
  kind := "getset_descriptor"
  constructs := false
  operators :=
    [(.bare, "__repr__"),
      (noName, "__getattribute__"),
      (.misfits, "__delete__ __get__"),
      (twoExpected, "__set__")]
  getters := [("str", "__doc__ __qualname__")]
  places := [("str", "__name__"), ("type", "__objclass__")]
  about := "getset_descriptor"
  undescribed := "__doc__"

/-- What that which lies in a thing has where a kind is asked for it. -/
def place : Nature where
  kind := "member_descriptor"
  constructs := false
  operators :=
    [(.bare, "__repr__"),
      (noName, "__getattribute__"),
      (.misfits, "__delete__ __get__"),
      (twoExpected, "__set__")]
  routines := [(.bare, "__reduce__")]
  getters := [("NoneType", "__doc__"), ("str", "__qualname__")]
  places := [("str", "__name__"), ("type", "__objclass__")]
  about := "getset_descriptor"
  unsigned := "__reduce__"
  undescribed := "__reduce__ __doc__"

def property : Nature where
  kind := "property"
  making := .answers true
  operators :=
    [(noName, "__getattribute__"),
      (twoExpected, "__set__"),
      (.reads, "__get__"),
      (.answers false, "__init__"),
      (fails (.noAttribute ("property of '" ++ context ++ "' object has no deleter")), "__delete__")]
  routines :=
    [(.answers true, "deleter getter setter"),
      (complains "__set_name__() takes 2 positional arguments but 1 were given", "__set_name__")]
  getters := [("bool", "__isabstractmethod__")]
  places := [("str", "__doc__"), ("NoneType", "fdel fset")]
  signature := "str"
  unsigned := "__set_name__ deleter getter setter"
  undescribed := "__isabstractmethod__"

/-- What the table of all that a kind defines has. -/
def view : Nature where
  kind := "mappingproxy"
  making := complains ("mappingproxy() argument must be a mapping, not " ++ context)
  operators :=
    [(.bare, "__iter__ __len__ __repr__ __str__"),
      (.answers false, "__contains__ __eq__"),
      (.answers true, "__ne__"),
      (noName, "__getattribute__"),
      (noKey, "__getitem__"),
      (complains ("'<' not supported between instances of 'dict' and '" ++ context ++ "'"),
        "__lt__"),
      (complains ("'<=' not supported between instances of 'dict' and '" ++ context ++ "'"),
        "__le__"),
      (complains ("'>' not supported between instances of 'dict' and '" ++ context ++ "'"),
        "__gt__"),
      (complains ("'>=' not supported between instances of 'dict' and '" ++ context ++ "'"),
        "__ge__"),
      (complains ("unsupported operand type(s) for |: 'dict' and '" ++ context ++ "'"), "__or__"),
      (complains ("unsupported operand type(s) for |: '" ++ context ++ "' and 'dict'"), "__ror__"),
      (complains "'|=' is not supported by mappingproxy; use '|' instead", "__ior__")]
  routines := [(.bare, "__reversed__ copy items keys values"), (.answers false, "get")]
  shared := [(.answers true, "__class_getitem__")]
  constants := [("NoneType", "__doc__ __hash__")]
  about := "NoneType"
  unsigned := "__class_getitem__ __reversed__ copy get items keys values"

def code : Nature where
  kind := "code"
  making := complains "code expected at least 16 arguments, got 1"
  operators :=
    [(.bare, "__hash__ __repr__"),
      (.answers true, comparisons),
      (noName, "__getattribute__")]
  routines :=
    [(.bare, "__sizeof__ co_lines co_positions"),
      (noInteger, "_varname_from_oparg"),
      (complains "replace() takes no positional arguments", "replace")]
  getters :=
    [("bytes", "_co_code_adaptive co_code co_lnotab"),
      ("tuple", "co_cellvars co_freevars co_varnames")]
  places :=
    [("int",
        "co_argcount co_firstlineno co_flags co_kwonlyargcount co_nlocals co_posonlyargcount " ++
        "co_stacksize"),
      ("tuple", "co_consts co_names"),
      ("str", "co_filename co_name co_qualname"),
      ("bytes", "co_exceptiontable co_linetable")]
  constants := [("str", "__doc__")]
  signature := "str"
  unsigned := "__sizeof__ co_lines co_positions"
  undescribed :=
    "__sizeof__ co_lines co_positions _co_code_adaptive co_cellvars co_code " ++
    "co_freevars co_lnotab co_varnames"

/-- What the description has by which a module was found. -/
def spec : Nature where
  kind := "ModuleSpec"
  constructs := false
  making := complains "ModuleSpec.__init__() missing 1 required positional argument: 'loader'"
  functions :=
    [(.answers true, "__eq__"),
      (.alone, "__repr__"),
      (complains "ModuleSpec.__init__() missing 1 required positional argument: 'loader'",
        "__init__")]
  free :=
    [(lacks "name", "__repr__"),
      (lacks "submodule_search_locations", "parent"),
      (lacks "_cached", "cached"),
      (lacks "_set_fileattr", "has_location"),
      (complains ("ModuleSpec.__init__() missing 2 required positional arguments: " ++
          "'name' and 'loader'"),
        "__init__"),
      (complains "ModuleSpec.__eq__() missing 1 required positional argument: 'other'", "__eq__")]
  getters := [("dict", "__dict__"), ("NoneType", "__weakref__")]
  properties := [("NoneType", "cached"), ("str", "parent"), ("bool", "has_location")]
  constants := [("str", "__doc__ __module__"), ("NoneType", "__hash__")]
  own :=
    [("str", "name"),
      ("NoneType", "_cached loader_state origin submodule_search_locations"),
      ("bool", "_initializing _set_fileattr"),
      ("list", "_uninitialized_submodules")]
  lenient := "__init__"

/-- What making settings without naming them comes to. -/
def lacksTraits (count : Nat) (first : String) : Reaction :=
  complains ("_DataclassParams.__init__() missing " ++ toString count ++
    " required positional arguments: " ++ first ++
    "'repr', 'eq', 'order', 'unsafe_hash', and 'frozen'")

/-- What the settings have by which the kind of names was made. -/
def traits : Nature where
  kind := "_DataclassParams"
  constructs := false
  making := lacksTraits 5 ""
  functions :=
    [(.alone, "__repr__"),
      (lacksTraits 5 "", "__init__")]
  free :=
    [(lacks "init", "__repr__"),
      (lacksTraits 6 "'init', ", "__init__")]
  places := [("bool", "eq frozen init order repr unsafe_hash")]
  constants := [("str", "__module__"), ("tuple", "__slots__"), ("NoneType", "__doc__")]
  about := "NoneType"

end Nature
end HandlerChains
