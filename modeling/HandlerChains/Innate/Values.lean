import HandlerChains.Innate.Nature

/-!
# The natures of values

What texts, numbers, lists and the like have by themselves, and what every thing has.
-/

namespace HandlerChains
namespace Nature

open Reaction

def object : Nature where
  kind := "object"
  making := complains "object() takes no arguments"
  operators :=
    [(.bare, "__hash__ __repr__ __str__"),
      (.answers true, comparisons),
      (noName, "__delattr__ __getattribute__"),
      (twoExpected, "__setattr__"),
      (.answers false, "__init__")]
  routines :=
    [(.bare, "__dir__ __getstate__ __reduce__ __sizeof__"),
      (noInteger, "__reduce_ex__"),
      (noText "__format__() argument ", "__format__")]
  shared := [(.bare, "__init_subclass__"), (.answers true, "__subclasshook__")]
  free :=
    [(.answers true, "__dir__ __getstate__ __hash__ __repr__ __sizeof__ __str__"),
      (.answers false, "__init__"),
      (complains "expected 1 argument, got 0", "__delattr__ __getattribute__ " ++ comparisons),
      (complains " expected 2 arguments, got 0", "__setattr__"),
      (complains "object.__reduce_ex__() takes exactly one argument (0 given)", "__reduce_ex__"),
      (complains "a class that defines __slots__ without defining __getstate__ cannot be pickled",
        "__reduce__"),
      (complains "object.__format__() takes exactly one argument (0 given)", "__format__")]
  constants := [("str", "__doc__")]
  signature := "str"
  unsigned := "__init_subclass__ __subclasshook__"

def text : Nature where
  kind := "str"
  making := .answers true
  operators :=
    [(.bare, "__hash__ __iter__ __len__ __repr__ __str__"),
      (.answers true, "__rmod__ " ++ comparisons),
      (noName, "__getattribute__"),
      (noInteger, "__mul__ __rmul__"),
      (.fillsPercent, "__mod__"),
      (complains ("string indices must be integers, not '" ++ context ++ "'"), "__getitem__"),
      (complains ("can only concatenate str (not \"" ++ context ++ "\") to str"), "__add__"),
      (complains ("'in <string>' requires string as left operand, not " ++ context),
        "__contains__")]
  routines :=
    [(.bare,
        "__getnewargs__ __sizeof__ capitalize casefold isalnum isalpha isascii isdecimal " ++
        "isdigit isidentifier islower isnumeric isprintable isspace istitle isupper lower " ++
        "swapcase title upper"),
      (noText "encode() argument 'encoding' ", "encode"),
      (noInteger, "center expandtabs ljust rjust splitlines zfill"),
      (noText "", "count find index partition rfind rindex rpartition"),
      (noText "removeprefix() argument ", "removeprefix"),
      (noText "removesuffix() argument ", "removesuffix"),
      (.fillsBraces false, "format"),
      (.fillsBraces true, "format_map"),
      (noText "__format__() argument ", "__format__"),
      (complains "replace expected at least 2 arguments, got 1", "replace"),
      (complains ("must be str or None, not " ++ context), "rsplit split"),
      (complains "can only join an iterable", "join"),
      (complains "lstrip arg must be None or str", "lstrip"),
      (complains "rstrip arg must be None or str", "rstrip"),
      (complains "strip arg must be None or str", "strip"),
      (.maps, "translate"),
      (complains ("startswith first arg must be str or a tuple of str, not " ++ context),
        "startswith"),
      (complains ("endswith first arg must be str or a tuple of str, not " ++ context),
        "endswith")]
  shared :=
    [(complains "if you give only one argument to maketrans it must be a dict", "maketrans")]
  constants := [("str", "__doc__")]
  unsigned :=
    "__getnewargs__ count endswith find format format_map index rfind rindex " ++
    "startswith"
  undescribed := "__getnewargs__"

def int : Nature where
  kind := "int"
  making := complains ("int() argument must be a string, a bytes-like object or a real number, " ++
    "not '" ++ context ++ "'")
  operators :=
    [(.bare,
        "__abs__ __bool__ __float__ __hash__ __index__ __int__ __invert__ __neg__ __pos__ " ++
        "__repr__"),
      (.answers true,
        "__add__ __and__ __divmod__ __floordiv__ __lshift__ __mod__ __mul__ __or__ __pow__ " ++
        "__radd__ __rand__ __rdivmod__ __rfloordiv__ __rlshift__ __rmod__ __rmul__ __ror__ " ++
        "__rpow__ __rrshift__ __rshift__ __rsub__ __rtruediv__ __rxor__ __sub__ __truediv__ " ++
        "__xor__ " ++
        comparisons),
      (noName, "__getattribute__")]
  routines :=
    [(.bare,
        "__ceil__ __floor__ __getnewargs__ __sizeof__ __trunc__ as_integer_ratio bit_count " ++
        "bit_length conjugate"),
      (noInteger, "__round__ to_bytes"),
      (noText "__format__() argument ", "__format__")]
  shared := [(complains ("cannot convert '" ++ context ++ "' object to bytes"), "from_bytes")]
  getters := [("int", "denominator imag numerator real")]
  constants := [("str", "__doc__")]
  unsigned := "__ceil__ __floor__ __trunc__ conjugate"
  undescribed := "__format__ __getnewargs__"

def bool : Nature where
  kind := "bool"
  base := "int"
  making := .answers true
  operators :=
    [(.bare, "__repr__"),
      (.answers true, "__and__ __or__ __rand__ __ror__ __rxor__ __xor__")]
  constants := [("str", "__doc__")]

def decimal : Nature where
  kind := "float"
  making := complains ("float() argument must be a string or a real number, " ++
    "not '" ++ context ++ "'")
  operators :=
    [(.bare, "__abs__ __bool__ __float__ __hash__ __int__ __neg__ __pos__ __repr__"),
      (.answers true,
        "__add__ __divmod__ __floordiv__ __mod__ __mul__ __pow__ __radd__ __rdivmod__ " ++
        "__rfloordiv__ __rmod__ __rmul__ __rpow__ __rsub__ __rtruediv__ __sub__ __truediv__ " ++
        comparisons),
      (noName, "__getattribute__")]
  routines :=
    [(.bare,
        "__ceil__ __floor__ __getnewargs__ __trunc__ as_integer_ratio conjugate hex " ++
        "is_integer"),
      (noInteger, "__round__"),
      (noText "__format__() argument ", "__format__")]
  shared :=
    [(noText "__getformat__() argument ", "__getformat__"),
      (complains "bad argument type for built-in operation", "fromhex")]
  getters := [("float", "imag real")]
  constants := [("str", "__doc__")]
  signature := "str"
  undescribed := "__getnewargs__"

def null : Nature where
  kind := "NoneType"
  making := complains "NoneType takes no arguments"
  operators := [(.bare, "__bool__ __repr__")]
  constants := [("NoneType", "__doc__")]
  about := "NoneType"

def list : Nature where
  kind := "list"
  making := noIterable
  operators :=
    [(.bare, "__iter__ __len__ __repr__"),
      (.answers true, comparisons),
      (.answers false, "__contains__"),
      (noName, "__getattribute__"),
      (noIterable, "__iadd__ __init__"),
      (twoExpected, "__setitem__"),
      (noInteger, "__imul__ __mul__ __rmul__"),
      (complains ("list indices must be integers or slices, not " ++ context), "__delitem__"),
      (complains ("can only concatenate list (not \"" ++ context ++ "\") to list"), "__add__")]
  routines :=
    [(.bare, "__reversed__ __sizeof__ clear copy reverse"),
      (.answers false, "append count"),
      (noIterable, "extend"),
      (noInteger, "pop"),
      (noItem "list.remove(x): x not in list", "remove"),
      (noItem "the context is not in list", "index"),
      (complains ("list indices must be integers or slices, not " ++ context), "__getitem__"),
      (complains "insert expected 2 arguments, got 1", "insert"),
      (complains "sort() takes no positional arguments", "sort")]
  shared := [(.answers true, "__class_getitem__")]
  constants := [("NoneType", "__hash__"), ("str", "__doc__")]
  keeping :=
    [(.add, "append"), (.has, "__contains__ count"), (.find, "index"), (.drop, "remove")]
  signature := "str"
  unsigned := "__class_getitem__ __getitem__"

def record : Nature where
  kind := "dict"
  making := noIterable
  operators :=
    [(.bare, "__iter__ __len__ __repr__"),
      (.answers true, "__or__ __ror__ " ++ comparisons),
      (noName, "__getattribute__"),
      (noIterable, "__init__ __ior__"),
      (twoExpected, "__setitem__"),
      (noKey, "__delitem__")]
  routines :=
    [(.bare, "__reversed__ __sizeof__ clear copy items keys popitem values"),
      (.answers false, "__contains__ get setdefault"),
      (noKey, "__getitem__ pop"),
      (noIterable, "update")]
  shared := [(.answers true, "__class_getitem__"), (noIterable, "fromkeys")]
  constants := [("NoneType", "__hash__"), ("str", "__doc__")]
  keeping :=
    [(.addOnce, "setdefault"),
      (.has, "__contains__"),
      (.drop, "__delitem__ pop"),
      (.read, "__getitem__")]
  unsigned := "__class_getitem__ __getitem__ __sizeof__ clear copy items keys update values"

def tuple : Nature where
  kind := "tuple"
  making := noIterable
  operators :=
    [(.bare, "__hash__ __iter__ __len__ __repr__"),
      (.answers true, comparisons),
      (.answers false, "__contains__"),
      (noName, "__getattribute__"),
      (noInteger, "__mul__ __rmul__"),
      (complains ("tuple indices must be integers or slices, not " ++ context), "__getitem__"),
      (complains ("can only concatenate tuple (not \"" ++ context ++ "\") to tuple"), "__add__")]
  routines :=
    [(.bare, "__getnewargs__"),
      (.answers false, "count"),
      (noItem "tuple.index(x): x not in tuple", "index")]
  shared := [(.answers true, "__class_getitem__")]
  constants := [("str", "__doc__")]
  signature := "str"
  unsigned := "__class_getitem__"
  undescribed := "__getnewargs__"

def bytes : Nature where
  kind := "bytes"
  making := complains ("cannot convert '" ++ context ++ "' object to bytes")
  operators :=
    [(.bare, "__hash__ __iter__ __len__ __repr__ __str__"),
      (.answers true, "__rmod__ " ++ comparisons),
      (noName, "__getattribute__"),
      (noInteger, "__mul__ __rmul__"),
      (noBytes, "__contains__"),
      (complains "not all arguments converted during bytes formatting", "__mod__"),
      (complains ("byte indices must be integers or slices, not " ++ context), "__getitem__"),
      (complains ("can't concat " ++ context ++ " to bytes"), "__add__")]
  routines :=
    [(.bare,
        "__bytes__ __getnewargs__ capitalize isalnum isalpha isascii isdigit islower isspace " ++
        "istitle isupper lower swapcase title upper"),
      (noInteger, "center expandtabs ljust rjust splitlines zfill"),
      (noByte, "count find index rfind rindex"),
      (noText "decode() argument 'encoding' ", "decode"),
      (noBytes,
        "lstrip partition removeprefix removesuffix rpartition rsplit rstrip split strip " ++
        "translate"),
      (complains ("endswith first arg must be bytes or a tuple of bytes, not " ++ context),
        "endswith"),
      (complains ("object of type '" ++ context ++ "' has no len()"), "hex"),
      (complains "can only join an iterable", "join"),
      (complains "replace expected at least 2 arguments, got 1", "replace"),
      (complains ("startswith first arg must be bytes or a tuple of bytes, not " ++ context),
        "startswith")]
  shared :=
    [(noText "fromhex() argument ", "fromhex"),
      (complains "maketrans expected 2 arguments, got 1", "maketrans")]
  constants := [("str", "__doc__")]
  unsigned :=
    "__getnewargs__ capitalize count endswith find index isalnum isalpha isascii " ++
    "isdigit islower isspace istitle isupper lower rfind rindex startswith swapcase " ++
    "title upper"
  undescribed := "__getnewargs__"

end Nature
end HandlerChains
