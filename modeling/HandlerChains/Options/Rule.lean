import HandlerChains.Value

/-!
# Accepted options

What a plugin or a site accepts under a name. The reading is lenient: a flag may come as a number
or as one of twelve words, a whole number as a text. Checking only decides; the value that was
given is the one that is kept.
-/

namespace HandlerChains
namespace Options

inductive Problem where
  | notFlag | unreadableFlag
  | notWhole | unreadableWhole | fractional | outOfRange
  | notText
  | unexpected
  | repeated
  | notRecord
  | badUrl (reason : String)
  deriving DecidableEq, Repr

def Problem.code : Problem → String
  | notFlag => "bool_type"
  | unreadableFlag => "bool_parsing"
  | notWhole => "int_type"
  | unreadableWhole => "int_parsing"
  | fractional => "int_from_float"
  | outOfRange => "int_parsing_size"
  | notText => "string_type"
  | unexpected => "unexpected_keyword_argument"
  | repeated => "multiple_argument_values"
  | notRecord => "model_type"
  | badUrl _ => "value_error"

def Problem.message : Problem → String
  | notFlag => "Input should be a valid boolean"
  | unreadableFlag => "Input should be a valid boolean, unable to interpret input"
  | notWhole => "Input should be a valid integer"
  | unreadableWhole => "Input should be a valid integer, unable to parse string as an integer"
  | fractional => "Input should be a valid integer, got a number with a fractional part"
  | outOfRange => "Unable to parse input string as an integer, exceeded maximum size"
  | notText => "Input should be a valid string"
  | unexpected => "Unexpected keyword argument"
  | repeated => "Got multiple values for argument"
  | notRecord => "Input should be a valid dictionary or instance of SiteConfig"
  | badUrl reason => "Value error, " ++ reason

/-- A refused option; `option` is `none` when the whole input is refused. -/
structure Refusal where
  option : Option String
  problem : Problem
  deriving DecidableEq, Repr

end Options
end HandlerChains
