import HandlerChains.Assoc
import HandlerChains.Text.Blank
import HandlerChains.Text.Fields
import HandlerChains.Text.UpperCase
import HandlerChains.Value

/-!
# Flags in one text

A text such as `enabled, before:off` sets several flags: a name alone switches its flag on, and so
does any word after a colon except `off`.
-/

namespace HandlerChains
namespace Options

def flagIn (field : String) : String × Value :=
  let cs := field.toList
  match cs.dropWhile (· != ':') with
  | [] => (field, .bool true)
  | _ :: word =>
    (Text.strip (String.ofList (cs.takeWhile (· != ':'))),
      .bool (Text.lowerAscii (Text.strip (String.ofList word)) != "off"))

/-- All flags of a text. A flag that is set twice has its last value. -/
def flagsIn (s : String) : Assoc Value :=
  Assoc.merge [] ((((Text.fields ',' s).map Text.strip).filter (· ≠ "")).map flagIn)

end Options
end HandlerChains
