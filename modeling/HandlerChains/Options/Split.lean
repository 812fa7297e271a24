import HandlerChains.Assoc
import HandlerChains.Site.BasePath
import HandlerChains.Value

/-!
# Splitting registration options

Among the options of a registration, `<code>_<name>` is the option `<name>` for the plugin
registered as `<code>`. Each code is looked for on its own, so one option can go to two plugins when
one code starts with the other. What no plugin takes is metadata.
-/

namespace HandlerChains
namespace Options

/-- What is left of an option name after a code and an underscore. -/
def nameFor? (code name : String) : Option String :=
  (Site.dropStart? (code ++ "_").toList name.toList).map fun rest =>
    if rest = "class".toList then "_class" else String.ofList rest

/-- The options for one code. -/
def takenBy (code : String) (options : Assoc Value) : Assoc Value :=
  Assoc.merge [] (options.filterMap fun (name, v) => (nameFor? code name).map fun rest => (rest, v))

/-- The options of each plugin that has any, in the order of the codes. -/
def forPlugins (codes : List String) (options : Assoc Value) : Assoc Value :=
  (codes.map fun code => (code, takenBy code options)).filterMap fun (code, taken) =>
    if taken.isEmpty then none else some (code, .record taken)

/-- The options that no plugin takes. -/
def metadata (codes : List String) (options : Assoc Value) : Assoc Value :=
  options.filter fun (name, _) => codes.all fun code => (nameFor? code name).isNone

theorem mem_metadata {codes : List String} {options : Assoc Value} {row : String × Value} :
    row ∈ metadata codes options ↔
      row ∈ options ∧ ∀ code ∈ codes, nameFor? code row.1 = none := by
  simp [metadata]

end Options
end HandlerChains
