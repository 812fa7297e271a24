/-!
# Kinds of failure

Kinds form a hierarchy: `k.isA l` says that `k` is `l` or one of the kinds below it. Everything but
`halt` is `ordinary`; only ordinary failures are handled by error chains.
-/

namespace HandlerChains
namespace Failure

inductive Kind where
  | any | ordinary | halt
  | boom | subBoom | outOfStock
  | badValue | badType | badAttribute | runtime | lookup | missingKey | missingIndex | badImport
  | missingModule
  | dispatch | handler | pattern | missingField | unknownAction | outsideBase | invalid
  deriving DecidableEq, Repr

namespace Kind

def label : Kind → String
  | any => "BaseException"
  | ordinary => "Exception"
  | halt => "Halt"
  | boom => "Boom"
  | subBoom => "SubBoom"
  | outOfStock => "OutOfStock"
  | badValue => "ValueError"
  | badType => "TypeError"
  | badAttribute => "AttributeError"
  | runtime => "RuntimeError"
  | lookup => "LookupError"
  | missingKey => "KeyError"
  | missingIndex => "IndexError"
  | badImport => "ImportError"
  | missingModule => "ModuleNotFoundError"
  | dispatch => "DispatchError"
  | handler => "HandlerFailure"
  | pattern => "PatternError"
  | missingField => "MissingContextField"
  | unknownAction => "ActionNotFound"
  | outsideBase => "BasePathMismatch"
  | invalid => "ValidationError"

def all : List Kind :=
  [any, ordinary, halt, boom, subBoom, outOfStock, badValue, badType, badAttribute, runtime, lookup,
    missingKey, missingIndex, badImport, missingModule, dispatch, handler, pattern, missingField,
    unknownAction, outsideBase, invalid]

def ofLabel? (name : String) : Option Kind := all.find? fun k => k.label == name

def parents : Kind → List Kind
  | any => []
  | ordinary | halt => [any]
  | boom | badValue | badType | badAttribute | runtime | lookup | badImport | dispatch => [ordinary]
  | subBoom => [boom]
  | missingKey | missingIndex => [lookup]
  | missingModule => [badImport]
  | handler | outsideBase => [dispatch]
  | outOfStock => [handler]
  | pattern => [dispatch, badValue]
  | missingField | unknownAction => [dispatch, lookup]
  | invalid => [badValue]

def lineage : Kind → List Kind
  | any => [any]
  | ordinary => [ordinary, any]
  | halt => [halt, any]
  | boom => [boom, ordinary, any]
  | subBoom => [subBoom, boom, ordinary, any]
  | outOfStock => [outOfStock, handler, dispatch, ordinary, any]
  | badValue => [badValue, ordinary, any]
  | badType => [badType, ordinary, any]
  | badAttribute => [badAttribute, ordinary, any]
  | runtime => [runtime, ordinary, any]
  | lookup => [lookup, ordinary, any]
  | missingKey => [missingKey, lookup, ordinary, any]
  | missingIndex => [missingIndex, lookup, ordinary, any]
  | badImport => [badImport, ordinary, any]
  | missingModule => [missingModule, badImport, ordinary, any]
  | dispatch => [dispatch, ordinary, any]
  | handler => [handler, dispatch, ordinary, any]
  | pattern => [pattern, dispatch, badValue, ordinary, any]
  | missingField => [missingField, dispatch, lookup, ordinary, any]
  | unknownAction => [unknownAction, dispatch, lookup, ordinary, any]
  | outsideBase => [outsideBase, dispatch, ordinary, any]
  | invalid => [invalid, badValue, ordinary, any]

theorem self_mem_lineage (k : Kind) : k ∈ k.lineage := by cases k <;> simp [lineage]

theorem lineage_subset_of_mem_parents {k p : Kind} (h : p ∈ k.parents) : p.lineage ⊆ k.lineage := by
  cases k <;> simp [parents] at h <;> (try rcases h with rfl | rfl) <;> simp_all [lineage]

def isA (k target : Kind) : Bool := k.lineage.contains target

/-- Error chains, reports and logs see ordinary failures only. -/
def isOrdinary : Kind → Bool
  | any | halt => false
  | _ => true

end Kind
end Failure
end HandlerChains
