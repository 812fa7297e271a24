import HandlerChains.Assoc

/-!
# Route templates

The text of a route pattern is read in two steps. `tokens` cuts it into literals, placeholders and
parentheses, each with its offset; `fault?` finds the first thing wrong with them; `ofTokens` builds
the template. A placeholder is `:name` for one segment or `*name` for any run of characters, and
parentheses make their content optional.
-/

namespace HandlerChains
namespace Pattern

inductive Template where
  | done
  | literal (c : Char) (next : Template)
  | segment (name : String) (mayBeEmpty : Bool) (next : Template)
  | run (name : String) (next : Template)
  | optional (body next : Template)
  deriving DecidableEq, Repr, Inhabited

namespace Template

def names : Template → List String
  | done => []
  | literal _ next => next.names
  | segment name _ next => name :: next.names
  | run name next => name :: next.names
  | optional body next => body.names ++ next.names

end Template

inductive Symbol where
  | literal (c : Char)
  | segment (name : String) (mayBeEmpty : Bool)
  | run (name : String)
  | openGroup
  | closeGroup
  deriving DecidableEq, Repr

structure Token where
  offset : Nat
  symbol : Symbol
  deriving DecidableEq, Repr

def Symbol.name? : Symbol → Option String
  | .segment name _ | .run name => some name
  | _ => none

def isNameStart (c : Char) : Bool := c.isAlpha || c == '_'

def isNameRest (c : Char) : Bool := c.isAlphanum || c == '_'

def nameAt : List Char → Option (List Char × List Char)
  | [] => none
  | c :: rest =>
    if isNameStart c then some (c :: rest.takeWhile isNameRest, rest.dropWhile isNameRest)
    else none

theorem nameAt_length {cs name rest : List Char} (h : nameAt cs = some (name, rest)) :
    name.length + rest.length = cs.length := by
  cases cs with
  | nil => simp [nameAt] at h
  | cons c cs =>
    simp only [nameAt] at h
    split at h
    · obtain ⟨rfl, rfl⟩ : c :: cs.takeWhile isNameRest = name ∧ cs.dropWhile isNameRest = rest := by
        simpa using h
      have := congrArg List.length (List.takeWhile_append_dropWhile (p := isNameRest) (l := cs))
      simp only [List.length_append, List.length_cons] at this ⊢
      omega
    · simp at h

def plainSymbol (c : Char) : Symbol :=
  if c = '(' then .openGroup else if c = ')' then .closeGroup else .literal c

/-- The symbol at the start of `c :: rest`, and what follows it. -/
def symbolAt (c : Char) (rest : List Char) : Symbol × List Char :=
  if c = ':' ∨ c = '*' then
    match nameAt rest with
    | some (name, after) =>
      let name := String.ofList name
      (if c = '*' then .run name else .segment name after.isEmpty, after)
    | none => (.literal c, rest)
  else (plainSymbol c, rest)

theorem length_symbolAt (c : Char) (rest : List Char) :
    (symbolAt c rest).2.length ≤ rest.length := by
  unfold symbolAt
  split
  · split
    · next h => have := nameAt_length h; simp; omega
    · exact Nat.le_refl _
  · exact Nat.le_refl _

def tokensFrom (offset : Nat) : List Char → List Token
  | [] => []
  | c :: rest =>
    let found := symbolAt c rest
    ⟨offset, found.1⟩ :: tokensFrom (offset + 1 + (rest.length - found.2.length)) found.2
termination_by cs => cs.length
decreasing_by
  have := length_symbolAt c rest
  simp only [List.length_cons]
  omega

def tokens (text : String) : List Token := tokensFrom 0 text.toList

/-- What can be wrong with a pattern text. -/
inductive Fault where
  | duplicate (name : String)
  | unbalanced
  | unclosed
  deriving DecidableEq, Repr

def Fault.reason : Fault → String
  | .duplicate name => "duplicate parameter '" ++ name ++ "'"
  | .unbalanced => "unbalanced ')'"
  | .unclosed => "unclosed '('"

/-- The first fault from left to right, given the names seen and the offsets of the groups that are
open, innermost first. A group that stays open is a fault of the whole text. -/
def faultFrom (seen : List String) : (groups : List Nat) → List Token → Option (Fault × Nat)
  | [], [] => none
  | innermost :: _, [] => some (.unclosed, innermost)
  | groups, ⟨offset, symbol⟩ :: rest =>
    match symbol with
    | .literal _ => faultFrom seen groups rest
    | .openGroup => faultFrom seen (offset :: groups) rest
    | .closeGroup =>
      match groups with
      | [] => some (.unbalanced, offset)
      | _ :: outer => faultFrom seen outer rest
    | .segment name _ | .run name =>
      if name ∈ seen then some (.duplicate name, offset) else faultFrom (name :: seen) groups rest

def fault? (ts : List Token) : Option (Fault × Nat) := faultFrom [] [] ts

/-- One symbol put in front of the templates of the groups that are open to its right, the innermost
first. -/
def Template.before : Symbol → List Template → List Template
  | .literal c, top :: groups => .literal c top :: groups
  | .segment name mayBeEmpty, top :: groups => .segment name mayBeEmpty top :: groups
  | .run name, top :: groups => .run name top :: groups
  | .closeGroup, groups => .done :: groups
  | .openGroup, body :: next :: groups => .optional body next :: groups
  | _, groups => groups

/-- The template of faultless tokens, built from the right. -/
def Template.ofTokens (ts : List Token) : Template :=
  (ts.foldr (fun t groups => Template.before t.symbol groups) [.done]).headD .done

end Pattern
end HandlerChains
