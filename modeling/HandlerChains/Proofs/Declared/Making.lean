import HandlerChains.Declared.Construct
import HandlerChains.Proofs.Execution
import HandlerChains.Proofs.Tables

/-!
# How routers are made

A router is made in a new cell, if its class lets it be, and then it is filled. A class without its
decorators makes the same routers, except that no method is registered with them.
-/

namespace HandlerChains
namespace Exec

variable {w : World} {c : RouterClass} {id className : String} {name description : Value}

theorem forall₂_of_mapM {α β : Type} {f : α → Except Failure β} {l : List α} {l' : List β}
    (each : l.mapM f = .ok l') : List.Forall₂ (fun a b => f a = .ok b) l l' := by
  induction l generalizing l' with
  | nil =>
    cases each
    exact .nil
  | cons a rest ih =>
    rw [List.mapM_cons] at each
    cases first : f a with
    | error g =>
      rw [first] at each
      cases each
    | ok b =>
      cases later : rest.mapM f with
      | error g =>
        rw [first, later] at each
        cases each
      | ok bs =>
        rw [first, later] at each
        cases each
        exact .cons first (ih later)

/-- Fails where a class makes no routers, or none with what they are asked for with. -/
def expectMaking (c : RouterClass) (basePath : Option Value) : Except Failure Unit := do
  expectConstruction c.overrides
  expectFields c
  if basePath.isSome ∧ c.tier ≠ .application then
    .error (.badCall "unexpected keyword argument")

def blankRouter (c : RouterClass) (className : String) (name description : Value) : Router :=
  { className, tier := c.tier, attributes := c.attributes, overrides := c.overrides, name
    description }

/-- Registers with a new router what its class has for it. -/
def fillRouter [Answering] (id : String) (c : RouterClass) (basePath : Option Value)
    (r : RouterRef) : Exec Unit := do
  lift (expectLookup (← router r))
  registerBuiltin r c.tier (basePath.getD .null)
  registerMarked r c
  performSetup r
  modify fun w => { w with routerNames := Assoc.put w.routerNames id r }

theorem makeRouter_apply [Answering] (known : Assoc.get? w.classes className = some c)
    (basePath : Option Value) :
    makeRouter id className name description basePath w =
      match expectMaking c basePath with
      | .error f => ⟨.done, .error (.failed f), w⟩
      | .ok _ => fillRouter id c basePath w.routers.length
          (w.setRouter w.routers.length (blankRouter c className name description)) := by
  unfold makeRouter expectMaking
  simp only [bind_apply, get_apply, Ended.andThen_ok, named, known, pure_apply, Course.done_append]
  cases expectConstruction c.overrides with
  | error f => rfl
  | ok _ =>
    cases expectFields c with
    | error f => rfl
    | ok _ =>
      by_cases given : basePath.isSome ∧ c.tier ≠ .application
      · simp only [lift, bind_apply, pure_apply, Ended.andThen_ok, Course.done_append, if_pos given]
        rfl
      · simp only [lift, bind_apply, pure_apply, Ended.andThen_ok, Course.done_append, if_neg given]
        rfl

theorem fillRouter_of_makeRouter [Answering] {basePath : Option Value} {w' : World}
    (known : Assoc.get? w.classes className = some c)
    (returns : Returns (makeRouter id className name description basePath) w () w') :
    Returns (fillRouter id c basePath w.routers.length)
      (w.setRouter w.routers.length (blankRouter c className name description)) () w' := by
  obtain ⟨result, world⟩ := returns
  rw [makeRouter_apply known] at result world
  cases checked : expectMaking c basePath with
  | error f =>
    rw [checked] at result
    cases result
  | ok _ =>
    rw [checked] at result world
    exact ⟨result, world⟩

end Exec

/-! ## Classes without decorators -/

def ClassMember.undecorated : ClassMember → ClassMember
  | method m => .method { m with markers := [] }
  | m => m

theorem ClassMember.override?_undecorated (m : ClassMember) :
    m.undecorated.override? = m.override? := by
  cases m <;> rfl

def ClassBody.undecorated (b : ClassBody) : ClassBody :=
  { b with members := b.members.map fun (name, m) => (name, m.undecorated) }

namespace RouterClass

/-- A class without decorators, on its own methods and on those that it inherits. -/
def undecorated (c : RouterClass) : RouterClass :=
  { c with line := c.line.map ClassBody.undecorated }

variable (c : RouterClass)

theorem serials_undecorated : c.undecorated.serials = c.serials := by
  simp [undecorated, serials, ClassBody.undecorated, Function.comp_def]

@[simp] theorem tier_undecorated : c.undecorated.tier = c.tier := by
  rw [tier, tier, serials_undecorated]

theorem hasPlace_undecorated : c.undecorated.hasPlace = c.hasPlace := by
  funext place
  simp [undecorated, hasPlace, ClassBody.undecorated, Function.comp_def]

@[simp] theorem attributes_undecorated : c.undecorated.attributes = c.attributes := by
  rw [attributes, attributes, hasPlace_undecorated, tier_undecorated]

theorem members_undecorated :
    c.undecorated.members = c.members.map fun (name, m) => (name, m.undecorated) := by
  have along : ∀ (bodies : List ClassBody) (t : Assoc ClassMember),
      (bodies.map ClassBody.undecorated).foldl (fun t b => Assoc.merge t b.members)
          (t.map fun (name, m) => (name, m.undecorated)) =
        (bodies.foldl (fun t b => Assoc.merge t b.members) t).map
          fun (name, m) => (name, m.undecorated) := by
    intro bodies
    induction bodies with
    | nil => exact fun _ => rfl
    | cons b rest ih =>
      intro t
      have here := Assoc.merge_map ClassMember.undecorated t b.members
      rw [List.map_cons, List.foldl_cons, List.foldl_cons, ← ih, ← here]
      rfl
  have line := along c.line.reverse []
  rwa [List.map_reverse] at line

@[simp] theorem overrides_undecorated : c.undecorated.overrides = c.overrides := by
  rw [overrides, overrides, members_undecorated, List.filterMap_map]
  refine congrArg (List.filterMap · c.members) (funext fun row => ?_)
  simp [ClassMember.override?_undecorated]

end RouterClass

namespace Exec

end Exec
end HandlerChains
