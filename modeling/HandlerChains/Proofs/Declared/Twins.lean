import HandlerChains.Declared.Construct
import HandlerChains.Proofs.Execution
import HandlerChains.Proofs.Router.Naming
import HandlerChains.Proofs.Tables

/-!
# Executions in twin worlds

What a registration does depends on the routers and on the plugins to choose from, and on nothing
else that there is. Two executions that make the same registrations in worlds which have these in
common therefore end alike: both early, or both well and again with the same routers.
-/

namespace HandlerChains

/-- Two worlds with the same routers and the same plugins to choose from, in which the class of one
router has no hook for the end of its construction. -/
structure World.Twins (r : RouterRef) (w v : World) : Prop where
  routers : v.routers = w.routers
  plugins : v.pluginClasses = w.pluginClasses
  own : (w.router r).IsOwn "initialize"

/-- Options that come to the same registration: at most, one of them names an entry by a value that
counts as no name. -/
structure SameOptions (options options' : Assoc Value) : Prop where
  others : Assoc.erase options "name" = Assoc.erase options' "name"
  name : (Assoc.get? options "name").getD .null = (Assoc.get? options' "name").getD .null

theorem SameOptions.has {options options' : Assoc Value} (same : SameOptions options options')
    {name : String} (other : name ≠ "name") : Assoc.has options name = Assoc.has options' name := by
  unfold Assoc.has
  rw [← Assoc.get?_erase_of_ne options other, same.others, Assoc.get?_erase_of_ne options' other]

namespace World

variable {r : RouterRef} {w v : World}

theorem register_routers_congr (routers : v.routers = w.routers)
    (plugins : v.pluginClasses = w.pluginClasses) (self : RouterRef) (h : Handler) (error : Bool)
    (name : Value) (derived : Option String) (options : Assoc Value) :
    (v.register self h error name derived options).1 =
        (w.register self h error name derived options).1 ∧
      (v.register self h error name derived options).2.routers =
        (w.register self h error name derived options).2.routers ∧
      (v.register self h error name derived options).2.pluginClasses =
        (w.register self h error name derived options).2.pluginClasses := by
  have router : v.router = w.router := funext (router_congr routers)
  have passes : v.expectNoCycle self h = w.expectNoCycle self h := by
    simp only [expectNoCycle, reaches, contains, router, routers]
  have named : v.derivedName h derived = w.derivedName h derived := by
    simp only [derivedName, router]
  unfold World.register
  rw [passes, named, router, plugins]
  cases w.expectNoCycle self h with
  | error f => exact ⟨rfl, routers, plugins⟩
  | ok _ => exact ⟨rfl, by simp only [setRouter, routers], plugins⟩

theorem register_isOwn (own : (w.router r).IsOwn "initialize") (self : RouterRef) (h : Handler)
    (error : Bool) (name : Value) (derived : Option String) (options : Assoc Value) :
    ((w.register self h error name derived options).2.router r).IsOwn "initialize" := by
  unfold Router.IsOwn
  rw [register_overrides]
  exact own

end World

/-- Two executions that end with the same value and leave worlds that are related, or that both end
early. -/
inductive Ended.Like {α : Type} (R : World → World → Prop) (e e' : Ended α) : Prop
  | returned (a : α) (result : e.result = .ok a) (result' : e'.result = .ok a)
      (worlds : R e.world e'.world)
  | stopped (s s' : Stop) (result : e.result = .error s) (result' : e'.result = .error s')

theorem Ended.Like.congr {α : Type} {R : World → World → Prop} {d d' e e' : Ended α}
    (like : e.Like R e') (same : d.result = e.result ∧ d.world = e.world)
    (same' : d'.result = e'.result ∧ d'.world = e'.world) : d.Like R d' := by
  obtain ⟨result, world⟩ := same
  obtain ⟨result', world'⟩ := same'
  cases like with
  | stopped s s' ends ends' => exact .stopped s s' (result.trans ends) (result'.trans ends')
  | returned a ends ends' worlds =>
    refine .returned a (result.trans ends) (result'.trans ends') ?_
    rwa [world, world']

namespace Exec

section

variable {α β : Type} {r : RouterRef}

theorem bind_assoc {γ : Type} (x : Exec α) (f : α → Exec β) (g : β → Exec γ) :
    x >>= f >>= g = x >>= fun a => f a >>= g := by
  funext w
  simp only [bind_apply]
  rcases x w with ⟨course, s | a, w'⟩
  · rfl
  · simp only [Ended.andThen_ok, bind_apply]
    rcases f a w' with ⟨course', s | b, w''⟩
    · rfl
    · simp [Course.append_assoc]

/-- Two executions that end alike wherever they start in worlds that are twins. -/
def Parallels (r : RouterRef) (x y : Exec α) : Prop :=
  ∀ w v, w.Twins r v → (x w).Like (World.Twins r) (y v)

/-- What always ends early. -/
def Stops (x : Exec α) : Prop := ∀ w, ∃ s, (x w).result = .error s

/-- What always ends well, and leaves all routers and plugins as they are, where the class of a
router has no hook for the end of its construction. -/
def IsQuiet (r : RouterRef) (x : Exec Unit) : Prop :=
  ∀ w, (w.router r).IsOwn "initialize" → (x w).result = .ok () ∧
    (x w).world.routers = w.routers ∧ (x w).world.pluginClasses = w.pluginClasses

namespace Stops

theorem fail (f : Failure) : Stops (Exec.fail f : Exec α) := fun _ => ⟨_, rfl⟩

theorem bind {x : Exec α} {f : α → Exec β} (hf : ∀ a, Stops (f a)) : Stops (x >>= f) := by
  intro w
  rw [bind_apply]
  rcases x w with ⟨course, s | a, w'⟩
  · exact ⟨s, rfl⟩
  · exact hf a w'

theorem first {x : Exec α} {f : α → Exec β} (hx : Stops x) : Stops (x >>= f) := by
  intro w
  obtain ⟨s, stopped⟩ := hx w
  exact ⟨s, bind_stopped stopped f⟩

theorem forM {l : List α} {f : α → Exec Unit} {a : α} (mem : a ∈ l) (stops : Stops (f a)) :
    Stops (l.forM f) := by
  induction mem with
  | head rest => exact first stops
  | tail b _ ih => exact bind fun _ => ih

end Stops

section

variable {w : World} {self : RouterRef} {purpose : Purpose}

theorem placeCall_of_isOwn [Answering] (own : (w.router self).IsOwn purpose.verb)
    (action? : Option Target) (compiled? : Option (Except Failure Pattern))
    (options : Assoc Value) :
    placeCall self purpose action? compiled? options w =
      takeCall self purpose action? compiled? options w := by
  simp [placeCall, bind_apply, Router.standIn?_of_isOwn own]

/-- A method in the place of a verb fails on what it is handed, if it takes the call at all. -/
theorem placeCall_stops (own : ¬ (w.router self).IsOwn purpose.verb) (action? : Option Target)
    (compiled? : Option (Except Failure Pattern)) (options : Assoc Value) :
    ∃ s, (placeCall self purpose action? compiled? options w).result = .error s := by
  unfold placeCall
  cases asked : (w.router self).standIn? purpose.verb with
  | some f => exact ⟨_, by simp [bind_apply, asked, Answering.answer]; rfl⟩
  | none =>
    cases expects : (w.router self).expect purpose.verb (verbCall purpose action? options) with
    | ok _ => exact absurd ((Router.expect_eq_ok_iff ..).1 expects) own
    | error f => exact ⟨.failed f, by simp [bind_apply, asked, takeCall, Exec.expect, expects]; rfl⟩

end

namespace Parallels

theorem of_stops {x y : Exec α} (hx : Stops x) (hy : Stops y) : Parallels r x y := by
  intro w v _
  obtain ⟨s, result⟩ := hx w
  obtain ⟨s', result'⟩ := hy v
  exact .stopped s s' result result'

theorem pure (a : α) : Parallels r (Pure.pure a) (Pure.pure a) :=
  fun _ _ twins => .returned a rfl rfl twins

theorem lift (x : Except Failure α) : Parallels r (Exec.lift x) (Exec.lift x) := by
  cases x with
  | ok a => exact pure a
  | error f => exact of_stops (.fail f) (.fail f)

theorem bind {x y : Exec α} {f g : α → Exec β} (h : Parallels r x y)
    (next : ∀ a, Parallels r (f a) (g a)) : Parallels r (x >>= f) (y >>= g) := by
  intro w v twins
  cases h w v twins with
  | stopped s s' result result' =>
    exact .stopped s s' (bind_stopped result f) (bind_stopped result' g)
  | returned a result result' worlds =>
    exact (next a _ _ worlds).congr (bind_result result f) (bind_result result' g)

theorem ite {p : Prop} [Decidable p] {x x' y y' : Exec α} (h : Parallels r x y)
    (h' : Parallels r x' y') : Parallels r (if p then x else x') (if p then y else y') := by
  split
  · exact h
  · exact h'

theorem router (s : RouterRef) : Parallels r (Exec.router s) (Exec.router s) :=
  fun w _ twins => .returned (w.router s) rfl
    (congrArg Except.ok (World.router_congr twins.routers s)) twins

theorem reach (s : RouterRef) (name : String) :
    Parallels r (Exec.reach s name) (Exec.reach s name) :=
  bind (router s) fun _ => lift _

theorem expect (s : RouterRef) (name : String) (call call' : Call) :
    Parallels r (Exec.expect s name call) (Exec.expect s name call') := by
  refine bind (router s) fun target => ?_
  cases own : target.expect name call with
  | ok _ =>
    have own' := (Router.expect_eq_ok_iff target name call').2 ((Router.expect_eq_ok_iff ..).1 own)
    rw [own']
    exact pure ()
  | error f =>
    cases own' : target.expect name call' with
    | ok _ =>
      rw [(Router.expect_eq_ok_iff ..).2 ((Router.expect_eq_ok_iff ..).1 own')] at own
      cases own
    | error g => exact of_stops (.fail f) (.fail g)

theorem settle (self : RouterRef) (h : Handler) (error : Bool) (name : Value)
    (derived : Option String) (options : Assoc Value) :
    Parallels r (Exec.settle fun w => w.register self h error name derived options)
      (Exec.settle fun w => w.register self h error name derived options) := by
  intro w v twins
  obtain ⟨answer, routers, plugins⟩ := World.register_routers_congr twins.routers twins.plugins
    self h error name derived options
  have own := World.register_isOwn twins.own self h error name derived options
  have settled : ∀ u : World, Exec.settle (fun w => w.register self h error name derived options) u
      = Exec.lift (u.register self h error name derived options).1
        (u.register self h error name derived options).2 := fun u => by
    simp [Exec.settle, bind_apply]
  rw [settled, settled, answer]
  exact lift _ _ _ ⟨routers, plugins, own⟩

theorem mapM {f : α → Exec β} (hf : ∀ a, Parallels r (f a) (f a)) (o : Option α) :
    Parallels r (o.mapM f) (o.mapM f) := by
  cases o with
  | none => exact pure none
  | some a => exact bind (hf a) fun b => pure (some b)

theorem passesForAnother (h : Handler) :
    Parallels r (Exec.passesForAnother h) (Exec.passesForAnother h) := by
  cases h with
  | router inner => exact bind (router inner) fun _ => pure _
  | _ => exact pure false

section

variable {options options' : Assoc Value} (same : SameOptions options options')

include same

theorem addHandler (self : RouterRef) (h : HandlerArgument) (error : Bool)
    (derived : Option String) : Parallels r (Exec.addHandler self h error options derived)
      (Exec.addHandler self h error options' derived) := by
  refine bind (expect self _ _ _) fun _ => ?_
  cases h with
  | plain v => exact of_stops (.fail _) (.fail _)
  | handler h =>
    have added := settle (r := r) self h error ((Assoc.get? options' "name").getD .null) derived
      (Assoc.erase options' "name")
    dsimp only
    rw [same.name, same.others]
    have refused {f : Failure} {k : Unit → Exec Unit} : Stops (Exec.fail f >>= k) :=
      .first (.fail _)
    exact bind (passesForAnother h) fun _ => ite (of_stops refused refused) added

theorem addAction (self : RouterRef) (purpose : Purpose) (pattern? : Option Pattern)
    (target : Target) : Parallels r (Exec.addAction self purpose pattern? target options)
      (Exec.addAction self purpose pattern? target options') :=
  bind (reach self _) fun _ => bind (lift _) fun _ => addHandler same self _ _ _

theorem expectOptions {parameters : List String} (others : "name" ∉ parameters) :
    Parallels r (Exec.expectOptions parameters options)
      (Exec.expectOptions parameters options') := by
  have known : parameters.any (Assoc.has options) = parameters.any (Assoc.has options') := by
    rw [Bool.eq_iff_iff, List.any_eq_true, List.any_eq_true]
    refine exists_congr fun name => and_congr_right fun mem => ?_
    rw [same.has fun eq => others (eq ▸ mem)]
  unfold Exec.expectOptions
  rw [known]
  exact ite (of_stops (.fail _) (.fail _)) (pure ())

theorem takeCall (self : RouterRef) (purpose : Purpose) (action? : Option Target)
    (compiled? : Option (Except Failure Pattern)) :
    Parallels r (Exec.takeCall self purpose action? compiled? options)
      (Exec.takeCall self purpose action? compiled? options') := by
  have parameters :
      "name" ∉ purpose.parameters ++ if action?.isSome then [actionOption] else [] := by
    cases purpose <;> cases action? <;> simp [Purpose.parameters, actionOption]
  have inner : Parallels r (purpose.innerVerb?.forM fun verb =>
      Exec.expect self verb (innerCall (Assoc.erase options actionOption)))
      (purpose.innerVerb?.forM fun verb =>
      Exec.expect self verb (innerCall (Assoc.erase options' actionOption))) := by
    cases purpose.innerVerb? with
    | none => exact pure ()
    | some verb => exact expect self verb _ _
  refine bind (expect self _ _ _) fun _ => bind (expectOptions same parameters) fun _ => ?_
  refine bind inner fun _ => bind (mapM (fun _ => lift _) _) fun _ => ?_
  exact bind (expect self _ _ _) fun _ => pure _

theorem openCall (self : RouterRef) (purpose : Purpose) (action? : Option Target) :
    Parallels r (Exec.openCall self purpose action? options)
      (Exec.openCall self purpose action? options') := by
  refine bind (mapM (fun _ => lift _) _) fun compiled? => ?_
  intro w v twins
  have router := World.router_congr twins.routers self
  by_cases own : (w.router self).IsOwn purpose.verb
  · rw [placeCall_of_isOwn own, placeCall_of_isOwn (router ▸ own)]
    exact takeCall same self purpose action? compiled? w v twins
  · obtain ⟨s, stopped⟩ := placeCall_stops own action? compiled? options
    obtain ⟨s', stopped'⟩ := placeCall_stops (router ▸ own) action? compiled? options'
    exact .stopped s s' stopped stopped'

end

theorem forM {P : α → β → Prop} {f : α → Exec Unit} {g : β → Exec Unit}
    (each : ∀ a b, P a b → Parallels r (f a) (g b)) {l : List α} {l' : List β}
    (all : List.Forall₂ P l l') : Parallels r (l.forM f) (l'.forM g) := by
  induction all with
  | nil => exact pure ()
  | cons first _ ih => exact bind (each _ _ first) fun _ => ih

theorem registerBuiltin (self : RouterRef) (tier : Tier) (v : Value) :
    Parallels r (Exec.registerBuiltin self tier v) (Exec.registerBuiltin self tier v) := by
  refine bind (expect self _ _ _) fun _ => ?_
  cases tier with
  | application =>
    have built : Parallels r (buildHandler (.configure v)) (buildHandler (.configure v)) := by
      cases v with
      | null => exact pure _
      | _ => exact bind (lift _) fun _ => pure _
    exact bind built fun h => bind (expect self _ _ _) fun _ => addHandler ⟨rfl, rfl⟩ self h _ _
  | _ => exact pure ()

end Parallels

namespace IsQuiet

theorem performSetup (r : RouterRef) : IsQuiet r (Exec.performSetup r) := by
  intro w own
  have eq : Exec.performSetup r w = ⟨.done, .ok (), w⟩ := by
    simp [Exec.performSetup, bind_apply, show Assoc.get? _ "initialize" = none from own]
  rw [eq]
  exact ⟨rfl, rfl, rfl⟩

theorem modify {f : World → World} (routers : ∀ w, (f w).routers = w.routers)
    (plugins : ∀ w, (f w).pluginClasses = w.pluginClasses) :
    IsQuiet r (MonadState.modifyGet fun w => ((), f w)) :=
  fun w _ => ⟨rfl, routers w, plugins w⟩

theorem bind {x y : Exec Unit} (hx : IsQuiet r x) (hy : IsQuiet r y) :
    IsQuiet r (x >>= fun _ => y) := by
  intro w own
  obtain ⟨result, routers, plugins⟩ := hx w own
  have own : ((x w).world.router r).IsOwn "initialize" := by
    rw [World.router_congr routers]
    exact own
  obtain ⟨result', routers', plugins'⟩ := hy _ own
  obtain ⟨ends, world⟩ := bind_result result fun _ => y
  rw [ends, world]
  exact ⟨result', routers'.trans routers, plugins'.trans plugins⟩

end IsQuiet

end

end Exec
end HandlerChains
