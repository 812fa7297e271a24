import HandlerChains.Proofs.Declared.Making
import HandlerChains.Proofs.Registering
import HandlerChains.Proofs.Router.Naming

/-!
# What making a router registers

A new router has the entries that its tier registers by itself, then one for each mark of each
marked method of its class, in order, and then those that the setup of its class registers. For a
mark whose verb the class has a member of its own for, that one is called instead, and what is
registered is up to it.
-/

namespace HandlerChains

/-- The entries that a mark can register a method for: their handlers call the method, in the way
that the mark and its arguments say. -/
def Marker.Makes (m : Marker) (f : Callable) (e : Entry) : Prop :=
  match m.mark with
  | .route => e.error = false ∧ ∃ v p, m.pattern = some v ∧ Handler.compilePattern v = .ok p ∧
      e.handler = .route p (.callable f)
  | .endpoint | .shortcut _ => e.error = false ∧ ∃ u method v p,
      m.method = some u ∧ Handler.methodOf u = .ok method ∧
      m.pattern = some v ∧ Handler.compilePattern v = .ok p ∧
      e.handler = .endpoint method p (.callable f)
  | .notFound => e.error = false ∧ e.handler = .always (.callable f)
  | .badMethod => e.error = false ∧ e.handler = .badMethod (.callable f)
  | .callback => e.error = false ∧ e.handler = .callback (.callable f)
  | .error => e.error = true ∧ e.handler = .always (.callable f)

/-- What making a router of a class calls verbs with for its marked methods: the method and the mark
of each call. -/
def RouterClass.registrations (c : RouterClass) : List (Callable × Marker) :=
  c.markedMethods.flatMap fun row => row.2.markers.map fun mark => (row.2.callable, mark)

def Mark.verb : Mark → String
  | route => "route"
  | endpoint | shortcut _ => "endpoint"
  | notFound => "not_found"
  | badMethod => "bad_method"
  | callback => "callback"
  | error => "error"

/-- The entries that a router of a class can get for a method and one of its marks: exactly one,
which the mark makes, if the class has nothing of its own in the place of the verb. -/
def RouterClass.Gives (c : RouterClass) (call : Callable × Marker) (es : List Entry) : Prop :=
  Assoc.get? c.overrides call.2.mark.verb = none → ∃ e, es = [e] ∧ call.2.Makes call.1 e

namespace Exec

variable {w w' : World} {r : RouterRef} {f : Callable} {m : Marker}

/-- What the base path of an application is configured with. Without a value it is left open. -/
inductive ConfiguredBase : Value → Option String → Prop
  | unset : ConfiguredBase .null none
  | fixed {v : Value} {base : String} (given : v ≠ .null) (normal : Site.basePathOf v = .ok base) :
      ConfiguredBase v (some base)

theorem buildHandler_configure {v : Value} {h : HandlerArgument}
    (built : Returns (buildHandler (.configure v)) w h w') :
    w = w' ∧ ∃ base?, ConfiguredBase v base? ∧ h = .handler (.configure base?) := by
  by_cases given : v = .null
  · subst given
    obtain ⟨rfl, rfl⟩ := Returns.of_pure built
    exact ⟨rfl, none, .unset, rfl⟩
  · have eq : buildHandler (.configure v) = (do
        return .handler (.configure (some (← lift (Site.basePathOf v))))) := by
      cases v <;> first | rfl | exact absurd rfl given
    rw [eq] at built
    obtain ⟨base, w₁, read, done⟩ := built.of_bind
    obtain ⟨normal, rfl⟩ := read.of_lift
    obtain ⟨rfl, rfl⟩ := done.of_pure
    exact ⟨rfl, some base, .fixed given normal, rfl⟩

theorem expect_returns {r : RouterRef} {name : String} {call : Call}
    (returns : Returns (expect r name call) w () w') : w = w' := by
  obtain ⟨target, v, reads, expects⟩ := returns.of_bind
  obtain ⟨-, rfl⟩ := expects.of_lift
  exact reads.world

theorem addHandler_returns {r : RouterRef} {h : Handler} {error : Bool} {options : Assoc Value}
    {derived : Option String}
    (returns : Returns (addHandler r (.handler h) error options derived) w () w') :
    ∃ e, (w.router r).Takes [e] (w'.router r) ∧ e.handler = h ∧ e.error = error := by
  obtain ⟨_, _, expects, returns⟩ := returns.of_bind
  obtain rfl := expect_returns expects
  obtain ⟨disguised, v, passes, returns⟩ := returns.of_bind
  have same : w = v := by
    cases h with
    | router inner =>
      obtain ⟨target, _, reads, answers⟩ := passes.of_bind
      exact reads.world.trans answers.of_pure.2
    | _ => exact passes.of_pure.2
  subst same
  cases disguised with
  | true =>
    obtain ⟨_, _, fails, -⟩ := returns.of_bind
    cases fails.result
  | false =>
    have registered : w.register r h error ((Assoc.get? options "name").getD .null) derived
        (Assoc.erase options "name") = (.ok (), w') := returns.of_settle
    obtain ⟨-, ⟨f, failed, -⟩ | ⟨-, e, gains, -, handler, chain⟩⟩ :=
      w.register_gains r h error ((Assoc.get? options "name").getD .null) derived
        (Assoc.erase options "name")
    · rw [registered] at failed
      cases failed
    · have overrides := w.register_overrides r h error ((Assoc.get? options "name").getD .null)
        derived (Assoc.erase options "name") r
      rw [registered] at gains overrides
      exact ⟨e, ⟨gains, overrides⟩, handler, chain⟩

/-- What routers of a tier register before anything else. -/
inductive Begins (basePath : Value) : Tier → List Entry → Prop
  | plain : Begins basePath .plain []
  | pluggable : Begins basePath .pluggable []
  | application {base? : Option String} {e : Entry} (configured : ConfiguredBase basePath base?)
      (handler : e.handler = .configure base?) (chain : e.error = false) :
      Begins basePath .application [e]

theorem registerBuiltin_returns {tier : Tier} {v : Value}
    (returns : Returns (registerBuiltin r tier v) w () w') :
    ∃ own, (w.router r).Takes own (w'.router r) ∧ Begins v tier own := by
  obtain ⟨_, _, expects, returns⟩ := returns.of_bind
  obtain rfl := expect_returns expects
  cases tier with
  | plain =>
    obtain ⟨-, rfl⟩ := returns.of_pure
    exact ⟨[], .refl _, .plain⟩
  | pluggable =>
    obtain ⟨-, rfl⟩ := returns.of_pure
    exact ⟨[], .refl _, .pluggable⟩
  | application =>
    obtain ⟨h, _, builds, returns⟩ := returns.of_bind
    obtain ⟨rfl, base?, configured, rfl⟩ := buildHandler_configure builds
    obtain ⟨_, _, expects, returns⟩ := returns.of_bind
    obtain rfl := expect_returns expects
    obtain ⟨e, takes, handler, chain⟩ := addHandler_returns returns
    exact ⟨[e], takes, .application configured handler chain⟩

/-! ## Marked methods -/

theorem of_bind_ok {α β : Type} {x : Except Failure α} {f : α → Except Failure β} {b : β}
    (done : (x >>= f) = .ok b) : ∃ a, x = .ok a ∧ f a = .ok b := by
  cases x with
  | error g => cases done
  | ok a => exact ⟨a, rfl, done⟩

/-- A verb that the class of a router leaves to it is taken by the router, and for any other one a
method answers that is in its place. -/
theorem openCall_returns [Answering] {purpose : Purpose} {action? : Option Target}
    {options : Assoc Value} {opened : Opened}
    (opens : Returns (openCall r purpose action? options) w opened w') :
    (∃ f v, ¬ (w.router r).IsOwn purpose.verb ∧ opened = .answered v ∧
      Returns (Answering.answer r f purpose action? options) w v w') ∨
    ∃ pattern?, opened = .taken pattern? ∧ w = w' ∧ ∀ v, purpose.pattern? = some (.plain v) →
      ∃ p, pattern? = some p ∧ Handler.compilePattern v = .ok p := by
  obtain ⟨compiled?, w₁, reads, places⟩ := opens.of_bind
  obtain rfl : w₁ = w := reads.world ▸ Respects.optionMapM unchanged_composes purpose.pattern?
    (fun p => .lift unchanged_composes (readPattern p)) w
  obtain ⟨target, _, sees, places⟩ := places.of_bind
  obtain ⟨rfl, rfl⟩ := sees.of_router
  split at places
  · next f there =>
    obtain ⟨v, _, answers, ends⟩ := places.of_bind
    obtain ⟨rfl, rfl⟩ := ends.of_pure
    refine .inl ⟨f, v, fun own => ?_, rfl, answers⟩
    rw [Router.standIn?_of_isOwn own] at there
    cases there
  · have unchanged : w' = w₁ := places.world ▸
      Respects.takeCall unchanged_composes r purpose action? compiled? options w₁
    obtain ⟨_, _, -, takes⟩ := places.of_bind
    obtain ⟨_, _, -, takes⟩ := takes.of_bind
    obtain ⟨_, _, -, takes⟩ := takes.of_bind
    obtain ⟨pattern?, _, compiles, takes⟩ := takes.of_bind
    obtain ⟨_, _, -, takes⟩ := takes.of_bind
    obtain ⟨rfl, -⟩ := takes.of_pure
    refine .inr ⟨pattern?, rfl, unchanged.symm, fun v asks => ?_⟩
    rw [asks] at reads
    obtain ⟨rfl, -⟩ : some (Handler.compilePattern v) = compiled? ∧ _ = _ := reads.of_pure
    obtain ⟨p, _, lifts, ends⟩ := compiles.of_bind
    obtain ⟨rfl, -⟩ := ends.of_pure
    exact ⟨p, rfl, lifts.of_lift.1⟩

theorem addAction_returns {purpose : Purpose} {pattern? : Option Pattern} {target : Target}
    {options : Assoc Value}
    (returns : Returns (addAction r purpose pattern? target options) w () w') :
    ∃ e, (w.router r).Takes [e] (w'.router r) ∧
      purpose.makeHandler (pattern?.getD Pattern.empty) target = .ok e.handler ∧
      e.error = purpose.isError := by
  obtain ⟨_, _, reaches, returns⟩ := returns.of_bind
  obtain ⟨h, v, makes, returns⟩ := returns.of_bind
  obtain ⟨made, rfl⟩ := makes.of_lift
  obtain ⟨e, takes, rfl, chain⟩ := addHandler_returns returns
  obtain ⟨_, _, reads, ends⟩ := reaches.of_bind
  obtain ⟨-, rfl⟩ := reads.of_router
  obtain ⟨-, rfl⟩ := ends.of_lift
  exact ⟨e, takes, made, chain⟩

theorem markedArgument_returns {name : String} {given : Option Value} {v : Value}
    (returns : Returns (markedArgument name given) w v w') : given = some v ∧ w = w' := by
  cases given with
  | none => cases returns.result
  | some u =>
    obtain ⟨rfl, rfl⟩ := returns.of_pure
    exact ⟨rfl, rfl⟩

theorem markedPurpose_verb {purpose : Purpose} (returns : Returns (markedPurpose m) w purpose w') :
    purpose.verb = m.mark.verb ∧ w = w' := by
  obtain ⟨mark, method?, given?, options⟩ := m
  cases mark with
  | route =>
    obtain ⟨v, _, asks, ends⟩ := returns.of_bind
    obtain ⟨-, rfl⟩ := markedArgument_returns asks
    obtain ⟨rfl, rfl⟩ := ends.of_pure
    exact ⟨rfl, rfl⟩
  | endpoint | shortcut =>
    obtain ⟨u, _, asks, ends⟩ := returns.of_bind
    obtain ⟨-, rfl⟩ := markedArgument_returns asks
    obtain ⟨v, _, asks, ends⟩ := ends.of_bind
    obtain ⟨-, rfl⟩ := markedArgument_returns asks
    obtain ⟨rfl, rfl⟩ := ends.of_pure
    exact ⟨rfl, rfl⟩
  | _ =>
    obtain ⟨rfl, rfl⟩ := returns.of_pure
    exact ⟨rfl, rfl⟩

theorem registerMark_taken {purpose : Purpose} {pattern? : Option Pattern} {v : World}
    (reads : Returns (markedPurpose m) v purpose v)
    (compiles : ∀ u, purpose.pattern? = some (.plain u) →
      ∃ p, pattern? = some p ∧ Handler.compilePattern u = .ok p)
    (adds : Returns (addAction r purpose pattern? (.callable f) m.options) w () w') :
    ∃ e, (w.router r).Takes [e] (w'.router r) ∧ m.Makes f e := by
  obtain ⟨e, takes, made, chain⟩ := addAction_returns adds
  obtain ⟨mark, method?, given?, options⟩ := m
  cases mark with
  | route =>
    obtain ⟨v, _, asks, ends⟩ := reads.of_bind
    obtain ⟨rfl, -⟩ := markedArgument_returns asks
    obtain ⟨rfl, -⟩ := ends.of_pure
    obtain ⟨p, rfl, compiled⟩ := compiles v rfl
    exact ⟨e, takes, chain, v, p, rfl, compiled, (Except.ok.inj made).symm⟩
  | endpoint | shortcut =>
    obtain ⟨u, _, asks, ends⟩ := reads.of_bind
    obtain ⟨rfl, -⟩ := markedArgument_returns asks
    obtain ⟨v, _, asks, ends⟩ := ends.of_bind
    obtain ⟨rfl, -⟩ := markedArgument_returns asks
    obtain ⟨rfl, -⟩ := ends.of_pure
    obtain ⟨p, rfl, compiled⟩ := compiles v rfl
    obtain ⟨method, named, made⟩ := of_bind_ok made
    exact ⟨e, takes, chain, u, method, v, p, rfl, named, rfl, compiled, (Except.ok.inj made).symm⟩
  | _ =>
    obtain ⟨rfl, -⟩ := reads.of_pure
    exact ⟨e, takes, chain, (Except.ok.inj made).symm⟩

/-! ## What else is registered -/

def Takes (r : RouterRef) (w : World) (_ : Course) (w' : World) : Prop :=
  ∃ es, (w.router r).Takes es (w'.router r)

theorem takes_registers (r : RouterRef) : RegistrationInvariant (Takes r) where
  done _ := ⟨[], .refl _⟩
  append := by
    rintro _ _ _ _ _ ⟨es, takes⟩ ⟨es', takes'⟩
    exact ⟨es ++ es', takes.trans takes'⟩
  aside := by
    intro w w' same _
    refine ⟨[], ?_⟩
    rw [World.router_congr same r]
    exact .refl _
  register w s h error name derived options := by
    by_cases here : r = s
    · subst here
      have overrides := w.register_overrides r h error name derived options r
      obtain ⟨-, ⟨f, -, gains⟩ | ⟨-, e, gains, -⟩⟩ :=
        w.register_gains r h error name derived options
      · exact ⟨[], gains, overrides⟩
      · exact ⟨[e], gains, overrides⟩
    · obtain ⟨others, -⟩ := w.register_gains s h error name derived options
      refine ⟨[], ?_⟩
      rw [others r here]
      exact .refl _

/-- Whether methods in the place of verbs do nothing to routers but register handlers. -/
def AnswersAdd [Answering] : Prop := ∀ r, Answers (Takes r)

theorem answersAdd : AnswersAdd := fun r => (takes_registers r).toComposes.answers

theorem registerMark_returns [Answering] (adds : AnswersAdd) {c : RouterClass}
    (overrides : (w.router r).overrides = c.overrides)
    (returns : Returns (registerMark r f m) w () w') :
    ∃ es, (w.router r).Takes es (w'.router r) ∧ c.Gives (f, m) es := by
  obtain ⟨purpose, w₁, reads, returns⟩ := returns.of_bind
  obtain ⟨verb, rfl⟩ := markedPurpose_verb reads
  obtain ⟨opened, w₂, opens, ends⟩ := returns.of_bind
  obtain ⟨g, v, other, rfl, answers⟩ | ⟨pattern?, rfl, rfl, compiles⟩ := openCall_returns opens
  · obtain ⟨-, rfl⟩ := ends.of_pure
    obtain ⟨es, takes⟩ := answers.world ▸ adds r r g purpose _ m.options w
    refine ⟨es, takes, fun left => ?_⟩
    rw [← overrides, ← verb] at left
    exact absurd left other
  · obtain ⟨e, takes, makes⟩ := registerMark_taken reads compiles ends
    exact ⟨[e], takes, fun _ => ⟨e, rfl, makes⟩⟩

/-- What registers entries step by step registers them in this order. -/
theorem forM_takes {α β : Type} {g : α → List β} {P : β → List Entry → Prop} {x : α → Exec Unit}
    {l : List α} {overrides : Overrides}
    (each : ∀ a ∈ l, ∀ v v', (v.router r).overrides = overrides → Returns (x a) v () v' →
      ∃ groups, (v.router r).Takes groups.flatten (v'.router r) ∧ List.Forall₂ P (g a) groups)
    (same : (w.router r).overrides = overrides) (returns : Returns (l.forM x) w () w') :
    ∃ groups, (w.router r).Takes groups.flatten (w'.router r) ∧
      List.Forall₂ P (l.flatMap g) groups := by
  induction l generalizing w with
  | nil =>
    obtain ⟨-, rfl⟩ := returns.of_pure
    exact ⟨[], .refl _, .nil⟩
  | cons a l ih =>
    obtain ⟨_, v, first, later⟩ := returns.of_bind
    obtain ⟨groups, takes, fits⟩ := each a List.mem_cons_self w v same first
    obtain ⟨groups', takes', fits'⟩ := ih (fun b mem => each b (List.mem_cons_of_mem a mem))
      (takes.overrides.trans same) later
    refine ⟨groups ++ groups', ?_, List.rel_append fits fits'⟩
    rw [List.flatten_append]
    exact takes.trans takes'

theorem registerMarked_returns [Answering] (adds : AnswersAdd) {c : RouterClass}
    (overrides : (w.router r).overrides = c.overrides)
    (returns : Returns (registerMarked r c) w () w') :
    ∃ groups, (w.router r).Takes groups.flatten (w'.router r) ∧
      List.Forall₂ c.Gives c.registrations groups := by
  obtain ⟨_, _, expects, returns⟩ := returns.of_bind
  obtain rfl := expect_returns expects
  obtain ⟨_, _, expects, returns⟩ := returns.of_bind
  obtain rfl := expect_returns expects
  refine forM_takes (fun row mem v v' same returns => ?_) overrides returns
  rw [← List.flatMap_singleton' (row.2.markers.map _), List.flatMap_map]
  refine forM_takes (fun mark _ u u' same returns => ?_) same returns
  obtain ⟨es, takes, gives⟩ := registerMark_returns adds same returns
  exact ⟨[es], by simpa using takes, .cons gives .nil⟩

/-! ## Whole routers -/

theorem performSetup_returns [Answering] (adds : AnswersAdd)
    (returns : Returns (performSetup r) w () w') :
    ∃ es, (w.router r).Takes es (w'.router r) ∧
      ((w.router r).IsOwn "initialize" → es = []) := by
  have hR := takes_registers r
  obtain ⟨_, _, reads, returns⟩ := returns.of_bind
  obtain ⟨rfl, rfl⟩ := reads.of_router
  split at returns
  · next rs setup =>
    have registers : Respects (Takes r) (rs.forM fun reg => do let _ ← register r reg) :=
      .forM hR.toComposes (fun reg => .bind hR.toComposes (hR.registers r (adds r) reg) fun _ =>
        .pure hR.toComposes _) rs
    obtain ⟨es, takes⟩ := returns.world ▸ registers w
    refine ⟨es, takes, fun own => ?_⟩
    rw [Router.IsOwn, setup] at own
    cases own
  · obtain ⟨_, _, -, fails⟩ := returns.of_bind
    cases fails.result
  · obtain ⟨-, rfl⟩ := returns.of_pure
    exact ⟨[], .refl _, fun _ => rfl⟩

/-- A new router has the entries of its tier, those of its marked methods, and those of the setup of
its class. -/
theorem makeRouter_takes [Answering] (adds : AnswersAdd) {c : RouterClass} {id className : String}
    {name description : Value} {basePath : Option Value}
    (known : Assoc.get? w.classes className = some c)
    (returns : Returns (makeRouter id className name description basePath) w () w') :
    ∃ own marked setUp,
      (blankRouter c className name description).Takes (own ++ marked.flatten ++ setUp)
        (w'.router w.routers.length) ∧
      Begins (basePath.getD .null) c.tier own ∧
      List.Forall₂ c.Gives c.registrations marked ∧
      (Assoc.get? c.overrides "initialize" = none → setUp = []) := by
  have returns := fillRouter_of_makeRouter known returns
  obtain ⟨_, _, reads, returns⟩ := returns.of_bind
  obtain ⟨-, rfl⟩ := reads.of_router
  obtain ⟨_, _, looks, returns⟩ := returns.of_bind
  obtain ⟨-, rfl⟩ := looks.of_lift
  obtain ⟨_, w₁, builds, returns⟩ := returns.of_bind
  obtain ⟨_, w₂, marks, returns⟩ := returns.of_bind
  obtain ⟨_, w₃, sets, names⟩ := returns.of_bind
  obtain ⟨own, first, begins⟩ := registerBuiltin_returns builds
  rw [World.router_setRouter_self] at first
  obtain ⟨marked, second, makes⟩ := registerMarked_returns adds first.overrides marks
  obtain ⟨setUp, third, none⟩ := performSetup_returns adds sets
  have named : w'.router w.routers.length = w₃.router w.routers.length := names.world ▸ rfl
  have takes := (first.trans second).trans third
  rw [← named] at takes
  refine ⟨own, marked, setUp, takes, begins, makes, fun absent => none ?_⟩
  rw [Router.IsOwn, (first.trans second).overrides]
  exact absent

end Exec
end HandlerChains
