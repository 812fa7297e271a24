import HandlerChains.Perform.Register
import HandlerChains.Proofs.Router.Registration

/-!
# What registration calls come down to

Before a registration call reaches its router it builds a handler and checks its arguments, which
leaves all routers alone and has nothing to do with cycles. So a call hands at most one handler to
its router, and is refused because of a cycle only where that handler is.
-/

namespace HandlerChains

open Failure Containment

namespace Handler

theorem compilePattern_noCycle (v : Value) : NoCycle (compilePattern v) := by
  unfold compilePattern
  split
  · split
    · exact .ok _
    · exact .error rfl
  · exact .error rfl

theorem methodOf_noCycle (v : Value) : NoCycle (methodOf v) := by
  unfold methodOf
  split
  · exact .ite (.error rfl) (.ok _)
  · exact .ite (.error rfl) (.error rfl)

theorem nameSpaceOf_noCycle (v : Value) : NoCycle (nameSpaceOf v) := by
  unfold nameSpaceOf
  split
  · exact .ok _
  · exact .error rfl

end Handler

theorem Action.ofTarget_noCycle (target : Target) : NoCycle (Action.ofTarget target) := by
  unfold ofTarget
  split
  · exact .ok _
  · exact .ok _
  · exact .ite (.error rfl) (.ok _)
  · exact .error rfl

namespace Handler

theorem makeEndpoint_noCycle (method : Value) (p : Pattern) (target : Target) :
    NoCycle (makeEndpoint method p target) :=
  .bind (methodOf_noCycle method) fun _ => .bind (Action.ofTarget_noCycle target) fun _ => .ok _

theorem makeConditional_noCycle (p : PredicateSpec) (target : Target) :
    NoCycle (makeConditional p target) := by
  have test : NoCycle (predicateOf p) := by
    cases p with
    | test p => exact .ok p
    | plain v => exact .error rfl
  exact .bind test fun _ => .bind (Action.ofTarget_noCycle target) fun _ => .ok _

end Handler

theorem Purpose.makeHandler_noCycle (p : Pattern) (target : Target) (purpose : Purpose) :
    NoCycle (purpose.makeHandler p target) := by
  cases purpose with
  | condition test => exact Handler.makeConditional_noCycle test target
  | endpoint method _ => exact Handler.makeEndpoint_noCycle method p target
  | shortcut method _ => exact Handler.makeEndpoint_noCycle _ p target
  | _ => exact .bind (Action.ofTarget_noCycle target) fun _ => .ok _

theorem Site.basePathOf_noCycle (v : Value) : NoCycle (Site.basePathOf v) := by
  unfold basePathOf
  split
  · exact .ok _
  · exact .ite (.error rfl) (.ok _)

theorem Router.isCycle_callRouter (r : Router) (target : Target) :
    (Exec.callRouter r target).isCycle = false := by
  unfold Exec.callRouter
  split
  · exact r.expect_noCycle _ _ _ ‹_›
  · rfl

def Ended.RefusedForCycle {α : Type} (e : Ended α) : Prop :=
  ∃ f, e.result = .error (.failed f) ∧ f.isCycle = true

namespace Exec

variable {α β : Type} {r : RouterRef}

/-- What leaves all routers as they are, and is not refused because of a cycle. -/
def Prepares (x : Exec α) : Prop :=
  ∀ w, (x w).world.routers = w.routers ∧ ¬ (x w).RefusedForCycle

theorem not_refusedForCycle {e : Ended α} {a : α} (h : e.result = .ok a) :
    ¬ e.RefusedForCycle := by
  rintro ⟨f, failed, -⟩
  rw [h] at failed
  cases failed

theorem noCycle_of_readPattern {p : PatternSpec} {compiled : Except Failure Pattern} {w : World}
    (read : (lift (readPattern p) w).result = .ok compiled) : NoCycle compiled := by
  cases p with
  | compiled source =>
    cases hc : Handler.compilePattern source with
    | error f =>
      have eq : readPattern (.compiled source) = .error f := by
        simp only [readPattern, hc]
        rfl
      rw [eq] at read
      cases read
    | ok p =>
      have eq : readPattern (.compiled source) = .ok (.ok p) := by
        simp only [readPattern, hc]
        rfl
      rw [eq] at read
      cases read
      exact .ok p
  | plain v =>
    cases read
    exact Handler.compilePattern_noCycle v

theorem noCycle_of_mapM {p? : Option PatternSpec} {compiled : Except Failure Pattern} {w : World}
    (read : (p?.mapM (fun p => lift (readPattern p)) w).result = .ok (some compiled)) :
    NoCycle compiled := by
  cases p? with
  | none => cases read
  | some p =>
    change ((some <$> lift (readPattern p)) w).result = _ at read
    rw [map_apply] at read
    refine noCycle_of_readPattern (p := p) (w := w) ?_
    cases hr : (lift (readPattern p) w).result with
    | error s => simp [hr, Except.map] at read
    | ok c => simpa [hr, Except.map] using read

namespace Prepares

theorem pure (a : α) : Prepares (Pure.pure a : Exec α) :=
  fun _ => ⟨rfl, not_refusedForCycle rfl⟩

theorem lift {x : Except Failure α} (h : NoCycle x) : Prepares (Exec.lift x) := by
  cases x with
  | ok a => exact pure a
  | error f =>
    refine fun _ => ⟨rfl, ?_⟩
    rintro ⟨g, ⟨⟩, cycle⟩
    rw [h f rfl] at cycle
    cases cycle

theorem fail {f : Failure} (h : f.isCycle = false) : Prepares (Exec.fail f : Exec α) :=
  lift (.error h)

theorem get : Prepares (MonadState.get : Exec World) :=
  fun _ => ⟨rfl, not_refusedForCycle rfl⟩

theorem router (r : RouterRef) : Prepares (Exec.router r) :=
  fun _ => ⟨rfl, not_refusedForCycle rfl⟩

theorem named (table : Assoc α) (name : String) : Prepares (Exec.named table name) := by
  unfold Exec.named
  split
  · exact pure _
  · refine fun _ => ⟨rfl, ?_⟩
    rintro ⟨f, ⟨⟩, -⟩

theorem bind_result {x : Exec α} {f : α → Exec β} (hx : Prepares x)
    (hf : ∀ w a, (x w).result = .ok a → Prepares (f a)) : Prepares (x >>= f) := by
  intro w
  obtain ⟨same, noCycle⟩ := hx w
  rw [bind_apply]
  rcases hw : x w with ⟨course, stop | a, w'⟩
  · rw [hw] at same noCycle
    refine ⟨same, ?_⟩
    rintro ⟨g, ⟨⟩, cycle⟩
    exact noCycle ⟨g, rfl, cycle⟩
  · rw [hw] at same
    have next := hf w a (by rw [hw]) w'
    exact ⟨next.1.trans same, next.2⟩

theorem bind {x : Exec α} {f : α → Exec β} (hx : Prepares x) (hf : ∀ a, Prepares (f a)) :
    Prepares (x >>= f) :=
  bind_result hx fun _ a _ => hf a

theorem ite {p : Prop} [Decidable p] {x y : Exec α} (hx : Prepares x) (hy : Prepares y) :
    Prepares (if p then x else y) := by
  split
  · exact hx
  · exact hy

theorem map (f : α → β) {x : Exec α} (hx : Prepares x) : Prepares (f <$> x) :=
  bind hx fun a => pure (f a)

theorem mapM {f : α → Exec β} (hf : ∀ a, Prepares (f a)) (o : Option α) :
    Prepares (o.mapM f) := by
  cases o with
  | none => exact pure none
  | some a => exact map some (hf a)

theorem expect (r : RouterRef) (name : String) (call : Call) : Prepares (Exec.expect r name call) :=
  bind (router r) fun target => lift (target.expect_noCycle name call)

theorem reach (r : RouterRef) (name : String) : Prepares (Exec.reach r name) :=
  bind (router r) fun target => lift (target.reach_noCycle name)

theorem expectOptions (parameters : List String) (options : Assoc Value) :
    Prepares (Exec.expectOptions parameters options) :=
  ite (fail rfl) (pure ())

theorem passesForAnother (h : Handler) : Prepares (Exec.passesForAnother h) := by
  cases h with
  | router inner => exact bind (router inner) fun _ => pure _
  | _ => exact pure false

theorem newCallable (label : String) (ownName : Option String) (body : List Instruction)
    (result : Value) : Prepares (Exec.newCallable label ownName body result) := by
  have serial : Prepares newSerial := fun _ => ⟨rfl, not_refusedForCycle rfl⟩
  exact bind serial fun _ => pure _

theorem buildTarget (a : ActionSpec) : Prepares (Exec.buildTarget a) := by
  cases a with
  | function label body result => exact map _ (newCallable _ _ _ _)
  | object label body result => exact map _ (newCallable _ _ _ _)
  | known id => exact bind get fun w => named _ _
  | named name => exact pure _
  | plain v => exact pure _

theorem readPattern (p : PatternSpec) : Prepares (Exec.lift (Exec.readPattern p)) := by
  cases p with
  | compiled source =>
    exact lift (.bind (Handler.compilePattern_noCycle source) fun _ => .ok _)
  | plain v => exact lift (.ok _)

theorem buildMount (p : PatternSpec) (child : ChildSpec) : Prepares (Exec.buildMount p child) := by
  refine bind_result (readPattern p) fun w compiled read => ?_
  cases child with
  | router id =>
    refine bind get fun w => bind (named _ _) fun r => bind (router r) fun target => ?_
    have mounts : Prepares (do return Handler.mount (← Exec.lift compiled) r) :=
      bind (lift (noCycle_of_readPattern read)) fun _ => pure _
    exact ite (bind (fail rfl) fun _ => mounts) mounts
  | plain v => exact fail (f := .mountNeedsRouter v) rfl

theorem action (a : ActionSpec) : Prepares (Exec.buildHandler.action a) :=
  bind (buildTarget a) fun target => lift (Action.ofTarget_noCycle target)

theorem buildHandler (h : HandlerSpec) : Prepares (Exec.buildHandler h) := by
  cases h with
  | callback a => exact bind (action a) fun _ => pure _
  | always a => exact bind (action a) fun _ => pure _
  | badMethod a => exact bind (action a) fun _ => pure _
  | conditional p a =>
    exact bind (buildTarget a) fun target => map _ (lift (Handler.makeConditional_noCycle p target))
  | route p a =>
    refine bind_result (readPattern p) fun w compiled read => bind (action a) fun _ => ?_
    exact bind (lift (noCycle_of_readPattern read)) fun _ => pure _
  | endpoint method p a =>
    refine bind_result (readPattern p) fun w compiled read => bind (buildTarget a) fun target => ?_
    refine bind (lift (Handler.methodOf_noCycle method)) fun _ => ?_
    refine bind (lift (Action.ofTarget_noCycle target)) fun _ => ?_
    exact bind (lift (noCycle_of_readPattern read)) fun _ => pure _
  | setNamespace v => exact bind (lift (Handler.nameSpaceOf_noCycle v)) fun _ => pure _
  | mount p child => exact map _ (buildMount p child)
  | configure v =>
    cases v with
    | null => exact pure _
    | _ => exact bind (lift (Site.basePathOf_noCycle _)) fun _ => pure _
  | router id => exact bind get fun w => bind (named _ _) fun _ => pure _
  | known id => exact bind get fun w => named _ _
  | custom kind result => exact pure _
  | plain v => exact pure _

theorem expectTaking (r : RouterRef) (verb : String) (h : HandlerArgument) (options : Assoc Value) :
    Prepares (Exec.expectTaking r verb h options) := by
  refine bind (router r) fun target => ?_
  split
  · next inner _ => exact bind (router inner) fun other => fail (other.isCycle_missing _)
  · exact expect r verb _
  · exact expect r verb _

theorem takeCall (r : RouterRef) (purpose : Purpose) (action? : Option Target)
    {compiled? : Option (Except Failure Pattern)} (options : Assoc Value)
    (compiles : Prepares (compiled?.mapM fun p => Exec.lift p)) :
    Prepares (Exec.takeCall r purpose action? compiled? options) := by
  refine bind (expect r _ _) fun _ => bind (expectOptions _ _) fun _ => ?_
  have inner : Prepares (purpose.innerVerb?.forM fun verb =>
      Exec.expect r verb (innerCall (Assoc.erase options actionOption))) := by
    cases purpose.innerVerb? with
    | none => exact pure ()
    | some verb => exact expect r verb _
  exact bind inner fun _ => bind compiles fun _ => bind (expect r _ _) fun _ => pure _

theorem openCall (r : RouterRef) (purpose : Purpose) (action? : Option Target)
    (options : Assoc Value) : Prepares (Exec.openCall r purpose action? options) := by
  refine bind_result (mapM readPattern purpose.pattern?) fun w compiled? read => ?_
  have compiles : Prepares (compiled?.mapM fun p => Exec.lift p) := by
    cases compiled? with
    | none => exact pure none
    | some compiled => exact map some (lift (noCycle_of_mapM read))
  refine bind (router r) fun target => ?_
  split
  · exact bind (fail (Override.isCycle_misuse _ _)) fun _ => pure _
  · exact takeCall r purpose action? options compiles

end Prepares

def HandsAction (options : Assoc Value) : Prop :=
  (Assoc.get? options actionOption).getD .null ≠ .null

end Exec

/-- Whether a call is a decorator with its action among the options. It registers that action, and
fails only then, since what it gives is no decorator. -/
def Registration.FailsLate : Registration → Prop
  | .mk (.action ..) options decorated => decorated = true ∧ Exec.HandsAction options
  | _ => False

namespace Exec

variable {α β : Type} {r : RouterRef}

/-- What came of a registration call: it ended before it reached the router, or a handler was handed
to the router, and it was refused because of a cycle only if that handler was. Nothing else fails
afterwards, unless the call is one that fails late. -/
inductive Registered (late : Prop) (r : RouterRef) (w : World) (e : Ended α) : Prop
  | aside (same : e.world.routers = w.routers) (noCycle : ¬ e.RefusedForCycle)
  | handed (v : World) (h : Handler) (error : Bool) (name : Value) (derived : Option String)
      (options : Assoc Value) (same : v.routers = w.routers)
      (changed : e.world.routers = (v.register r h error name derived options).2.routers)
      (refused : e.RefusedForCycle →
        ∃ f, (v.register r h error name derived options).1 = .error f ∧ f.isCycle = true)
      (failed : ∀ s, e.result = .error s →
        late ∨ ∃ f, (v.register r h error name derived options).1 = .error f)

/-- What registers at most one handler with a router. -/
def Registers (late : Prop) (r : RouterRef) (x : Exec α) : Prop := ∀ w, Registered late r w (x w)

namespace Registers

variable {late : Prop}

theorem of_prepares {x : Exec α} (hx : Prepares x) : Registers late r x :=
  fun w => .aside (hx w).1 (hx w).2

theorem settle (r : RouterRef) (h : Handler) (error : Bool) (name : Value)
    (derived : Option String) (options : Assoc Value) :
    Registers late r (Exec.settle fun w => w.register r h error name derived options) := by
  intro w
  have refused : (Exec.settle (fun w => w.register r h error name derived options) w).result =
      match (w.register r h error name derived options).1 with
      | .ok a => .ok a
      | .error f => .error (.failed f) := by
    cases answer : (w.register r h error name derived options).1 <;>
      simp [Exec.settle, bind_apply, answer, Exec.lift]
  refine .handed w h error name derived options rfl ?_ ?_ ?_
  · cases answer : (w.register r h error name derived options).1 <;>
      simp [Exec.settle, bind_apply, answer, Exec.lift]
  · rintro ⟨f, failed, cycle⟩
    rw [refused] at failed
    cases answer : (w.register r h error name derived options).1 with
    | ok a =>
      rw [answer] at failed
      cases failed
    | error g =>
      rw [answer] at failed
      cases failed
      exact ⟨_, rfl, cycle⟩
  · intro s failed
    rw [refused] at failed
    cases answer : (w.register r h error name derived options).1 with
    | ok a =>
      rw [answer] at failed
      cases failed
    | error g => exact .inr ⟨g, rfl⟩

theorem after {x : Exec α} {f : α → Exec β} (hx : Prepares x) (hf : ∀ a, Registers late r (f a)) :
    Registers late r (x >>= f) := by
  intro w
  obtain ⟨kept, noCycle⟩ := hx w
  rw [bind_apply]
  rcases hw : x w with ⟨course, stop | a, w'⟩
  · rw [hw] at kept noCycle
    refine .aside kept ?_
    rintro ⟨g, ⟨⟩, cycle⟩
    exact noCycle ⟨g, rfl, cycle⟩
  · rw [hw] at kept
    cases hf a w' with
    | aside same noCycle => exact .aside (same.trans kept) noCycle
    | handed v h error name derived options same changed refused failed =>
      exact .handed v h error name derived options (same.trans kept) changed refused failed

/-- What leaves the routers alone may come after a call; it may fail if the call is one that fails
late. -/
theorem before {x : Exec α} {f : α → Exec β} (hx : Registers late r x) (hf : ∀ a, Prepares (f a))
    (ends : late ∨ ∀ a w, ∃ b, (f a w).result = .ok b) : Registers late r (x >>= f) := by
  intro w
  have step := hx w
  rw [bind_apply]
  rcases hw : x w with ⟨course, stop | a, w'⟩
  · rw [hw] at step
    have ended : (Ended.andThen ⟨course, .error stop, w'⟩ f).RefusedForCycle →
        (⟨course, .error stop, w'⟩ : Ended α).RefusedForCycle := by
      rintro ⟨g, ⟨⟩, cycle⟩
      exact ⟨g, rfl, cycle⟩
    cases step with
    | aside same noCycle => exact .aside same fun refused => noCycle (ended refused)
    | handed v h error name derived options same changed refused failed =>
      refine .handed v h error name derived options same changed (fun h => refused (ended h)) ?_
      rintro _ ⟨⟩
      exact failed stop rfl
  · rw [hw] at step
    obtain ⟨kept, noCycle⟩ := hf a w'
    cases step with
    | aside same _ => exact .aside (kept.trans same) noCycle
    | handed v h error name derived options same changed _ _ =>
      refine .handed v h error name derived options same (kept.trans changed)
        (fun refused => absurd refused noCycle) fun s failed => ?_
      refine ends.imp_right fun ok => ?_
      obtain ⟨b, ends⟩ := ok a w'
      cases ends.symm.trans failed

theorem replying {x : Exec α} (hx : Registers late r x) (reply : β) :
    Registers late r (do let _ ← x; return reply) :=
  before hx (fun _ => .pure reply) (.inr fun _ _ => ⟨reply, rfl⟩)

theorem addHandler (r : RouterRef) (h : HandlerArgument) (error : Bool) (options : Assoc Value)
    (derived : Option String) : Registers late r (Exec.addHandler r h error options derived) := by
  refine after (.expect r _ _) fun _ => ?_
  cases h with
  | handler h =>
    have added : Registers late r _ := settle r h error ((Assoc.get? options "name").getD .null)
      derived (Assoc.erase options "name")
    refine after (.passesForAnother h) fun passes => ?_
    cases passes with
    | false => exact added
    | true => exact after (.fail rfl) fun _ => added
  | plain v => exact of_prepares (.fail rfl)

theorem addAction (r : RouterRef) (purpose : Purpose) (pattern? : Option Pattern) (target : Target)
    (options : Assoc Value) : Registers late r (Exec.addAction r purpose pattern? target options) :=
  after (.reach r _) fun _ => after (.lift (purpose.makeHandler_noCycle _ target)) fun h =>
    addHandler r (.handler h) _ _ _

theorem decorate (r : RouterRef) (purpose : Purpose) (target : Target) (options : Assoc Value) :
    Registers (HandsAction options) r (Exec.decorate r purpose target options) := by
  refine after (.openCall r purpose none options) fun opened => ?_
  cases opened with
  | answered v => exact of_prepares (.fail rfl)
  | taken pattern? =>
    dsimp only
    split
    · exact replying (addAction r purpose pattern? target _) _
    · next hands =>
      refine before (addAction r purpose pattern? _ _) (fun _ => ?_) (.inl hands)
      exact .bind (.router r) fun called => .fail (called.isCycle_callRouter target)

theorem registerAction (r : RouterRef) (purpose : Purpose) (a : ActionSpec) (options : Assoc Value)
    (decorated : Bool) : Registers (decorated = true ∧ HandsAction options) r
      (Exec.registerAction r purpose a options decorated) := by
  refine after (.buildTarget a) fun target => ?_
  cases decorated with
  | true => simpa using decorate r purpose target options
  | false =>
    refine after (.openCall r purpose (some target) options) fun opened => ?_
    split
    · exact of_prepares (.pure _)
    · exact of_prepares (.pure _)
    · exact replying (addAction r purpose _ target options) _

theorem registerHandler (r : RouterRef) (error : Bool) (h : HandlerSpec) (options : Assoc Value) :
    Registers late r (Exec.registerHandler r error h options) :=
  after (.buildHandler h) fun h => after (.expectTaking r _ h options) fun _ =>
    after (.expectOptions _ options) fun _ => addHandler r h error options none

theorem registerNamespace (r : RouterRef) (v : Value) (options : Assoc Value) :
    Registers late r (Exec.registerNamespace r v options) := by
  have added : Registers late r (do
      Exec.reach r "handler"
      let nameSpace ← Exec.lift (Handler.nameSpaceOf v)
      Exec.expect r "handler" .named
      Exec.addHandler r (.handler (.setNamespace nameSpace)) false options none) :=
    after (.reach r _) fun _ => after (.lift (Handler.nameSpaceOf_noCycle v)) fun _ =>
      after (.expect r _ _) fun _ => addHandler r _ _ _ _
  refine after (.expect r _ _) fun _ => ?_
  dsimp only
  split
  · exact after (.fail rfl) fun _ => added
  · exact added

theorem registerMount (r : RouterRef) (p : PatternSpec) (child : ChildSpec)
    (options : Assoc Value) :
    Registers late r (Exec.registerMount r p child options) :=
  after (.readPattern p) fun _ => after (.expect r _ _) fun _ => after (.expectOptions _ _) fun _ =>
    after (.reach r _) fun _ => after (.buildMount p child) fun _ =>
      after (.expectOptions _ _) fun _ => after (.expect r _ _) fun _ => addHandler r _ _ _ _

theorem register (r : RouterRef) (reg : Registration) :
    Registers reg.FailsLate r (Exec.register r reg) := by
  obtain ⟨subject, options, decorated⟩ := reg
  cases subject with
  | handler error h => exact replying (registerHandler r error h options) _
  | setNamespace v => exact replying (registerNamespace r v options) _
  | mount p child => exact replying (registerMount r p child options) _
  | action purpose a => exact registerAction r purpose a options decorated

end Registers
end Exec
end HandlerChains
