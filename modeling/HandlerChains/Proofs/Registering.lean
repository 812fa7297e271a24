import HandlerChains.Declared.Construct
import HandlerChains.Proofs.Execution

/-!
# Invariants of registration calls

A registration call builds what is handed to it, checks how it is called, and hands at most handlers
to its router. A relation that holds of each handler that is handed over, and of whatever is aside
from the routers and the log, holds of all registration calls: of those that scripts make, and of
those by which a new router is filled.
-/

namespace HandlerChains

open Exec

/-- A relation that holds of what is aside from the routers and the log, and of each handler that is
handed to a router. -/
structure RegistrationInvariant (R : World → Course → World → Prop) : Prop extends Composes R where
  aside : ∀ {w w' : World}, w'.routers = w.routers → w'.log = w.log → R w .done w'
  register : ∀ w r h error name derived options,
    R w .done (World.register w r h error name derived options).2

variable {R : World → Course → World → Prop}

/-- Whether a relation holds of what methods do in the place of verbs. -/
def Answers [Answering] (R : World → Course → World → Prop) : Prop :=
  ∀ r f purpose action? options, Respects R (Answering.answer r f purpose action? options)

theorem Composes.answers (hR : Composes R) : Answers R := fun _ _ _ _ _ => .fail hR _

namespace Exec.Respects

variable (hR : Composes R) (r : RouterRef)

include hR

theorem expect (name : String) (call : Call) : Respects R (Exec.expect r name call) :=
  .bind hR (.router hR r) fun _ => .lift hR _

theorem reach (name : String) : Respects R (Exec.reach r name) :=
  .bind hR (.router hR r) fun _ => .lift hR _

theorem expectOptions (parameters : List String) (options : Assoc Value) :
    Respects R (Exec.expectOptions parameters options) :=
  .ite (.fail hR _) (.pure hR _)

theorem optionMapM {α β : Type} (o : Option α) {f : α → Exec β} (hf : ∀ a, Respects R (f a)) :
    Respects R (o.mapM f) := by
  cases o with
  | none => exact .pure hR _
  | some a => exact .map hR _ (hf a)

theorem takeCall (purpose : Purpose) (action? : Option Target)
    (compiled? : Option (Except Failure Pattern)) (options : Assoc Value) :
    Respects R (Exec.takeCall r purpose action? compiled? options) := by
  have inner : Respects R (purpose.innerVerb?.forM fun verb =>
      Exec.expect r verb (innerCall (Assoc.erase options actionOption))) := by
    cases purpose.innerVerb? with
    | none => exact .pure hR _
    | some verb => exact .expect hR r verb _
  refine .bind hR (.expect hR r _ _) fun _ => .bind hR (.expectOptions hR _ _) fun _ => ?_
  exact .bind hR inner fun _ => .bind hR (.optionMapM hR _ fun _ => .lift hR _) fun _ =>
    .bind hR (.expect hR r _ _) fun _ => .pure hR _

theorem openCall [Answering] (answers : Answers R) (purpose : Purpose) (action? : Option Target)
    (options : Assoc Value) : Respects R (Exec.openCall r purpose action? options) := by
  refine .bind hR (.optionMapM hR _ fun _ => .lift hR _) fun compiled? =>
    .bind hR (.router hR r) fun _ => ?_
  split
  · exact .bind hR (answers r _ purpose action? options) fun _ => .pure hR _
  · exact .takeCall hR r purpose action? compiled? options

end Exec.Respects

theorem unchanged_composes : Composes fun w _ w' => w' = w where
  done _ := rfl
  append first second := second.trans first

namespace RegistrationInvariant

theorem changed (h : RegistrationInvariant R) {f : World → World}
    (routers : ∀ w, (f w).routers = w.routers) (log : ∀ w, (f w).log = w.log) :
    Respects R (modify f : Exec Unit) :=
  .modify fun w => h.aside (routers w) (log w)

theorem changeContext (h : RegistrationInvariant R) (c : ContextRef) (f : Context → Context) :
    Respects R (Exec.changeContext c f) :=
  h.changed (fun _ => rfl) fun _ => rfl

theorem record (h : RegistrationInvariant R) (e : Event) : Respects R (Exec.record e) :=
  h.changed (fun _ => rfl) fun _ => rfl

/-! ## Building -/

theorem newSerial (h : RegistrationInvariant R) : Respects R Exec.newSerial :=
  fun _ => h.aside rfl rfl

theorem buildTarget (h : RegistrationInvariant R) (a : ActionSpec) :
    Respects R (Exec.buildTarget a) := by
  have hR := h.toComposes
  have callable : ∀ label ownName body result,
      Respects R (newCallable label ownName body result) :=
    fun _ _ _ _ => .bind hR h.newSerial fun _ => .pure hR _
  cases a with
  | function label body result => exact .map hR _ (callable _ _ _ _)
  | object label body result => exact .map hR _ (callable _ _ _ _)
  | known id => exact .bind hR (.get hR) fun _ => .named hR _ _
  | named name => exact .pure hR _
  | plain v => exact .pure hR _

theorem buildRows (h : RegistrationInvariant R) (rows : List (String × ActionSpec)) :
    Respects R (Exec.buildRows rows) := by
  have hR := h.toComposes
  induction rows with
  | nil => exact .pure hR _
  | cons row rows ih =>
    exact .bind hR (h.buildTarget row.2) fun _ => .bind hR ih fun _ => .pure hR _

theorem buildMount (h : RegistrationInvariant R) (p : PatternSpec) (child : ChildSpec) :
    Respects R (Exec.buildMount p child) := by
  have hR := h.toComposes
  refine .bind hR (.lift hR _) fun p => ?_
  cases child with
  | router id =>
    have mounts : ∀ r, Respects R (do return Handler.mount (← Exec.lift p) r) :=
      fun r => .bind hR (.lift hR _) fun _ => .pure hR _
    exact .bind hR (.get hR) fun _ => .bind hR (.named hR _ _) fun r => .bind hR (.router hR r)
      fun _ => .ite (.bind hR (.fail hR _) fun _ => mounts r) (mounts r)
  | plain v => exact .fail hR _

theorem buildHandler (h : RegistrationInvariant R) (spec : HandlerSpec) :
    Respects R (Exec.buildHandler spec) := by
  have hR := h.toComposes
  have action : ∀ a, Respects R (Exec.buildHandler.action a) :=
    fun a => .bind hR (h.buildTarget a) fun _ => .lift hR _
  cases spec with
  | callback a => exact .bind hR (action a) fun _ => .pure hR _
  | always a => exact .bind hR (action a) fun _ => .pure hR _
  | badMethod a => exact .bind hR (action a) fun _ => .pure hR _
  | conditional p a => exact .bind hR (h.buildTarget a) fun _ => .map hR _ (.lift hR _)
  | route p a =>
    exact .bind hR (.lift hR _) fun _ => .bind hR (action a) fun _ => .bind hR (.lift hR _)
      fun _ => .pure hR _
  | endpoint method p a =>
    exact .bind hR (.lift hR _) fun _ => .bind hR (h.buildTarget a) fun _ => .bind hR (.lift hR _)
      fun _ => .bind hR (.lift hR _) fun _ => .bind hR (.lift hR _) fun _ => .pure hR _
  | setNamespace v => exact .bind hR (.lift hR _) fun _ => .pure hR _
  | mount p child => exact .map hR _ (h.buildMount p child)
  | configure v =>
    cases v with
    | null => exact .pure hR _
    | _ => exact .bind hR (.lift hR _) fun _ => .pure hR _
  | router id => exact .bind hR (.get hR) fun _ => .bind hR (.named hR _ _) fun _ => .pure hR _
  | known id => exact .bind hR (.get hR) fun _ => .named hR _ _
  | custom kind result => exact .pure hR _
  | plain v => exact .pure hR _

theorem buildConfig (h : RegistrationInvariant R) (spec : ConfigSpec) :
    Respects R (Exec.buildConfig spec) := by
  have hR := h.toComposes
  cases spec with
  | site settings => exact .bind hR (.lift hR _) fun _ => .pure hR _
  | object attributes => exact .pure hR _
  | plain v => cases v <;> exact .pure hR _

theorem buildResolver (h : RegistrationInvariant R) (spec : ResolverSpec) :
    Respects R (Exec.buildResolver spec) := by
  have hR := h.toComposes
  cases spec with
  | modules => exact .pure hR _
  | registry id => exact .bind hR (.get hR) fun _ => .bind hR (.named hR _ _) fun _ => .pure hR _
  | table rows => exact .bind hR (h.buildRows rows) fun _ => .pure hR _
  | plain v => exact .pure hR _

theorem assign (h : RegistrationInvariant R) (ctx : Context) (a : Assignment) :
    Respects R (Exec.assign ctx a) := by
  have hR := h.toComposes
  cases a with
  | config v => exact .bind hR (h.buildConfig v) fun _ => .pure hR _
  | resolver v => exact .bind hR (h.buildResolver v) fun _ => .pure hR _
  | unknown name v => exact .fail hR _
  | _ => exact .pure hR _

theorem addContext (h : RegistrationInvariant R) (ctx : Context) :
    Respects R (Exec.addContext ctx) :=
  fun _ => h.aside rfl rfl

theorem assignEach (h : RegistrationInvariant R) (ctx : Context) (fields : List Assignment) :
    Respects R (Exec.assignEach ctx fields) := by
  have hR := h.toComposes
  induction fields generalizing ctx with
  | nil => exact .pure hR ctx
  | cons a fields ih => exact .bind hR (h.assign ctx a) fun ctx => ih ctx

theorem buildContext (h : RegistrationInvariant R) (spec : ContextSpec) :
    Respects R (Exec.buildContext spec) := by
  have hR := h.toComposes
  cases spec with
  | known id => exact .bind hR (.get hR) fun w => .named hR _ _
  | fresh fields => exact .bind hR (h.assignEach _ fields) fun ctx => h.addContext ctx

mutual

theorem buildItem (h : RegistrationInvariant R) (item : ModuleItemSpec) :
    Respects R (Exec.buildItem item) := by
  have hR := h.toComposes
  cases item with
  | action a =>
    cases a with
    | known id => exact .pure hR _
    | _ => exact .map hR _ (h.buildTarget _)
  | space items => exact .bind hR (buildItems h items) fun _ => .pure hR _

theorem buildItems (h : RegistrationInvariant R) (items : List (String × ModuleItemSpec)) :
    Respects R (Exec.buildItems items) := by
  have hR := h.toComposes
  cases items with
  | nil => exact .pure hR _
  | cons item items =>
    exact .bind hR (buildItem h item.2) fun _ => .bind hR (buildItems h items) fun _ => .pure hR _

end

theorem buildSources (h : RegistrationInvariant R) (sources : List (String × ModuleSource)) :
    Respects R (Exec.buildSources sources) := by
  have hR := h.toComposes
  induction sources with
  | nil => exact .pure hR _
  | cons source sources ih =>
    obtain ⟨name, items, failure⟩ := source
    exact .bind hR (h.buildItems _) fun _ => .bind hR ih fun _ => .pure hR _

/-! ## Registration calls -/

section

variable (h : RegistrationInvariant R) (r : RouterRef)

include h

theorem passesForAnother (a : Handler) : Respects R (Exec.passesForAnother a) := by
  have hR := h.toComposes
  cases a with
  | router inner => exact .bind hR (.router hR inner) fun _ => .pure hR _
  | _ => exact .pure hR _

theorem addHandler (a : HandlerArgument) (error : Bool) (options : Assoc Value)
    (derived : Option String) : Respects R (Exec.addHandler r a error options derived) := by
  have hR := h.toComposes
  refine .bind hR (.expect hR r _ _) fun _ => ?_
  cases a with
  | handler a =>
    have added : Respects R (settle fun w => w.register r a error
        ((Assoc.get? options "name").getD .null) derived (Assoc.erase options "name")) :=
      .settle fun w => h.register w r a error _ derived _
    exact .bind hR (h.passesForAnother a) fun _ => .ite (.bind hR (.fail hR _) fun _ => added) added
  | plain v => exact .fail hR _

theorem addAction (purpose : Purpose) (pattern? : Option Pattern) (target : Target)
    (options : Assoc Value) : Respects R (Exec.addAction r purpose pattern? target options) := by
  have hR := h.toComposes
  exact .bind hR (.reach hR r _) fun _ => .bind hR (.lift hR _) fun _ => h.addHandler r _ _ _ _

theorem decorate [Answering] (answers : Answers R) (purpose : Purpose) (target : Target)
    (options : Assoc Value) : Respects R (Exec.decorate r purpose target options) := by
  have hR := h.toComposes
  refine .bind hR (.openCall hR r answers purpose none options) fun opened => ?_
  cases opened with
  | answered v => exact .fail hR _
  | taken pattern? =>
    dsimp only
    split
    · exact .bind hR (h.addAction r purpose pattern? target _) fun _ => .pure hR _
    · exact .bind hR (h.addAction r purpose pattern? _ _) fun _ => .bind hR (.router hR r)
        fun _ => .fail hR _

theorem registerAction [Answering] (answers : Answers R) (purpose : Purpose) (a : ActionSpec)
    (options : Assoc Value) (decorated : Bool) :
    Respects R (Exec.registerAction r purpose a options decorated) := by
  have hR := h.toComposes
  refine .bind hR (h.buildTarget a) fun target =>
    .ite (h.decorate r answers purpose target options) ?_
  refine .bind hR (.openCall hR r answers purpose _ options) fun opened => ?_
  split
  · exact .pure hR _
  · exact .pure hR _
  · exact .bind hR (h.addAction r purpose _ target options) fun _ => .pure hR _

theorem expectTaking (verb : String) (a : HandlerArgument) (options : Assoc Value) :
    Respects R (Exec.expectTaking r verb a options) := by
  have hR := h.toComposes
  refine .bind hR (.router hR r) fun _ => ?_
  split
  · exact .bind hR (.router hR _) fun _ => .fail hR _
  · exact .expect hR r verb _
  · exact .expect hR r verb _

theorem registerHandler (error : Bool) (a : HandlerSpec) (options : Assoc Value) :
    Respects R (Exec.registerHandler r error a options) := by
  have hR := h.toComposes
  exact .bind hR (h.buildHandler a) fun _ => .bind hR (h.expectTaking r _ _ options) fun _ =>
    .bind hR (.expectOptions hR _ _) fun _ => h.addHandler r _ _ _ _

theorem registerNamespace (v : Value) (options : Assoc Value) :
    Respects R (Exec.registerNamespace r v options) := by
  have hR := h.toComposes
  have added : Respects R (do
      Exec.reach r "handler"
      let nameSpace ← Exec.lift (Handler.nameSpaceOf v)
      Exec.expect r "handler" .named
      Exec.addHandler r (.handler (.setNamespace nameSpace)) false options none) :=
    .bind hR (.reach hR r _) fun _ => .bind hR (.lift hR _) fun _ => .bind hR (.expect hR r _ _)
      fun _ => h.addHandler r _ _ _ _
  exact .bind hR (.expect hR r _ _) fun _ => .ite (.bind hR (.fail hR _) fun _ => added) added

theorem registerMount (p : PatternSpec) (child : ChildSpec) (options : Assoc Value) :
    Respects R (Exec.registerMount r p child options) := by
  have hR := h.toComposes
  refine .bind hR (.lift hR _) fun _ => .bind hR (.expect hR r _ _) fun _ => ?_
  refine .bind hR (.expectOptions hR _ _) fun _ => .bind hR (.reach hR r _) fun _ => ?_
  refine .bind hR (h.buildMount p child) fun _ => .bind hR (.expectOptions hR _ _) fun _ => ?_
  exact .bind hR (.expect hR r _ _) fun _ => h.addHandler r _ _ _ _

/-- A registration call hands at most handlers to its router. -/
theorem registers [Answering] (answers : Answers R) (reg : Registration) :
    Respects R (Exec.register r reg) := by
  have hR := h.toComposes
  obtain ⟨subject, options, decorated⟩ := reg
  cases subject with
  | handler error a => exact .bind hR (h.registerHandler r error a options) fun _ => .pure hR _
  | setNamespace v => exact .bind hR (h.registerNamespace r v options) fun _ => .pure hR _
  | mount p child => exact .bind hR (h.registerMount r p child options) fun _ => .pure hR _
  | action purpose a => exact h.registerAction r answers purpose a options decorated

end

/-! ## Filling new routers -/

section

variable (h : RegistrationInvariant R)

include h

theorem registerMark [Answering] (answers : Answers R) (r : RouterRef) (f : Callable) (m : Marker) :
    Respects R (Exec.registerMark r f m) := by
  have hR := h.toComposes
  have argument : ∀ name v?, Respects R (markedArgument name v?) := by
    intro name v?
    cases v? with
    | none => exact .fail hR _
    | some v => exact .pure hR v
  have purpose : Respects R (markedPurpose m) := by
    unfold markedPurpose
    split
    · exact .bind hR (argument _ _) fun _ => .pure hR _
    · exact .bind hR (argument _ _) fun _ => .bind hR (argument _ _) fun _ => .pure hR _
    · exact .bind hR (argument _ _) fun _ => .bind hR (argument _ _) fun _ => .pure hR _
    all_goals exact .pure hR _
  refine .bind hR purpose fun purpose => .bind hR (.openCall hR r answers purpose _ _)
    fun opened => ?_
  cases opened with
  | taken pattern? => exact h.addAction r purpose pattern? _ _
  | answered v => exact .pure hR ()

theorem registerMarked [Answering] (answers : Answers R) (r : RouterRef) (c : RouterClass) :
    Respects R (Exec.registerMarked r c) := by
  have hR := h.toComposes
  refine .bind hR (.expect hR r _ _) fun _ => .bind hR (.expect hR r _ _) fun _ => ?_
  exact .forM hR (fun m => .forM hR (fun mark => h.registerMark answers r _ mark) _) _

theorem registerBuiltin (r : RouterRef) (tier : Tier) (basePath : Value) :
    Respects R (Exec.registerBuiltin r tier basePath) := by
  have hR := h.toComposes
  refine .bind hR (.expect hR r _ _) fun _ => ?_
  cases tier with
  | application =>
    exact .bind hR (h.buildHandler _) fun _ => .bind hR (.expect hR r _ _) fun _ =>
      h.addHandler r _ _ _ _
  | _ => exact .pure hR ()

theorem performSetup [Answering] (answers : Answers R) (r : RouterRef) :
    Respects R (Exec.performSetup r) := by
  have hR := h.toComposes
  refine .bind hR (.router hR r) fun _ => ?_
  split
  · exact .forM hR (fun reg => .bind hR (h.registers r answers reg) fun _ => .pure hR _) _
  · exact .bind hR (.router hR r) fun _ => .fail hR _
  · exact .pure hR ()

end

end RegistrationInvariant
end HandlerChains
