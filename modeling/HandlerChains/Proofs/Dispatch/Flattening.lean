import HandlerChains.Example.Routers
import HandlerChains.Proofs.Dispatch.Leaves
import HandlerChains.Proofs.Pattern.Prefix
import HandlerChains.Proofs.Router.Registration

/-!
# Trees of routers as single routers

A tree of mounts with simple patterns does what a single router does that has the leaves of the tree
in depth-first order, each behind the texts of the mounts above it. Both do what `judge` says of the
leaves: a mount cuts its text off the route in one way at most, so its router sees just what is left
for the leaves inside it.
-/

namespace HandlerChains

open Containment Pattern

/-- Handlers that stand behind the text `lead`, and the leaves that they come to in depth-first
order, each behind the texts of all mounts above it. -/
inductive Flattens (w : World) : (lead : String) → List Handler → List Leaf → Prop where
  | nil {lead} : Flattens w lead [] []
  | leaf {lead hs leaves} {l : Leaf} {p : Pattern} : compile l.pattern.source = .ok l.pattern →
      compile (lead ++ l.pattern.source) = .ok p → Flattens w lead hs leaves →
      Flattens w lead (l.handler :: hs) ({ l with pattern := p } :: leaves)
  | mount {lead hs inside leaves child} {p : Pattern} : compile p.source = .ok p →
      SimpleText p.source.toList → (w.router child).IsPlain →
      Flattens w (lead ++ p.source) ((w.router child).handlers.map Entry.handler) inside →
      Flattens w lead hs leaves → Flattens w lead (.mount p child :: hs) (inside ++ leaves)

namespace Flattens

variable {w : World} {lead : String} {hs : List Handler} {leaves : List Leaf}

theorem compiled (h : Flattens w lead hs leaves) :
    ∀ l ∈ leaves, compile l.pattern.source = .ok l.pattern := by
  induction h with
  | nil => simp
  | leaf _ hp _ ih =>
    rw [List.forall_mem_cons]
    exact ⟨compile_source hp, ih⟩
  | mount _ _ _ _ _ ihInside ih =>
    rw [List.forall_mem_append]
    exact ⟨ihInside, ih⟩

theorem of_compiled (w : World) (h : ∀ l ∈ leaves, compile l.pattern.source = .ok l.pattern) :
    Flattens w "" (leaves.map Leaf.handler) leaves := by
  induction leaves with
  | nil => exact .nil
  | cons l leaves ih =>
    rw [List.forall_mem_cons] at h
    have alone : compile ("" ++ l.pattern.source) = .ok l.pattern := by
      rw [String.empty_append]
      exact h.1
    exact .leaf h.1 alone (ih h.2)

theorem unmatched (h : Flattens w lead hs leaves) {t : Template} (leads : Leads lead.toList t)
    {route : String} (uncut : ∀ pieces rest, ¬ t.Cuts route.toList pieces rest) :
    ∀ l ∈ leaves, l.pattern.matchWhole? route = none := by
  induction h generalizing t with
  | nil => simp
  | leaf hl hp _ ih =>
    rw [List.forall_mem_cons]
    exact ⟨matchWhole?_uncut (leads.template_eq hl hp) uncut, ih leads uncut⟩
  | mount hp simple _ _ _ ihInside ih =>
    rw [List.forall_mem_append]
    refine ⟨?_, ih leads uncut⟩
    have both := leads.append (simple.leads_template hp)
    rw [← String.toList_append] at both
    apply ihInside both
    intro pieces rest cuts
    obtain ⟨first, middle, -, cuts, -⟩ := cuts.of_andThen
    exact uncut first middle cuts

end Flattens

namespace Handler

theorem children_leaf (l : Leaf) (hs : List Handler) :
    (l.handler :: hs).filterMap child? = hs.filterMap child? := by
  obtain ⟨_ | method, p, a⟩ := l <;> rfl

theorem children_mount (p : Pattern) (child : RouterRef) (hs : List Handler) :
    (mount p child :: hs).filterMap child? = child :: hs.filterMap child? := rfl

end Handler

namespace Router

variable {r : Router}

theorem IsPlain.children_eq (h : r.IsPlain) :
    r.children = (r.handlers.map Entry.handler).filterMap Handler.child? := by
  simp [children, entries, h.errorHandlers, List.filterMap_map]

theorem entry_at {i : Nat} {h : Handler} {hs : List Handler}
    (from_here : (r.handlers.drop i).map Entry.handler = h :: hs) :
    ∃ e, r.handlers[i]? = some e ∧ e.handler = h ∧
      (r.handlers.drop (i + 1)).map Entry.handler = hs := by
  cases hd : r.handlers.drop i with
  | nil => simp [hd] at from_here
  | cons e others =>
    rw [hd, List.map_cons, List.cons.injEq] at from_here
    obtain ⟨rfl, rfl⟩ := from_here
    refine ⟨e, ?_, rfl, ?_⟩
    · rw [← List.head?_drop, hd]
      rfl
    · rw [← List.tail_drop, hd]
      rfl

end Router

namespace Flattens

variable {w : World} {lead : String} {hs : List Handler} {leaves : List Leaf}

theorem acc (h : Flattens w lead hs leaves) :
    ∀ s ∈ hs.filterMap Handler.child?, Acc (fun s r => s ∈ w.children r) s := by
  induction h with
  | nil => simp
  | leaf _ _ _ ih => rwa [Handler.children_leaf]
  | mount _ _ plain _ _ ihInside ih =>
    rw [Handler.children_mount, List.forall_mem_cons]
    refine ⟨.intro _ fun s hs => ihInside s ?_, ih⟩
    rwa [World.children, plain.children_eq] at hs

theorem fits {r : RouterRef} (plain : (w.router r).IsPlain)
    (h : Flattens w lead ((w.router r).handlers.map Entry.handler) leaves) :
    Fits w.children (Dispatch.depthFor w) r := by
  have ends : Acc (fun s r => s ∈ w.children r) r := by
    constructor
    intro s hs
    rw [World.children, plain.children_eq] at hs
    exact h.acc s hs
  apply (fits_of_loopless w.children_outside (loopless_of_acc ends)).mono
  rw [Dispatch.depthFor, Dispatch.spareLevels]
  omega

end Flattens

theorem Small.router_isPlain (handlers : List Handler) : (Small.router handlers).IsPlain where
  run := rfl
  recover := rfl
  errorHandlers := rfl
  layers := by simp [Small.router, Small.entry]

namespace Dispatch

open Exec

variable {calls : Calls} {inner : RouterRef → ContextRef → Exec Value} {c : ContextRef}
variable {w v : World} {route : Value} {text rest whole : String} {captured more : Params}
variable {offered : List String} {j : Judgement}

theorem At.enter (h : At c w route captured offered v) (more : Params) (rest : String) :
    At c w (.text rest) (captured ++ more) offered
      (v.setContext c (enterMount more rest (v.context c))) where
  same := h.same.setContext _
  context := by
    obtain ⟨parameters, merged, kept⟩ := h.context
    refine ⟨some (Assoc.merge (parameters.getD []) more.values), ?_, ?_⟩
    · rw [Option.getD_some, merged, ← Assoc.merge_append, ← Params.values_append]
    · rw [World.context_setContext_self, kept]
      rfl

theorem At.leave {v' : World} {route' : Value} {offered' : List String}
    (h : At c w route captured offered v)
    (inside : At c w route' more offered' v') :
    At c w route captured offered'
      (v'.setContext c (leaveMount (v.context c) (some (.bool false)) (v'.context c))) where
  same := inside.same.setContext _
  context := by
    obtain ⟨parameters, merged, kept⟩ := h.context
    obtain ⟨_, -, kept'⟩ := inside.context
    refine ⟨parameters, merged, ?_⟩
    rw [World.context_setContext_self, kept, kept']
    rfl

theorem handleMount_comes {p : Pattern} {child : RouterRef}
    (h : At c w (.text text) captured offered v) (found : p.matchStart? text = some (more, rest))
    (inside : ∀ v', At c w (.text rest) (captured ++ more) offered v' →
      Comes .bool c w (.text rest) (captured ++ more) offered j (inner child c v')) :
    Comes .bool c w (.text text) captured offered j (handleMount inner p child c v) := by
  obtain ⟨result, served, methods, goesOn, fails⟩ := inside _ (h.enter more rest)
  rw [handleMount_inside inner h.demandRoute_eq found]
  refine ⟨result, served, ?_, fun declined => ?_, fun f failed => ?_⟩
  · rw [World.context_setContext_self, methods_leaveMount, methods]
  · dsimp only
    rw [result, declined]
    exact h.leave (goesOn declined)
  · exact ⟨(fails f failed).1, (fails f failed).2⟩

/-- A plain router comes to what a walk along all its handlers comes to, if there is room for what
is inside it. -/
theorem run_comes {r : RouterRef} {depth : Nat} (same : w.SameBut c v)
    (plain : (w.router r).IsPlain) (fits : Fits w.children depth r)
    (walked : ∀ depth, (∀ s ∈ ((w.router r).handlers.map Entry.handler).filterMap Handler.child?,
        Fits w.children depth s) →
      Comes id c w route captured offered j (walk calls (run calls depth) r c 0
        ((w.router r).handlers.map Entry.handler).length v)) :
    Comes .bool c w route captured offered j (run calls depth r c v) := by
  cases depth with
  | zero => exact fits.elim
  | succ depth =>
    have inside : ∀ s ∈ ((w.router r).handlers.map Entry.handler).filterMap Handler.child?,
        Fits w.children depth s := by
      rw [← plain.children_eq]
      exact fits
    have own : Assoc.get? (v.router r).overrides "run" = none := by
      rw [same.router_eq]
      exact plain.run
    have level : runLevel calls (run calls depth) r c v = walk calls (run calls depth) r c 0
        ((w.router r).handlers.map Entry.handler).length v := by
      rw [runLevel_apply, same.router_eq, walk, List.range_eq_range', List.length_map]
    obtain ⟨result, served, methods, goesOn, fails⟩ := walked depth inside
    rw [run_own calls own, level]
    refine ⟨?_, ?_, methods, goesOn, fails⟩
    · dsimp only
      rw [result]
      cases j.verdict <;> rfl
    · rw [Course.served_stage c rfl, served]

/-- A mount comes to what is judged of the leaves behind it, if its router does wherever the text of
the mount can be cut off. -/
theorem handleMount_judged {lead : String} {hs : List Handler} {leaves : List Leaf}
    (h : Flattens w lead hs leaves) {t : Template} {p : Pattern} (straight : t.Straight)
    (leads : Leads lead.toList (t.andThen p.template)) {pieces : Pieces} {left : List Char}
    (cuts : t.Cuts whole.toList pieces left) {child : RouterRef}
    (start : At c w (.text (String.ofList left)) (captures pieces) offered v)
    (inside : ∀ pieces' left' v', (t.andThen p.template).Cuts whole.toList pieces' left' →
      At c w (.text (String.ofList left')) (captures pieces') offered v' →
      Comes .bool c w (.text (String.ofList left')) (captures pieces') offered
        (judge (w.context c).method whole leaves) (inner child c v')) :
    Comes .bool c w (.text (String.ofList left)) (captures pieces) offered
      (judge (w.context c).method whole leaves) (handleMount inner p child c v) := by
  obtain ⟨lost, uncut⟩ | ⟨more, left', cuts', found⟩ := matchStart?_cases p (String.ofList left)
  · have uncutWhole : ∀ pieces rest, ¬ (t.andThen p.template).Cuts whole.toList pieces rest := by
      intro pieces' rest both
      obtain ⟨first, middle, second, before, after⟩ := both.of_andThen
      obtain ⟨-, rfl⟩ := straight.cuts_unique cuts before
      exact uncut second rest (by rwa [String.toList_ofList])
    have declined : handleMount inner p child c v = ⟨.done, .ok (.bool false), v⟩ := by
      simp [handleMount, bind_apply, Exec.lift, start.demandRoute_eq, lost]
    rw [declined, judge_unmatched (h.unmatched leads uncutWhole)]
    exact .declined start
  · rw [String.toList_ofList] at cuts'
    apply handleMount_comes start found
    intro v' there
    rw [← captures_append] at there ⊢
    exact inside _ _ v' (cuts.andThen cuts') there

/-- A walk along handlers of a tree comes to what is judged of the leaves, if the texts of the
mounts above them can be cut off the whole route and leave the route as it is there. -/
theorem walk_judged {lead : String} {hs : List Handler} {leaves : List Leaf}
    (h : Flattens w lead hs leaves) (steady : ∀ l ∈ leaves, Steady calls c w l.action)
    {t : Template} (leads : Leads lead.toList t) {pieces : Pieces} {left : List Char}
    (cuts : t.Cuts whole.toList pieces left) {depth : Nat}
    (fits : ∀ s ∈ hs.filterMap Handler.child?, Fits w.children depth s) {r : RouterRef}
    (plain : (w.router r).IsPlain) {i : Nat}
    (from_here : ((w.router r).handlers.drop i).map Entry.handler = hs)
    (start : At c w (.text (String.ofList left)) (captures pieces) offered v) :
    Comes id c w (.text (String.ofList left)) (captures pieces) offered
      (judge (w.context c).method whole leaves)
      (walk calls (run calls depth) r c i hs.length v) := by
  induction h generalizing t pieces left depth r i offered v with
  | nil => exact walk_comes_nil start r i
  | @leaf lead hs leaves l p hl hp _ ih =>
    rw [Handler.children_leaf] at fits
    rw [List.forall_mem_cons] at steady
    obtain ⟨e, he, handler, from_next⟩ := Router.entry_at from_here
    have behind := matchWhole?_behind leads.straight (leads.template_eq hl hp) cuts
    have first := leaf_comes (run calls depth) (show Steady calls c w l.action from steady.1) start
    rw [← behind, ← handler] at first
    apply walk_comes_cons start.same plain he first
    intro _ v' there
    exact ih steady.2 leads cuts fits plain from_next there
  | @mount lead hs inside leaves child p hp simple plainChild flattens _ ihInside ih =>
    rw [Handler.children_mount, List.forall_mem_cons] at fits
    rw [List.forall_mem_append] at steady
    obtain ⟨e, he, handler, from_next⟩ := Router.entry_at from_here
    have both := leads.append (simple.leads_template hp)
    rw [← String.toList_append] at both
    -- the router inside takes one of the levels, and the leaves behind its mount are judged alike
    have runs : ∀ pieces' left' v', (t.andThen p.template).Cuts whole.toList pieces' left' →
        At c w (.text (String.ofList left')) (captures pieces') offered v' →
        Comes .bool c w (.text (String.ofList left')) (captures pieces') offered
          (judge (w.context c).method whole inside) (run calls depth child c v') := by
      intro pieces' left' v' cuts' there
      apply run_comes there.same plainChild fits.1
      intro depth fitsInside
      exact ihInside steady.1 both cuts' fitsInside plainChild (by rw [List.drop_zero]) there
    have first : Comes .bool c w (.text (String.ofList left)) (captures pieces) offered
        (judge (w.context c).method whole inside)
        (handle calls (run calls depth) e.handler c v) := by
      rw [handler]
      exact .stage rfl (handleMount_judged flattens leads.straight both cuts start runs)
    rw [judge_append]
    apply walk_comes_cons start.same plain he first
    intro _ v' there
    exact ih steady.2 leads cuts fits.2 plain from_next there

theorem run_judged {leaves : List Leaf} {r : RouterRef} (plain : (w.router r).IsPlain)
    (h : Flattens w "" ((w.router r).handlers.map Entry.handler) leaves)
    (steady : ∀ l ∈ leaves, Steady calls c w l.action) (start : At c w (.text whole) [] offered w) :
    Comes .bool c w (.text whole) [] offered (judge (w.context c).method whole leaves)
      (run calls (depthFor w) r c w) := by
  have start' : At c w (.text (String.ofList whole.toList)) (captures []) offered w := by
    rw [String.ofList_toList]
    exact start
  apply run_comes (.refl w) plain (h.fits plain)
  intro depth fits
  have walked := walk_judged h steady .nil (.done _) fits plain (by rw [List.drop_zero]) start'
  rwa [String.ofList_toList] at walked

theorem handle_unrouted (calls : Calls) (inner : RouterRef → ContextRef → Exec Value)
    {lead : String} {h : Handler} {hs : List Handler} {leaves : List Leaf}
    (flattens : Flattens w lead (h :: hs) leaves) {f : Failure}
    (unrouted : (w.context c).demandRoute = .error f) (start : At c w route captured offered w) :
    Comes .bool c w route captured offered ⟨.failed f, []⟩ (handle calls inner h c w) := by
  have fails : ∀ x : Exec Value, x w = ⟨.done, .error (.failed f), w⟩ →
      Comes .bool c w route captured offered ⟨.failed f, []⟩ (within (.handler h) x w) := by
    intro x failed
    apply Comes.stage rfl
    rw [failed]
    exact .failed start (Context.demandRoute_ordinary unrouted)
  cases flattens with
  | @leaf _ _ _ l _ _ _ _ =>
    obtain ⟨_ | method, p, a⟩ := l
    · apply fails (handleRoute calls p a c)
      simp [handleRoute, capture, bind_apply, Exec.lift, unrouted]
    · apply fails (handleEndpoint calls method p a c)
      simp [handleEndpoint, capture, bind_apply, Exec.lift, unrouted]
  | @mount _ _ _ _ child p _ _ _ _ _ =>
    apply fails (handleMount inner p child c)
    simp [handleMount, bind_apply, Exec.lift, unrouted]

/-- Without a text as the route a tree fails as soon as it has any handler. -/
theorem run_unrouted (calls : Calls) {leaves : List Leaf} {r : RouterRef}
    (plain : (w.router r).IsPlain)
    (h : Flattens w "" ((w.router r).handlers.map Entry.handler) leaves) {f : Failure}
    (unrouted : (w.context c).demandRoute = .error f) (start : At c w route captured offered w) :
    Comes .bool c w route captured offered
      (if (w.router r).handlers = [] then ⟨.declined, []⟩ else ⟨.failed f, []⟩)
      (run calls (depthFor w) r c w) := by
  apply run_comes (.refl w) plain (h.fits plain)
  intro depth _
  cases hs : (w.router r).handlers with
  | nil => exact walk_comes_nil start r 0
  | cons e es =>
    rw [hs, List.map_cons] at h
    have he : (w.router r).handlers[0]? = some e := by
      rw [hs]
      rfl
    have first := handle_unrouted calls (run calls depth) h unrouted start
    have walked : Comes id c w route captured offered
        (Judgement.andThen ⟨.failed f, []⟩ ⟨.declined, []⟩)
        (walk calls (run calls depth) r c 0 ((es.map Entry.handler).length + 1) w) :=
      walk_comes_cons (.refl w) plain he first nofun
    exact walked

theorem dispatch_comes {r : RouterRef}
    (h : Comes .bool c w route captured offered j (run calls (depthFor w) r c w)) :
    (dispatch calls r c w).result = .ok j.verdict.outcome ∧
      (dispatch calls r c w).course.served c = j.verdict.served ∧
      ((dispatch calls r c w).world.context c).methods = offeredMethods (offered ++ j.offered) := by
  obtain ⟨result, served, methods, -, fails⟩ := h
  have ran : runRouter calls r c w =
      ⟨(run calls (depthFor w) r c w).course, j.verdict.result.map .bool,
        (run calls (depthFor w) r c w).world⟩ := by
    rw [← result]
    simp [runRouter, bind_apply]
  rw [← served, ← methods]
  cases hv : j.verdict with
  | matched a found =>
    rw [hv] at ran
    simp [dispatch, bind_apply, attempt_ok ran, Verdict.outcome, Value.isTruthy]
  | declined =>
    rw [hv] at ran
    simp [dispatch, bind_apply, attempt_ok ran, Verdict.outcome, Value.isTruthy]
  | failed f =>
    rw [hv] at ran
    obtain ⟨ordinary, -⟩ := fails f hv
    simp [dispatch, bind_apply, attempt_failed ran ordinary, Verdict.outcome, debug_apply]

/-- A tree of routers and the router that holds its leaves come to the same judgement. -/
theorem runs_alike {tree flat : RouterRef} {leaves : List Leaf} (plain : (w.router tree).IsPlain)
    (flattens : Flattens w "" ((w.router tree).handlers.map Entry.handler) leaves)
    (plainFlat : (w.router flat).IsPlain)
    (holds : (w.router flat).handlers.map Entry.handler = leaves.map Leaf.handler)
    (steady : ∀ l ∈ leaves, Steady calls c w l.action)
    (start : At c w (w.context c).route [] offered w)
    (routed : (∃ s, (w.context c).route = .text s) ∨ leaves ≠ [] ∨ (w.router tree).handlers = []) :
    ∃ j, (∀ a captured, j.verdict = .matched a captured → ∃ l ∈ leaves, l.action = a) ∧
      Comes .bool c w (w.context c).route [] offered j (run calls (depthFor w) tree c w) ∧
      Comes .bool c w (w.context c).route [] offered j (run calls (depthFor w) flat c w) := by
  have itself : Flattens w "" ((w.router flat).handlers.map Entry.handler) leaves := by
    rw [holds]
    exact .of_compiled w flattens.compiled
  cases hr : (w.context c).demandRoute with
  | ok s =>
    rw [Context.demandRoute_eq_ok_iff.1 hr] at start ⊢
    exact ⟨_, fun _ _ => judge_matched, run_judged plain flattens steady start,
      run_judged plainFlat itself steady start⟩
  | error f =>
    have same : (w.router flat).handlers = [] ↔ (w.router tree).handlers = [] := by
      have leafless : (w.router flat).handlers = [] ↔ leaves = [] := by
        rw [← List.map_eq_nil_iff (f := Entry.handler), holds, List.map_eq_nil_iff]
      rw [leafless]
      constructor
      · intro none
        obtain ⟨s, text⟩ | some | empty := routed
        · rw [Context.demandRoute_eq_ok_iff.2 text] at hr
          cases hr
        · exact absurd none some
        · exact empty
      · intro empty
        rw [empty] at flattens
        cases flattens
        rfl
    have treeFails := run_unrouted calls plain flattens hr start
    have flatFails := run_unrouted calls plainFlat itself hr start
    simp only [same] at flatFails
    refine ⟨_, ?_, treeFails, flatFails⟩
    intro a captured hv
    split at hv <;> cases hv

/-- A tree of routers with simple mounts is dispatched as the single router is that holds its leaves
in depth-first order, each behind the texts of the mounts above it: the results are the same, the
same action is called or none, with the same parameters, and the same methods are offered. Without a
route this is so unless the tree has mounts without any leaf. -/
theorem dispatch_flattened {tree flat : RouterRef} {leaves : List Leaf}
    (plain : (w.router tree).IsPlain)
    (flattens : Flattens w "" ((w.router tree).handlers.map Entry.handler) leaves)
    (plainFlat : (w.router flat).IsPlain)
    (holds : (w.router flat).handlers.map Entry.handler = leaves.map Leaf.handler)
    (steady : ∀ l ∈ leaves, Steady calls c w l.action)
    (parameters : (w.context c).parameters = none)
    (methods : (w.context c).methods = .list [])
    (routed : (∃ s, (w.context c).route = .text s) ∨ leaves ≠ [] ∨
      (w.router tree).handlers = []) :
    let e := dispatch calls tree c w
    let e' := dispatch calls flat c w
    (∃ outcome, e.result = .ok outcome ∧ e'.result = .ok outcome) ∧
      (∃ called, e.course.served c = called ∧ e'.course.served c = called ∧
        (called = [] ∨ ∃ l ∈ leaves, ∃ found, called = [(l.action, some found)])) ∧
      (e.world.context c).methods = (e'.world.context c).methods := by
  obtain ⟨j, ours, tree', flat'⟩ :=
    runs_alike plain flattens plainFlat holds steady (.start parameters methods) routed
  obtain ⟨result, served, offered⟩ := dispatch_comes tree'
  obtain ⟨result', served', offered'⟩ := dispatch_comes flat'
  refine ⟨⟨_, result, result'⟩, ⟨_, served, served', ?_⟩, offered.trans offered'.symm⟩
  cases hv : j.verdict with
  | matched a captured =>
    obtain ⟨l, hl, rfl⟩ := ours a captured hv
    exact .inr ⟨l, hl, _, rfl⟩
  | declined => exact .inl rfl
  | failed f => exact .inl rfl

def groupPattern : Pattern := ⟨":u/", ["u"], .segment "u" false (.literal '/' .done)⟩

def userPattern : Pattern := ⟨":id", ["id"], .segment "id" true .done⟩

/-- A leaf of its own, and users in groups, for whom there are two more leaves. -/
def groupedLeaves : List Leaf :=
  [⟨none, ⟨":u/a", ["u"], .segment "u" false (.literal '/' (.literal 'a' .done))⟩, Small.action []⟩,
    ⟨some "PUT", ⟨":u/:id", ["u", "id"],
      .segment "u" false (.literal '/' (.segment "id" true .done))⟩, Small.action []⟩,
    ⟨none, Small.letter 'a', Small.action []⟩]

/-- A router of users inside another one, and the router that holds the leaves of both. -/
def groupedUsers : World :=
  let letter := Handler.route (Small.letter 'a') (Small.action [])
  Small.world
    [Small.router [.mount groupPattern 1, letter],
      Small.router [letter, .endpoint "PUT" userPattern (Small.action [])],
      Small.router (groupedLeaves.map Leaf.handler)]
    { route := .text "me/", method := .text "put" }

theorem groupedUsers_flattens :
    Flattens groupedUsers "" ((groupedUsers.router 0).handlers.map Entry.handler)
      groupedLeaves := by
  have letter : compile "a" = .ok (Small.letter 'a') := by decide +kernel
  have simple : SimpleText groupPattern.source.toList := by
    have text : groupPattern.source.toList = ':' :: (['u'] ++ '/' :: []) := by decide +kernel
    rw [text]
    exact .placeholder ⟨by decide, by simp⟩ .nil
  have users : Flattens groupedUsers ("" ++ groupPattern.source)
      ((groupedUsers.router 1).handlers.map Entry.handler) (groupedLeaves.take 2) :=
    .leaf (l := ⟨none, Small.letter 'a', Small.action []⟩) letter (by decide +kernel)
      (.leaf (l := ⟨some "PUT", userPattern, Small.action []⟩) (by decide +kernel)
        (by decide +kernel) .nil)
  have alone : Flattens groupedUsers "" [.route (Small.letter 'a') (Small.action [])]
      (groupedLeaves.drop 2) :=
    .leaf (l := ⟨none, Small.letter 'a', Small.action []⟩) letter letter .nil
  have plain : (groupedUsers.router 1).IsPlain := Small.router_isPlain _
  exact .mount (by decide +kernel) simple plain users alone

theorem groupedUsers_dispatch_flattened :
    let e := dispatch Small.calls 0 0 groupedUsers
    let e' := dispatch Small.calls 2 0 groupedUsers
    (∃ outcome, e.result = .ok outcome ∧ e'.result = .ok outcome) ∧
      e.course.served 0 = [(Small.action [], some [("u", .text "me"), ("id", .text "")])] ∧
      (e.world.context 0).methods = (e'.world.context 0).methods := by
  have same : ∀ l ∈ groupedLeaves, l.action = Small.action [] := by simp [groupedLeaves]
  have steady : ∀ l ∈ groupedLeaves, Steady Small.calls 0 groupedUsers l.action := by
    intro l hl
    rw [same l hl]
    exact fun _ _ _ => ⟨⟨_, rfl⟩, rfl⟩
  have tree : (groupedUsers.router 0).IsPlain := Small.router_isPlain _
  have flat : (groupedUsers.router 2).IsPlain := Small.router_isPlain _
  obtain ⟨result, ⟨called, served, served', -⟩, methods⟩ :=
    dispatch_flattened tree groupedUsers_flattens flat rfl steady rfl rfl (.inl ⟨_, rfl⟩)
  refine ⟨result, ?_, methods⟩
  rw [served, ← served']
  rfl

/-- A router with nothing but an empty one inside it, and a router that holds its leaves, which are
none. -/
def leaflessMount : World :=
  Small.world [Small.router [.mount (Small.letter 'a') 1], Small.router [], Small.router []]

/-- Without a route the mount fails, and there is no leaf to fail in the same way. -/
theorem leaflessMount_differs :
    ((leaflessMount.router 0).IsPlain ∧ (leaflessMount.router 2).IsPlain ∧
      Flattens leaflessMount "" ((leaflessMount.router 0).handlers.map Entry.handler) [] ∧
      (leaflessMount.router 2).handlers = [] ∧
      (leaflessMount.context 0).parameters = none ∧
      (leaflessMount.context 0).methods = .list []) ∧
    (dispatch Small.calls 0 0 leaflessMount).result =
      .ok (.failed (.missingField "remaining_route")) ∧
    (dispatch Small.calls 2 0 leaflessMount).result = .ok .notMatched := by
  have letter : compile "a" = .ok (Small.letter 'a') := by decide +kernel
  have simple : SimpleText (Small.letter 'a').source.toList := by
    have text : (Small.letter 'a').source.toList = ['a'] := by decide +kernel
    rw [text]
    exact .literal (by decide) (by decide) (by decide) (by decide) .nil
  have flattens : Flattens leaflessMount ""
      ((leaflessMount.router 0).handlers.map Entry.handler) [] := by
    have plain : (leaflessMount.router 1).IsPlain := Small.router_isPlain _
    exact .mount letter simple plain .nil .nil
  exact ⟨⟨Small.router_isPlain _, Small.router_isPlain _, flattens, rfl, rfl, rfl⟩, rfl, rfl⟩

end Dispatch
end HandlerChains
