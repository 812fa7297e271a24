import HandlerChains.Example.Routers
import HandlerChains.Proofs.Declared.Construction

/-!
# What a class has under a name

What an attribute of a class is decides the first class of its line that has a member of that name.
Marked methods are found by a walk from the far end of the line, which puts in, replaces and takes
out. It comes to the same as looking from the near end, but at functions only: a nearer member that
is no function, and hides the method from lookup, does not stand in its way.
-/

namespace HandlerChains

/-- Whether a member is a function that the routers of a class have as a method of its name. -/
def ClassMember.isFunction (name : String) : ClassMember → Bool
  | method _ => name ∉ RouterClass.classLevelNames
  | setup _ | function => true
  | constant _ | place | field => false

def ClassMember.marked? : ClassMember → Option Method
  | method m => if m.markers.isEmpty then none else some m
  | _ => none

theorem ClassMember.marked?_eq_some {x : ClassMember} {m : Method} :
    x.marked? = some m ↔ x = .method m ∧ m.markers ≠ [] := by
  cases x with
  | method m' =>
    have eq : (method m').marked? = if m'.markers.isEmpty then none else some m' := rfl
    rw [eq]
    by_cases bare : m'.markers = []
    · simp only [bare, List.isEmpty_nil, if_pos, reduceCtorEq, method.injEq, false_iff]
      rintro ⟨rfl, marked⟩
      exact marked bare
    · simp only [List.isEmpty_iff, bare, if_false, Option.some.injEq, method.injEq, iff_self_and]
      rintro rfl
      exact bare
  | _ => simp [marked?]

namespace RouterClass

open Assoc Exec

variable {c : RouterClass} {name : String}

/-- What an attribute of a class is: the member of the first class in its line that has one. -/
def lookup (c : RouterClass) (name : String) : Option ClassMember :=
  c.line.findSome? fun b => get? b.members name

/-- The function in the first class of the line that has one under a name. -/
def nearestFunction (c : RouterClass) (name : String) : Option ClassMember :=
  c.line.findSome? fun b => (get? b.members name).filter (ClassMember.isFunction name)

theorem nearestFunction_of_lookup
    (visible : ∀ x, c.lookup name = some x → x.isFunction name = true) :
    c.nearestFunction name = c.lookup name := by
  have along : ∀ line : List ClassBody,
      (∀ x, line.findSome? (fun b => get? b.members name) = some x → x.isFunction name = true) →
      line.findSome? (fun b => (get? b.members name).filter (ClassMember.isFunction name)) =
        line.findSome? fun b => get? b.members name := by
    intro line visible
    induction line with
    | nil => rfl
    | cons b rest ih =>
      rw [List.findSome?_cons] at visible
      rw [List.findSome?_cons, List.findSome?_cons]
      cases here : get? b.members name with
      | none =>
        rw [here] at visible
        exact ih visible
      | some x =>
        rw [here] at visible
        simp [Option.filter, visible x rfl]
  exact along c.line visible

/-! ## Walking along a line -/

/-- Going along a line from its far end, where members that count for something are written over
what is there, is looking from its near end for the first member that counts. -/
theorem get?_foldl_line {α : Type} {step : Assoc α → String × ClassMember → Assoc α}
    {counts : ClassMember → Bool} {value : ClassMember → Option α}
    (written : ∀ t k x, get? (step t (k, x)) name =
      if k = name then (if counts x then value x else get? t name) else get? t name)
    {line : List ClassBody} (consistent : ∀ b ∈ line, Consistent b.members) :
    get? ((line.reverse.flatMap ClassBody.members).foldl step []) name =
      (line.findSome? fun b => (get? b.members name).filter counts).bind value := by
  let write (x : ClassMember) (o : Option α) : Option α := if counts x then value x else o
  have again : ∀ x o, write x (write x o) = write x o := by
    intro x o
    by_cases here : counts x = true <;> simp [write, here]
  induction line with
  | nil => rfl
  | cons b rest ih =>
    obtain ⟨near, far⟩ := List.forall_mem_cons.1 consistent
    rw [List.reverse_cons, List.flatMap_append, List.foldl_append, List.flatMap_singleton,
      get?_foldl written again near, ih far, List.findSome?_cons]
    cases get? b.members name with
    | none => rfl
    | some x => by_cases here : counts x = true <;> simp [Option.filter, here]

theorem members_eq (c : RouterClass) :
    c.members = (c.line.reverse.flatMap ClassBody.members).foldl (fun t row => put t row.1 row.2)
      [] := by
  rw [List.foldl_flatMap]
  rfl

/-- The members of a class are what lookup finds. -/
theorem get?_members (consistent : ∀ b ∈ c.line, Consistent b.members) (name : String) :
    get? c.members name = c.lookup name := by
  let any : ClassMember → Bool := fun _ => true
  have written : ∀ (t : Assoc ClassMember) k x, get? (put t k x) name =
      if k = name then (if any x then some x else get? t name) else get? t name := by
    intro t k x
    split
    · next same => rw [same, get?_put_self]; rfl
    · next other => exact get?_put_of_ne t x (Ne.symm other)
  have all : ∀ o : Option ClassMember, o.filter any = o := by rintro (_ | x) <;> rfl
  rw [members_eq, get?_foldl_line written consistent]
  simp [lookup, all]

theorem markStep_eq (marked : Assoc Method) (k : String) (x : ClassMember) :
    markStep marked (k, x) =
      if x.isFunction k then x.marked?.elim (erase marked k) (put marked k) else marked := by
  cases x with
  | method m =>
    by_cases classLevel : k ∈ classLevelNames
    · simp [markStep, ClassMember.isFunction, classLevel]
    · by_cases bare : m.markers.isEmpty = true <;>
        simp [markStep, ClassMember.isFunction, ClassMember.marked?, classLevel, bare]
  | _ => rfl

theorem get?_markStep (marked : Assoc Method) (k : String) (x : ClassMember) :
    get? (markStep marked (k, x)) name =
      if k = name then (if x.isFunction name then x.marked? else get? marked name)
      else get? marked name := by
  rw [markStep_eq]
  by_cases same : k = name
  · subst same
    cases x.marked? <;> by_cases function : x.isFunction k = true <;> simp [function]
  · rw [if_neg same]
    split
    · cases x.marked? with
      | none => exact get?_erase_of_ne marked (Ne.symm same)
      | some m => exact get?_put_of_ne marked m (Ne.symm same)
    · rfl

theorem nodup_markStep {marked : Assoc Method} (distinct : (names marked).Nodup)
    (row : String × ClassMember) : (names (markStep marked row)).Nodup := by
  rw [markStep_eq marked row.1 row.2]
  split
  · cases row.2.marked? with
    | none => exact nodup_names_erase distinct row.1
    | some m => exact nodup_names_put distinct row.1 m
  · exact distinct

/-- What is marked under a name is what the nearest function of the name has on it. -/
theorem get?_markedMethods (consistent : ∀ b ∈ c.line, Consistent b.members) (name : String) :
    get? c.markedMethods name = (c.nearestFunction name).bind ClassMember.marked? := by
  rw [markedMethods, get?_foldl_line get?_markStep consistent, nearestFunction]

theorem nodup_markedMethods (c : RouterClass) : (names c.markedMethods).Nodup := by
  have along : ∀ (rows : Assoc ClassMember) (marked : Assoc Method), (names marked).Nodup →
      (names (rows.foldl markStep marked)).Nodup := by
    intro rows
    induction rows with
    | nil => exact fun _ distinct => distinct
    | cons row rest ih => exact fun _ distinct => ih _ (nodup_markStep distinct row)
  exact along _ [] List.nodup_nil

/-! ## Declared classes -/

/-- The classes of all hierarchies: those of the library, and those that are made of others. -/
inductive IsDeclared : RouterClass → Prop
  | builtin {title : String} {c : RouterClass} (known : (title, c) ∈ RouterClass.builtin) :
      IsDeclared c
  | extend {title : String} {serial : Nat} {bases : List RouterClass} {c : RouterClass}
      {members : Assoc ClassMember} (declared : ∀ b ∈ bases, IsDeclared b)
      (made : extend title serial bases (merge [] members) = .ok c) : IsDeclared c

/-- Rows of one name in the table of a class are all the same. -/
def IsConsistent (c : RouterClass) : Prop := ∀ b ∈ c.line, Consistent b.members

theorem isConsistent_builtin {title : String} (known : (title, c) ∈ RouterClass.builtin) :
    c.IsConsistent := by
  have plain : Consistent ([] : Assoc ClassMember) := nofun
  have pluggable : Consistent (ownMembers Library.pluggableFunctions
      (Library.pluggableFields ++ Library.fieldNames)) := consistent_of_nodup (by decide +kernel)
  have application : Consistent (ownMembers Library.applicationFunctions
      Library.applicationFields) := consistent_of_nodup (by decide +kernel)
  rw [builtin, List.mem_cons, List.mem_cons, List.mem_singleton] at known
  rcases known with ⟨⟨⟩⟩ | ⟨⟨⟩⟩ | ⟨⟨⟩⟩
  · exact List.forall_mem_cons.2 ⟨plain, nofun⟩
  · exact List.forall_mem_cons.2 ⟨pluggable, List.forall_mem_cons.2 ⟨plain, nofun⟩⟩
  · exact List.forall_mem_cons.2 ⟨application, List.forall_mem_cons.2
      ⟨pluggable, List.forall_mem_cons.2 ⟨plain, nofun⟩⟩⟩

theorem mem_lineOf {body b : ClassBody} {bases : List RouterClass} {line : List ClassBody}
    (made : lineOf body bases = some line) (mem : b ∈ line) :
    b = body ∨ ∃ base ∈ bases, b ∈ base.line := by
  unfold lineOf at made
  cases serials : Linearization.ofBases body.serial
      (bases.filterMap fun c => c.serials.head?) (bases.map RouterClass.serials) with
  | none =>
    rw [serials] at made
    cases made
  | some order =>
    rw [serials] at made
    cases made
    refine (List.mem_cons.1 mem).imp_right fun later => ?_
    obtain ⟨serial, -, found⟩ := List.mem_filterMap.1 later
    exact List.mem_flatMap.1 (List.mem_of_find?_eq_some found)

theorem extend_eq_ok {title : String} {serial : Nat} {bases : List RouterClass}
    {members : Assoc ClassMember} (made : extend title serial bases members = .ok c) :
    ∃ listed added body, addedPlaces title members listed = .ok added ∧
      expectTitle members = .ok () ∧ lineOf body bases = some c.line ∧
      body.members = recordNames.foldl erase
        (erase members titleName ++ added.map fun place => (place, ClassMember.place)) := by
  unfold extend at made
  cases widest : widest? bases with
  | none =>
    rw [widest] at made
    cases made
  | some base =>
    rw [widest] at made
    obtain ⟨places, -, made⟩ := of_bind_ok made
    obtain ⟨_, -, made⟩ := of_bind_ok made
    obtain ⟨added, brought, made⟩ := of_bind_ok made
    obtain ⟨_, -, made⟩ := of_bind_ok made
    obtain ⟨_, titled, made⟩ := of_bind_ok made
    dsimp only at made
    split at made
    · next line agreed =>
      cases made
      exact ⟨_, added, _, brought, titled, agreed, rfl⟩
    · cases made

theorem fresh_addedPlaces {title place : String} {members : Assoc ClassMember}
    {listed added : List String} (titled : expectTitle members = .ok ())
    (brought : addedPlaces title members listed = .ok added) (mem : place ∈ added) :
    place ∉ names (erase members titleName) := by
  have absent : hasMember members place = false := by
    unfold addedPlaces at brought
    dsimp only at brought
    split at brought
    · cases brought
    · next none =>
      cases brought
      simpa using fun has => none (List.any_eq_true.2 ⟨place, mem, has⟩)
  have noCell : Assoc.has members cellName = false := by
    by_contra there
    rw [Bool.not_eq_false] at there
    unfold expectTitle at titled
    rw [if_pos there] at titled
    split at titled <;> cases titled
  intro listed
  obtain ⟨row, kept, rfl⟩ := List.mem_map.1 listed
  obtain ⟨declared, other⟩ := List.mem_filter.1 kept
  have other : row.1 ≠ titleName := of_decide_eq_true other
  have has : Assoc.has members row.1 = true := has_iff_mem_names.2 (List.mem_map_of_mem declared)
  have notCell : row.1 ≠ cellName := by
    intro same
    rw [same, noCell] at has
    cases has
  simp [hasMember, other, notCell, has] at absent

theorem isConsistent_extend {title : String} {serial : Nat} {bases : List RouterClass}
    {members : Assoc ClassMember} (consistent : ∀ base ∈ bases, base.IsConsistent)
    (made : extend title serial bases (merge [] members) = .ok c) : c.IsConsistent := by
  obtain ⟨listed, added, body, brought, titled, line, own⟩ := extend_eq_ok made
  have places : Consistent (added.map fun place => (place, ClassMember.place)) := by
    refine consistent_of_all (v := .place) fun row mem => ?_
    obtain ⟨place, -, rfl⟩ := List.mem_map.1 mem
    rfl
  have declared : Consistent (merge [] members) :=
    consistent_of_nodup (nodup_names_merge (t := []) List.nodup_nil members)
  have whole : Consistent (erase (merge [] members) titleName ++
      added.map fun place => (place, ClassMember.place)) := by
    refine (declared.erase titleName).append places fun name mem => ?_
    refine fresh_addedPlaces titled brought ?_
    simpa [names] using mem
  intro b mem
  obtain rfl | ⟨base, mem, inherited⟩ := mem_lineOf line mem
  · rw [own]
    exact (whole.erase _).erase _
  · exact consistent base mem b inherited

theorem IsDeclared.isConsistent (declared : c.IsDeclared) : c.IsConsistent := by
  induction declared with
  | builtin known => exact isConsistent_builtin known
  | extend _ made ih => exact isConsistent_extend ih made

/-- What a class has nothing under is not in the place of what its routers have by themselves. -/
theorem get?_overrides_eq_none (declared : c.IsDeclared) (absent : c.lookup name = none) :
    get? c.overrides name = none := by
  rw [← get?_members declared.isConsistent] at absent
  refine get?_eq_none fun listed => not_mem_names absent ?_
  obtain ⟨row, mem, rfl⟩ := List.mem_map.1 listed
  obtain ⟨⟨k, x⟩, member, made⟩ := List.mem_filterMap.1 mem
  obtain ⟨o, -, rfl⟩ := Option.map_eq_some_iff.1 made
  exact List.mem_map_of_mem member

/-- The marked methods of a class are the nearest functions of their names that have marks. -/
theorem mem_markedMethods (declared : c.IsDeclared) {m : Method} :
    (name, m) ∈ c.markedMethods ↔ c.nearestFunction name = some (.method m) ∧ m.markers ≠ [] := by
  rw [(consistent_of_nodup (nodup_markedMethods c)).mem_iff,
    get?_markedMethods declared.isConsistent, Option.bind_eq_some_iff]
  constructor
  · rintro ⟨x, nearest, marked⟩
    obtain ⟨rfl, marks⟩ := ClassMember.marked?_eq_some.1 marked
    exact ⟨nearest, marks⟩
  · rintro ⟨nearest, marked⟩
    exact ⟨_, nearest, ClassMember.marked?_eq_some.2 ⟨rfl, marked⟩⟩

end RouterClass

/-! ## Worlds with declared classes -/

def World.Declares (w : World) : Prop :=
  ∀ title c, Assoc.get? w.classes title = some c → c.IsDeclared

theorem World.declares_of_builtin {w : World} (builtin : w.classes = RouterClass.builtin) :
    w.Declares :=
  fun _ _ known => .builtin (Assoc.mem_of_get? (builtin ▸ known))

namespace Exec

variable {w w' : World}

def KeepsClasses (w : World) (_ : Course) (w' : World) : Prop := w'.classes = w.classes

theorem keepsClasses_composes : Composes KeepsClasses where
  done _ := rfl
  append first second := second.trans first

theorem readMember_keepsClasses (className : String) (m : Member) :
    Respects KeepsClasses (readMember className m) := by
  have hR := keepsClasses_composes
  cases m with
  | constant name v => exact .pure hR _
  | setup rs => exact .pure hR _
  | method name markings body result =>
    refine .bind hR (.lift hR _) fun _ => .bind hR (.bind hR ?_ fun _ => .pure hR _) fun _ =>
      .pure hR _
    exact fun _ => rfl

/-- Declaring a class of declared ones makes another one. -/
theorem declareClass_declares {title : String} {bases : List String} {members : List Member}
    (declares : w.Declares) (returns : Returns (declareClass title bases members) w () w') :
    w'.Declares := by
  have hR := keepsClasses_composes
  obtain ⟨_, _, reads, returns⟩ := returns.of_bind
  obtain ⟨rfl, rfl⟩ := reads.of_get
  obtain ⟨classes, w₁, finds, returns⟩ := returns.of_bind
  have declared : ∀ b ∈ classes, b.IsDeclared := by
    refine finds.of_mapM fun base v b v' returns => ?_
    unfold named at returns
    split at returns
    · next known =>
      obtain ⟨rfl, -⟩ := returns.of_pure
      exact declares _ _ known
    · cases returns.result
  obtain ⟨read, w₂, reads, returns⟩ := returns.of_bind
  obtain ⟨serial, w₃, counts, returns⟩ := returns.of_bind
  obtain ⟨c, _, makes, returns⟩ := returns.of_bind
  obtain ⟨made, rfl⟩ := makes.of_lift
  obtain ⟨_, w₄, extensible, puts⟩ := returns.of_bind
  have kept : w₄.classes = w.classes := by
    have found : w₁.classes = w.classes := finds.world ▸ Respects.mapM hR (.named hR _) bases w
    have read : w₂.classes = w₁.classes :=
      reads.world ▸ Respects.mapM hR (readMember_keepsClasses title) members w₁
    have counted : w₃.classes = w₂.classes := counts.world ▸ rfl
    have checked : w₄.classes = w₃.classes :=
      extensible.world ▸ Respects.forM hR (fun _ => .lift hR _) classes w₃
    rw [checked, counted, read, found]
  rw [← puts.world]
  intro other d known
  have known : Assoc.get? (Assoc.put w₄.classes title c) other = some d := known
  by_cases same : other = title
  · rw [same, Assoc.get?_put_self] at known
    cases known
    exact .extend declared made
  · rw [Assoc.get?_put_of_ne _ _ same, kept] at known
    exact declares other d known

/-- Making a router of a class registers, besides what its tier and its setup do, one entry for each
mark of each marked method, which calls that method as the mark says. For a mark whose verb the
class has a member of its own for, that one is called instead, and registers what it likes. At most
one method is marked under a name: the nearest function of that name, if it has marks. Where an
attribute is a function, or is not there, that is what lookup finds. -/
theorem makeRouter_registers_nearest [Answering] {c : RouterClass} {id className : String}
    {name description : Value} {basePath : Option Value} (adds : AnswersAdd) (declares : w.Declares)
    (known : Assoc.get? w.classes className = some c)
    (made : (makeRouter id className name description basePath w).result = .ok ()) :
    let w' := (makeRouter id className name description basePath w).world
    (∃ (own setUp : List Entry) (marked : List (List Entry)),
      (∀ error, (w'.router w.routers.length).chain error =
        (own ++ marked.flatten ++ setUp).filter fun e => e.error == error) ∧
      Begins (basePath.getD .null) c.tier own ∧
      List.Forall₂ c.Gives c.registrations marked ∧
      (c.lookup "initialize" = none → setUp = [])) ∧
    (Assoc.names c.markedMethods).Nodup ∧
    ∀ attr m,
      ((attr, m) ∈ c.markedMethods ↔
        c.nearestFunction attr = some (.method m) ∧ m.markers ≠ []) ∧
      ((∀ x, c.lookup attr = some x → x.isFunction attr = true) →
        ((attr, m) ∈ c.markedMethods ↔
          c.lookup attr = some (.method m) ∧ m.markers ≠ [])) := by
  intro w'
  have declared : c.IsDeclared := declares className c known
  refine ⟨?_, c.nodup_markedMethods, fun attr m =>
    ⟨RouterClass.mem_markedMethods declared, fun visible => ?_⟩⟩
  · obtain ⟨own, marked, setUp, ⟨gains, -⟩, begins, makes, none⟩ :=
      makeRouter_takes adds known (.of_result made)
    refine ⟨own, setUp, marked, fun error => ?_, begins, makes, fun absent => none ?_⟩
    · rw [gains.chain]
      cases error <;> rfl
    · exact RouterClass.get?_overrides_eq_none declared absent
  · rw [RouterClass.mem_markedMethods declared, RouterClass.nearestFunction_of_lookup visible]

def pageMethod (name path : String) : Member :=
  .method name [⟨.route, [.text path], []⟩] [] .null

def bareMethod (name : String) : Member := .method name [] [] .null

/-- Declares a class that inherits from another one along two lines. -/
def declareDiamond : Exec Unit := do
  declareClass "Pages" ["Router"] [pageMethod "home" "", pageMethod "about" "about"]
  declareClass "Quiet" ["Pages"] [bareMethod "about"]
  declareClass "Loud" ["Pages"] [pageMethod "home" "home"]
  declareClass "Site" ["Quiet", "Loud"] []

def diamond : World := (declareDiamond (Small.world [])).world

theorem diamond_declares : diamond.Declares := by
  have returns : Returns declareDiamond (Small.world []) () diamond := ⟨by cbv, rfl⟩
  obtain ⟨_, _, pages, returns⟩ := returns.of_bind
  obtain ⟨_, _, quiet, returns⟩ := returns.of_bind
  obtain ⟨_, _, loud, last⟩ := returns.of_bind
  have builtin : (Small.world []).Declares := World.declares_of_builtin rfl
  have both := declareClass_declares (declareClass_declares builtin pages) quiet
  exact declareClass_declares (declareClass_declares both loud) last

def classOf (w : World) (title : String) : RouterClass :=
  (Assoc.get? w.classes title).getD RouterClass.plain

theorem get?_classOf {title : String} (there : (Assoc.get? w.classes title).isSome = true) :
    Assoc.get? w.classes title = some (classOf w title) := by
  obtain ⟨c, known⟩ := Option.isSome_iff_exists.1 there
  rw [classOf, known, Option.getD_some]

def siteClass : RouterClass := classOf diamond "Site"

/-- The nearest `home` is a page, but not in the first base; the nearest `about` is none. -/
theorem siteClass_lookups :
    ((siteClass.lookup "home").bind ClassMember.marked?).map (fun m => m.callable.label) =
        some "Loud.home" ∧
      (siteClass.lookup "about").bind ClassMember.marked? = none ∧
      (siteClass.lookup "about").all (ClassMember.isFunction "about") = true := by cbv

theorem makeRouter_diamond_registers :
    let make : Exec Unit := makeRouter "s" "Site" .null .null none
    diamond.Declares ∧ Assoc.get? diamond.classes "Site" = some siteClass ∧
      (make diamond).result = .ok () ∧
      (∃ m, m.callable.label = "Loud.home" ∧ ("home", m) ∈ siteClass.markedMethods) ∧
      ∀ m, ("about", m) ∉ siteClass.markedMethods := by
  intro make
  have made : (make diamond).result = .ok () := by cbv
  have known : Assoc.get? diamond.classes "Site" = some siteClass := get?_classOf (by cbv)
  obtain ⟨-, -, finds⟩ := makeRouter_registers_nearest answersAdd diamond_declares known made
  obtain ⟨home, about, visible⟩ := siteClass_lookups
  refine ⟨diamond_declares, known, made, ?_, fun m marked => ?_⟩
  · obtain ⟨m, found, label⟩ := Option.map_eq_some_iff.1 home
    obtain ⟨x, looks, marked⟩ := Option.bind_eq_some_iff.1 found
    obtain ⟨rfl, marks⟩ := ClassMember.marked?_eq_some.1 marked
    refine ⟨m, label, ((finds "home" m).2 fun x same => ?_).2 ⟨looks, marks⟩⟩
    cases looks.symm.trans same
    rfl
  · obtain ⟨looks, marks⟩ := ((finds "about" m).2 fun x same => by
      rwa [same, Option.all_some] at visible).1 marked
    rw [looks, Option.bind_some, ClassMember.marked?_eq_some.2 ⟨rfl, marks⟩] at about
    cases about

/-- Declares a class that hides the page of its base behind a value. -/
def declareHidden : Exec Unit := do
  declareClass "Pages" ["Router"] [pageMethod "show" "x"]
  declareClass "Quiet" ["Pages"] [.constant "show" (.int 5)]

def covered : World := (declareHidden (Small.world [])).world

def quietClass : RouterClass := classOf covered "Quiet"

def methodNames (c : RouterClass) : List String :=
  (c.line.flatMap ClassBody.members).filterMap fun row =>
    match row.2 with
    | .method _ => some row.1
    | _ => none

theorem mem_methodNames {c : RouterClass} {attr : String} {m : Method}
    (found : c.lookup attr = some (.method m)) : attr ∈ methodNames c := by
  obtain ⟨b, near, here⟩ := List.exists_of_findSome?_eq_some found
  exact List.mem_filterMap.2 ⟨(attr, .method m),
    List.mem_flatMap.2 ⟨b, near, Assoc.mem_of_get? here⟩, rfl⟩

def pageMethod? (e : Entry) : Option Callable :=
  match e.handler with
  | .route _ (.callable f) => some f
  | _ => none

/-- Routers of the class have an entry for the page, although its attribute is the value, and none is
a method that could be registered. -/
theorem makeRouter_registers_hidden :
    let make : Exec Unit := makeRouter "s" "Quiet" .null .null none
    (declareHidden (Small.world [])).result = .ok () ∧
      Assoc.get? covered.classes "Quiet" = some quietClass ∧ (make covered).result = .ok () ∧
      (((make covered).world.router 0).handlers.map fun e =>
        (pageMethod? e).map Callable.label) = [some "Pages.show"] ∧
      quietClass.lookup "show" = some (.constant (.int 5)) ∧
      ∀ attr m, quietClass.lookup attr ≠ some (.method m) := by
  intro make
  have made : (make covered).result = .ok () := by cbv
  have pages : (((make covered).world.router 0).handlers.map fun e =>
      (pageMethod? e).map Callable.label) = [some "Pages.show"] := by cbv
  have constant : quietClass.lookup "show" = some (.constant (.int 5)) := by cbv
  refine ⟨by cbv, get?_classOf (by cbv), made, pages, constant, fun attr m found => ?_⟩
  have names : methodNames quietClass = ["show"] := by cbv
  have named := mem_methodNames found
  rw [names, List.mem_singleton] at named
  rw [named, constant] at found
  cases found

end Exec
end HandlerChains
