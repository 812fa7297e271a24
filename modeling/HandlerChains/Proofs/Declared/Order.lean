import HandlerChains.Proofs.Declared.Lookup

/-!
# The order of marked methods

The walk along a class comes past its functions one after another. A name takes its place when it
becomes marked and keeps it as long as only marked methods override each other there. A function
without marks takes the place away, and a method that is marked later has a new one. The routers of
the class register the methods in the order of their places, each with all its marks.
-/

namespace HandlerChains

namespace RouterClass

open Assoc Exec

variable {rows : Assoc ClassMember} {i j : Nat} {name : String} {m : Method} {x : ClassMember}

/-- The functions of a class in the order in which the walk comes past them: its line from the far
end, and each body as it is declared. -/
def functions (c : RouterClass) : Assoc ClassMember :=
  (c.line.reverse.flatMap ClassBody.members).filter fun (name, x) => x.isFunction name

/-- What is marked under a name after some functions: the last of them that has the name, if it has
marks. -/
def markedIn (rows : Assoc ClassMember) (name : String) : Option Method :=
  (get? rows.reverse name).bind ClassMember.marked?

theorem markedIn_append (rows : Assoc ClassMember) (k : String) (x : ClassMember) (name : String) :
    markedIn (rows ++ [(k, x)]) name = if k = name then x.marked? else markedIn rows name := by
  rw [markedIn, List.reverse_append]
  change (get? ((k, x) :: rows.reverse) name).bind _ = _
  rw [get?]
  split <;> rfl

theorem markedIn_take_append (rows : Assoc ClassMember) (k : String) (x : ClassMember)
    (name : String) (j : Nat) :
    markedIn ((rows ++ [(k, x)]).take j) name =
      if rows.length < j ∧ k = name then x.marked? else markedIn (rows.take j) name := by
  rcases Nat.lt_or_ge rows.length j with far | near
  · rw [List.take_of_length_le (by simpa using far), List.take_of_length_le (Nat.le_of_lt far),
      markedIn_append]
    simp [far]
  · rw [List.take_append_of_le_length near, if_neg fun both => absurd both.1 (Nat.not_lt.2 near)]

/-- A name has its place where it becomes marked for the last time, and stands for the method that
was marked last. -/
structure HasPlace (rows : Assoc ClassMember) (i : Nat) (name : String) (m : Method) : Prop where
  before : markedIn (rows.take i) name = none
  since : ∀ j, i < j → markedIn (rows.take j) name ≠ none
  last : markedIn rows name = some m

namespace HasPlace

theorem lt (place : HasPlace rows i name m) : i < rows.length := by
  by_contra far
  have all := place.before
  rw [List.take_of_length_le (Nat.le_of_not_lt far), place.last] at all
  cases all

theorem unique {m' : Method} (place : HasPlace rows i name m) (place' : HasPlace rows j name m') :
    i = j := by
  rcases Nat.lt_trichotomy i j with less | same | more
  · exact absurd place'.before (place.since j less)
  · exact same
  · exact absurd place.before (place'.since i more)

theorem append_of_ne {k : String} (other : k ≠ name) :
    HasPlace (rows ++ [(k, x)]) i name m ↔ HasPlace rows i name m := by
  have same : ∀ j, markedIn ((rows ++ [(k, x)]).take j) name = markedIn (rows.take j) name := by
    intro j
    rw [markedIn_take_append, if_neg fun both => other both.2]
  have whole : markedIn (rows ++ [(k, x)]) name = markedIn rows name := by
    rw [markedIn_append, if_neg other]
  constructor
  · rintro ⟨before, since, last⟩
    exact ⟨same i ▸ before, fun j later => same j ▸ since j later, whole ▸ last⟩
  · rintro ⟨before, since, last⟩
    exact ⟨(same i).trans before, fun j later => same j ▸ since j later, whole.trans last⟩

theorem not_append_plain (plain : x.marked? = none) :
    ¬ HasPlace (rows ++ [(name, x)]) i name m := by
  intro place
  have last := place.last
  rw [markedIn_append, if_pos rfl, plain] at last
  cases last

/-- A marked method has the place of the one that it overrides, or else the one at the end. -/
theorem append_marked {m' : Method} (marked : x.marked? = some m') :
    HasPlace (rows ++ [(name, x)]) i name m ↔ m = m' ∧
      ((∃ m₀, HasPlace rows i name m₀) ∨ markedIn rows name = none ∧ i = rows.length) := by
  have last : markedIn (rows ++ [(name, x)]) name = some m' := by
    rw [markedIn_append, if_pos rfl, marked]
  have now : ∀ j, rows.length < j → markedIn ((rows ++ [(name, x)]).take j) name = some m' := by
    intro j far
    rw [markedIn_take_append, if_pos ⟨far, rfl⟩, marked]
  have earlier : ∀ j, j ≤ rows.length →
      markedIn ((rows ++ [(name, x)]).take j) name = markedIn (rows.take j) name := by
    intro j near
    rw [markedIn_take_append, if_neg fun both => absurd both.1 (Nat.not_lt.2 near)]
  constructor
  · intro place
    have inside : i ≤ rows.length := by
      have := place.lt
      rw [List.length_append, List.length_singleton] at this
      exact Nat.le_of_lt_succ this
    have before := earlier i inside ▸ place.before
    refine ⟨Option.some.inj (place.last.symm.trans last), ?_⟩
    rcases Nat.lt_or_eq_of_le inside with less | same
    · have kept := place.since rows.length less
      rw [earlier _ le_rfl, List.take_length] at kept
      obtain ⟨m₀, held⟩ := Option.ne_none_iff_exists'.1 kept
      refine .inl ⟨m₀, before, fun j later => ?_, held⟩
      rcases Nat.le_total j rows.length with near | far
      · exact earlier j near ▸ place.since j later
      · rw [List.take_of_length_le far]
        exact kept
    · rw [same, List.take_length] at before
      exact .inr ⟨before, same⟩
  · rintro ⟨rfl, ⟨m₀, place⟩ | ⟨fresh, rfl⟩⟩
    · refine ⟨(earlier i (Nat.le_of_lt place.lt)).trans place.before, fun j later => ?_, last⟩
      rcases Nat.lt_or_ge rows.length j with far | near
      · exact now j far ▸ Option.some_ne_none _
      · exact earlier j near ▸ place.since j later
    · refine ⟨?_, fun j later => now j later ▸ Option.some_ne_none _, last⟩
      rw [earlier _ le_rfl, List.take_length, fresh]

theorem exists_of_marked (marked : markedIn rows name = some m) : ∃ i, HasPlace rows i name m := by
  induction rows using List.reverseRecOn generalizing m with
  | nil => cases marked
  | append_singleton rows row ih =>
    obtain ⟨k, x⟩ := row
    rw [markedIn_append] at marked
    by_cases same : k = name
    · subst same
      rw [if_pos rfl] at marked
      cases held : markedIn rows k with
      | none => exact ⟨rows.length, (append_marked marked).2 ⟨rfl, .inr ⟨held, rfl⟩⟩⟩
      | some m₀ =>
        obtain ⟨i, place⟩ := ih held
        exact ⟨i, (append_marked marked).2 ⟨rfl, .inl ⟨m₀, place⟩⟩⟩
    · rw [if_neg same] at marked
      obtain ⟨i, place⟩ := ih marked
      exact ⟨i, (append_of_ne same).2 place⟩

end HasPlace

theorem markedMethods_eq (c : RouterClass) : c.markedMethods = c.functions.foldl markStep [] := by
  rw [functions, List.foldl_filter, markedMethods]
  refine congrArg (List.foldl · [] _) (funext fun marked => funext fun row => ?_)
  obtain ⟨k, x⟩ := row
  by_cases function : x.isFunction k = true
  · simp [function]
  · simp [markStep_eq, function]

/-- Names with their places and methods, the first place first. -/
structure Placed (rows : Assoc ClassMember) (placed : List (Nat × String × Method)) : Prop where
  inOrder : placed.Pairwise fun a b => a.1 < b.1
  mem_iff : ∀ i name m, (i, name, m) ∈ placed ↔ HasPlace rows i name m

namespace Placed

variable {placed : List (Nat × String × Method)}

theorem nodup (all : Placed rows placed) : (names (placed.map Prod.snd)).Nodup := by
  unfold names
  rw [List.map_map]
  refine List.pairwise_map.2 (all.inOrder.imp_of_mem fun {a b} first second less same => ?_)
  have place := (all.mem_iff a.1 a.2.1 a.2.2).1 first
  have place' := (all.mem_iff b.1 b.2.1 b.2.2).1 second
  have same : a.2.1 = b.2.1 := same
  rw [← same] at place'
  exact absurd (place.unique place') (Nat.ne_of_lt less)

theorem mem_names_iff (all : Placed rows placed) :
    name ∈ names (placed.map Prod.snd) ↔ markedIn rows name ≠ none := by
  constructor
  · intro known
    obtain ⟨row, listed, rfl⟩ := List.mem_map.1 known
    obtain ⟨place, mem, rfl⟩ := List.mem_map.1 listed
    rw [((all.mem_iff place.1 place.2.1 place.2.2).1 mem).last]
    exact Option.some_ne_none _
  · intro marked
    obtain ⟨m, marked⟩ := Option.ne_none_iff_exists'.1 marked
    obtain ⟨i, place⟩ := HasPlace.exists_of_marked marked
    have mem := (all.mem_iff i name m).2 place
    exact List.mem_map.2 ⟨(name, m), List.mem_map.2 ⟨_, mem, rfl⟩, rfl⟩

theorem plain (all : Placed rows placed) (none : x.marked? = none) :
    Placed (rows ++ [(name, x)]) (placed.filter fun row => row.2.1 ≠ name) where
  inOrder := all.inOrder.filter _
  mem_iff i k m := by
    rw [List.mem_filter, all.mem_iff, decide_eq_true_eq]
    by_cases same : k = name
    · subst same
      exact ⟨fun both => absurd rfl both.2,
        fun place => absurd place (HasPlace.not_append_plain none)⟩
    · rw [HasPlace.append_of_ne (Ne.symm same)]
      exact and_iff_left same

theorem replaced {m : Method} (all : Placed rows placed) (marked : x.marked? = some m)
    (known : markedIn rows name ≠ none) :
    Placed (rows ++ [(name, x)])
      (placed.map fun row => (row.1, if row.2.1 = name then (name, m) else row.2)) where
  inOrder := List.pairwise_map.2 all.inOrder
  mem_iff i k m' := by
    rw [List.mem_map]
    by_cases same : k = name
    · subst same
      rw [HasPlace.append_marked marked]
      constructor
      · rintro ⟨⟨j, n, m₀⟩, mem, eq⟩
        by_cases here : n = k
        · subst here
          rw [if_pos rfl] at eq
          cases eq
          exact ⟨rfl, .inl ⟨m₀, (all.mem_iff ..).1 mem⟩⟩
        · rw [if_neg here] at eq
          cases eq
          exact absurd rfl here
      · rintro ⟨rfl, ⟨m₀, place⟩ | ⟨fresh, -⟩⟩
        · exact ⟨(i, k, m₀), (all.mem_iff ..).2 place, by rw [if_pos rfl]⟩
        · exact absurd fresh known
    · rw [HasPlace.append_of_ne (Ne.symm same), ← all.mem_iff]
      constructor
      · rintro ⟨⟨j, n, m₀⟩, mem, eq⟩
        by_cases here : n = name
        · rw [if_pos here] at eq
          cases eq
          exact absurd rfl same
        · rw [if_neg here] at eq
          cases eq
          exact mem
      · exact fun mem => ⟨(i, k, m'), mem, by rw [if_neg same]⟩

theorem added {m : Method} (all : Placed rows placed) (marked : x.marked? = some m)
    (fresh : markedIn rows name = none) :
    Placed (rows ++ [(name, x)]) (placed ++ [(rows.length, name, m)]) where
  inOrder := by
    refine List.pairwise_append.2 ⟨all.inOrder, List.pairwise_singleton _ _, fun a mem b last => ?_⟩
    rw [List.mem_singleton.1 last]
    exact ((all.mem_iff a.1 a.2.1 a.2.2).1 mem).lt
  mem_iff i k m' := by
    rw [List.mem_append, List.mem_singleton, all.mem_iff]
    by_cases same : k = name
    · subst same
      have none : ∀ m₀, ¬ HasPlace rows i k m₀ := by
        intro m₀ place
        rw [place.last] at fresh
        cases fresh
      rw [HasPlace.append_marked marked]
      simp [none, fresh, and_comm]
    · rw [HasPlace.append_of_ne (Ne.symm same)]
      simp [same]

end Placed

/-- The walk keeps the methods in the order of their places. -/
theorem exists_placed (functions : ∀ row ∈ rows, row.2.isFunction row.1 = true) :
    ∃ placed, Placed rows placed ∧ placed.map Prod.snd = rows.foldl markStep [] := by
  induction rows using List.reverseRecOn with
  | nil =>
    refine ⟨[], ⟨.nil, fun i name m => ⟨nofun, fun place => ?_⟩⟩, rfl⟩
    exact absurd place.lt (Nat.not_lt_zero i)
  | append_singleton rows row ih =>
    obtain ⟨k, x⟩ := row
    obtain ⟨earlier, last⟩ := List.forall_mem_append.1 functions
    obtain ⟨placed, all, eq⟩ := ih earlier
    rw [List.foldl_append, ← eq, List.foldl_cons, List.foldl_nil, markStep_eq,
      if_pos (last (k, x) (List.mem_singleton_self _))]
    cases marked : x.marked? with
    | none =>
      refine ⟨_, all.plain marked, ?_⟩
      change _ = (placed.map Prod.snd).filter fun row => row.1 ≠ k
      rw [List.filter_map]
      rfl
    | some m =>
      by_cases known : markedIn rows k = none
      · refine ⟨_, all.added marked known, ?_⟩
        rw [List.map_append]
        exact (put_eq_append (mt all.mem_names_iff.1 (not_not.2 known)) m).symm
      · refine ⟨_, all.replaced marked known, ?_⟩
        rw [List.map_map]
        exact ((put_eq_map all.nodup (all.mem_names_iff.2 known) m).trans List.map_map).symm

end RouterClass

namespace Exec

open RouterClass

/-- A method that is read has the marks of its decorators, in the order in which they are applied to
it: the innermost first. -/
theorem readMember_marks {title name : String} {markings : List Marking} {body : List Instruction}
    {result : Value} {w w' : World} {row : String × ClassMember}
    (read : Returns (readMember title (.method name markings body result)) w row w') :
    ∃ m : Method, row = (name, .method m) ∧
      List.Forall₂ (fun marking mark => marking.marker = .ok mark) markings m.markers := by
  obtain ⟨markers, v, marks, read⟩ := read.of_bind
  obtain ⟨callable, _, _, read⟩ := read.of_bind
  obtain ⟨rfl, -⟩ := read.of_pure
  exact ⟨⟨callable, markers⟩, rfl, forall₂_of_mapM marks.of_lift.1⟩

/-- Making a router of a class registers, behind what its tier registers by itself and before what
its setup does, its marked methods in the order of their places, each with all its marks one after
another. For a mark whose verb the class has a member of its own for, that one is called instead,
and what it registers, if anything, takes the place. A name has its place where it becomes marked
for the last time on the way along the line of the class, and stands for the method that was marked
last. The marks of a method are those of its decorators, the innermost first. -/
theorem makeRouter_registers_by_places [Answering] {w : World} {c : RouterClass}
    {id className : String} {name description : Value} {basePath : Option Value}
    (adds : AnswersAdd) (known : Assoc.get? w.classes className = some c)
    (made : (makeRouter id className name description basePath w).result = .ok ()) :
    let w' := (makeRouter id className name description basePath w).world
    (∃ placed, Placed c.functions placed ∧ placed.map Prod.snd = c.markedMethods ∧
      ∃ (own setUp : List Entry) (marked : List (List Entry)),
        (∀ error, (w'.router w.routers.length).chain error =
          (own ++ marked.flatten ++ setUp).filter fun e => e.error == error) ∧
        Begins (basePath.getD .null) c.tier own ∧
        List.Forall₂ c.Gives
          (placed.flatMap fun place => place.2.2.markers.map fun mark =>
            (place.2.2.callable, mark)) marked ∧
        (Assoc.get? c.overrides "initialize" = none → setUp = [])) ∧
    ∀ title method markings body result v v' row,
      Returns (readMember title (.method method markings body result)) v row v' →
        ∃ m : Method, row = (method, .method m) ∧
          List.Forall₂ (fun marking mark => marking.marker = .ok mark) markings m.markers := by
  intro w'
  refine ⟨?_, fun _ _ _ _ _ _ _ _ read => readMember_marks read⟩
  have functions : ∀ row ∈ c.functions, row.2.isFunction row.1 = true :=
    fun row mem => (List.mem_filter.1 mem).2
  obtain ⟨placed, all, methods⟩ := exists_placed functions
  rw [← markedMethods_eq] at methods
  obtain ⟨own, marked, setUp, ⟨gains, -⟩, begins, makes, none⟩ :=
    makeRouter_takes adds known (.of_result made)
  refine ⟨placed, all, methods, own, setUp, marked, fun error => ?_, begins, ?_, none⟩
  · rw [gains.chain]
    cases error <;> rfl
  · rwa [registrations, ← methods, List.flatMap_map] at makes

/-- Declares a class in whose line a page gives way to another one of its name, and one is taken off
and comes back. -/
def declareReworked : Exec Unit := do
  declareClass "Pages" ["Router"]
    [pageMethod "home" "", pageMethod "about" "about", pageMethod "contact" "contact"]
  declareClass "Quiet" ["Pages"] [bareMethod "about"]
  declareClass "Site" ["Quiet"] [pageMethod "about" "again", pageMethod "home" "start"]

def reworked : World := (declareReworked (Small.world [])).world

def reworkedSite : RouterClass := classOf reworked "Site"

/-- The page that was replaced is still the first one, and the one that came back is the last. -/
theorem makeRouter_reworked_registers :
    let make : Exec Unit := makeRouter "s" "Site" .null .null none
    Assoc.get? reworked.classes "Site" = some reworkedSite ∧ (make reworked).result = .ok () ∧
      (((make reworked).world.router 0).handlers.map Entry.name) =
        [.text "start", .text "contact", .text "again"] ∧
      ∃ first second third : Nat × Method, first.1 < second.1 ∧ second.1 < third.1 ∧
        HasPlace reworkedSite.functions first.1 "home" first.2 ∧
        HasPlace reworkedSite.functions second.1 "contact" second.2 ∧
        HasPlace reworkedSite.functions third.1 "about" third.2 ∧
        [first, second, third].map (fun place => place.2.callable.label) =
          ["Site.home", "Pages.contact", "Site.about"] := by
  intro make
  have made : (make reworked).result = .ok () := by cbv
  have known : Assoc.get? reworked.classes "Site" = some reworkedSite := get?_classOf (by cbv)
  have labels : reworkedSite.markedMethods.map (fun row => (row.1, row.2.callable.label)) =
      [("home", "Site.home"), ("contact", "Pages.contact"), ("about", "Site.about")] := by cbv
  obtain ⟨⟨placed, all, methods, -⟩, -⟩ := makeRouter_registers_by_places answersAdd known made
  rw [← methods, List.map_map] at labels
  refine ⟨known, made, by cbv, ?_⟩
  obtain ⟨⟨i, a, m⟩, rest, rfl, first, labels⟩ := List.map_eq_cons_iff.1 labels
  obtain ⟨⟨j, b, m'⟩, rest, rfl, second, labels⟩ := List.map_eq_cons_iff.1 labels
  obtain ⟨⟨k, d, m''⟩, rfl, third⟩ := List.map_eq_singleton_iff.1 labels
  obtain ⟨rfl, first⟩ := Prod.mk.inj first
  obtain ⟨rfl, second⟩ := Prod.mk.inj second
  obtain ⟨rfl, third⟩ := Prod.mk.inj third
  obtain ⟨⟨less, -⟩, more⟩ := by simpa using all.inOrder
  refine ⟨(i, m), (j, m'), (k, m''), less, more, ?_, ?_, ?_, ?_⟩
  · exact (all.mem_iff ..).1 (by simp)
  · exact (all.mem_iff ..).1 (by simp)
  · exact (all.mem_iff ..).1 (by simp)
  · simpa using And.intro first (And.intro second third)

/-- Methods that answer whatever they are handed. -/
@[reducible]
def answering : Answering := ⟨fun _ f _ _ _ => pure f.result⟩

/-- Declares a class whose only page is in the place of the verb by which it is registered. -/
def declareShadowing : Exec Unit :=
  declareClass "Site" ["Router"] [.method "not_found" [⟨.notFound, [], []⟩] [] (.text "x")]

def shadowing : World := (declareShadowing (Small.world [])).world

def shadowingSite : RouterClass := classOf shadowing "Site"

/-- The page is called instead of being registered, and the router is made without it. -/
theorem makeRouter_answered_registers_nothing :
    let make : Exec Unit := @makeRouter answering "s" "Site" .null .null none
    (declareShadowing (Small.world [])).result = .ok () ∧
      Assoc.get? shadowing.classes "Site" = some shadowingSite ∧
      (shadowingSite.markedMethods.map fun row =>
        (row.1, row.2.markers.map Marker.mark)) = [("not_found", [.notFound])] ∧
      (make shadowing).result = .ok () ∧ ((make shadowing).world.router 0).entries = [] := by
  intro make
  exact ⟨by cbv, get?_classOf (by cbv), by cbv, by cbv, by cbv⟩

end Exec
end HandlerChains
