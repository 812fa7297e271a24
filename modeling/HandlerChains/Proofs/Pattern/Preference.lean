import HandlerChains.Proofs.Pattern.Starts

/-!
# The preferred way

Where two ways to cut a route part, the one that uses the group comes before the other, the one that
gives a segment more, and the one that gives a run less. The cuttings are listed in this order, so
what a pattern captures, from a whole route or from a start of it, are the pieces of the way that
comes before all others.
-/

namespace HandlerChains
namespace Pattern

namespace Choice

/-- A choice is preferred to another one that can be made in its place. -/
inductive Better : Choice → Choice → Prop where
  | use : Better use skip
  | segment {name piece other} : other.length < piece.length →
      Better (segment name piece) (segment name other)
  | run {name piece other} : piece.length < other.length →
      Better (run name piece) (run name other)

theorem Better.asymm {a b : Choice} (h : a.Better b) : ¬ b.Better a := by
  intro h'
  cases h with
  | use => cases h'
  | segment longer =>
    cases h' with
    | segment shorter => omega
  | run shorter =>
    cases h' with
    | run longer => omega

end Choice

namespace Way

/-- A way comes before another one: where they part, its choice is better. -/
inductive Before : Way → Way → Prop where
  | here {a b more more'} : a.Better b → Before (a :: more) (b :: more')
  | later {a more more'} : Before more more' → Before (a :: more) (a :: more')

namespace Before

variable {way other : Way}

theorem asymm (h : way.Before other) : ¬ other.Before way := by
  induction h with
  | here better =>
    intro h'
    cases h' with
    | here worse => exact better.asymm worse
    | later _ => exact better.asymm better
  | later _ ih =>
    intro h'
    cases h' with
    | here better => exact better.asymm better
    | later h' => exact ih h'

theorem append (h : way.Before other) (more more' : Way) :
    (way ++ more).Before (other ++ more') := by
  induction h with
  | here better => exact .here better
  | later _ ih => exact .later ih

theorem prepend (common : Way) (h : way.Before other) :
    (common ++ way).Before (common ++ other) := by
  induction common with
  | nil => exact h
  | cons a common ih => exact .later ih

theorem of_prepend {common : Way} (h : (common ++ way).Before (common ++ other)) :
    way.Before other := by
  induction common with
  | nil => exact h
  | cons a common ih =>
    cases h with
    | here better => exact absurd better better.asymm
    | later h => exact ih h

end Before
end Way

theorem shrinkings_longest_first (mayBeEmpty : Bool) (taken route : List Char) :
    (shrinkings mayBeEmpty taken route).Pairwise fun a b => b.1.length < a.1.length := by
  induction taken generalizing route with
  | nil => cases mayBeEmpty <;> simp [shrinkings]
  | cons c taken ih =>
    refine List.pairwise_cons.2 ⟨fun cut mem => ?_, ih (c :: route)⟩
    obtain ⟨given, kept, -, -⟩ := mem_shrinkings.1 mem
    have shorter := congrArg List.length kept
    simp only [List.length_reverse, List.length_append, List.length_cons] at shorter ⊢
    omega

theorem splits_shortest_first (p : Char → Bool) (route : List Char) :
    (splits p route).Pairwise fun a b => a.1.length < b.1.length := by
  induction route with
  | nil => simp [splits]
  | cons c route ih =>
    by_cases taken : p c = true
    · rw [splits, if_pos taken]
      refine List.pairwise_cons.2
        ⟨fun cut mem => ?_, List.pairwise_map.2 (ih.imp fun shorter => ?_)⟩
      · obtain ⟨more, -, rfl⟩ := List.mem_map.1 mem
        exact Nat.succ_pos _
      · exact Nat.succ_lt_succ shorter
    · rw [splits, if_neg taken]
      exact List.pairwise_singleton _ _

section order

variable {α : Type} {cuts : List (α × List Char)} {before : α → α → Prop}

/-- Ways that go on from cuts are in order if the cuts are, and if those from one cut are. -/
theorem pairwise_goOn {goOn : List Char → List (Way × List Char)} (join : α → Way → Way)
    (sorted : cuts.Pairwise fun a b => before a.1 b.1)
    (across : ∀ {a b} (more more' : Way), before a b → (join a more).Before (join b more'))
    (within : ∀ (a : α) {more more' : Way}, more.Before more' →
      (join a more).Before (join a more'))
    (later : ∀ route, (goOn route).Pairwise fun a b => a.1.Before b.1) :
    (cuts.flatMap fun cut => (goOn cut.2).map fun after => (join cut.1 after.1, after.2)).Pairwise
      fun a b => a.1.Before b.1 := by
  refine List.pairwise_flatMap.2 ⟨fun cut _ => ?_, sorted.imp fun {cut other} earlier => ?_⟩
  · exact List.pairwise_map.2 ((later cut.2).imp fun h => within cut.1 h)
  · intro x hx y hy
    obtain ⟨after, -, rfl⟩ := List.mem_map.1 hx
    obtain ⟨after', -, rfl⟩ := List.mem_map.1 hy
    exact across after.1 after'.1 earlier

end order

namespace Template

/-- The ways to cut a route are listed in order. -/
theorem ways_in_order (t : Template) (route : List Char) :
    (t.ways route).Pairwise fun a b => a.1.Before b.1 := by
  induction t generalizing route with
  | done => exact List.pairwise_singleton _ _
  | literal c next ih =>
    cases route with
    | nil => exact .nil
    | cons d route =>
      by_cases same : c = d
      · simpa [ways, same] using ih route
      · simp [ways, same]
  | segment name mayBeEmpty next ih =>
    exact pairwise_goOn (fun piece way => .segment name piece :: way)
      (shrinkings_longest_first mayBeEmpty _ _) (fun _ _ longer => .here (.segment longer))
      (fun _ => .later) ih
  | run name next ih =>
    exact pairwise_goOn (fun piece way => .run name piece :: way)
      (splits_shortest_first notNewline route) (fun _ _ shorter => .here (.run shorter))
      (fun _ => .later) ih
  | optional body next ihBody ih =>
    refine List.pairwise_append.2 ⟨?_, List.pairwise_map.2 ((ih route).imp .later), ?_⟩
    · exact pairwise_goOn (fun inner way => .use :: (inner ++ way)) (ihBody route)
        (fun more more' h => .later (h.append more more'))
        (fun inner _ _ h => .later (h.prepend inner))
        ih
    · intro x hx y hy
      simp only [List.mem_flatMap, List.mem_map] at hx hy
      obtain ⟨_, -, _, -, rfl⟩ := hx
      obtain ⟨_, -, rfl⟩ := hy
      exact .here .use

end Template

/-- Of some ways to cut a route, with their remainders, one that comes before all others. -/
def IsFirst (ways : Way → List Char → Prop) (way : Way) (rest : List Char) : Prop :=
  ways way rest ∧ ∀ other left, ways other left → (other, left) = (way, rest) ∨ way.Before other

namespace IsFirst

variable {ways : Way → List Char → Prop} {way way' : Way} {rest rest' : List Char}

theorem unique (h : IsFirst ways way rest) (h' : IsFirst ways way' rest') :
    (way', rest') = (way, rest) := by
  rcases h.2 _ _ h'.1 with same | before
  · exact same
  · rcases h'.2 _ _ h.1 with same | after
    · exact same.symm
    · exact absurd after before.asymm

/-- Each choice of the first way is better than any other one after which there still is a way. -/
theorem better (h : IsFirst ways way rest) {common more : Way} {choice : Choice}
    (there : way = common ++ choice :: more) (other : Choice) (more' : Way) (left : List Char)
    (succeeds : ways (common ++ other :: more') left) : other = choice ∨ choice.Better other := by
  subst there
  rcases h.2 _ _ succeeds with same | before
  · have ways := (Prod.mk.inj same).1
    exact .inl (List.cons.inj (List.append_cancel_left ways)).1
  · cases before.of_prepend with
    | here better => exact .inr better
    | later _ => exact .inl rfl

end IsFirst

namespace Template

variable {t : Template} {route : List Char}

/-- The first of the listed ways that will do comes before all others that do. -/
theorem isFirst_of_find (will : List Char → Bool) {found : Way × List Char}
    (h : (t.ways route).find? (fun cut => will cut.2) = some found) :
    IsFirst (fun way rest => t.Takes route way rest ∧ will rest = true) found.1 found.2 := by
  obtain ⟨does, earlier, later, listed, none⟩ := List.find?_eq_some_iff_append.1 h
  have sorted := t.ways_in_order route
  rw [listed] at sorted
  refine ⟨⟨mem_ways.1 (by simp [listed]), does⟩, fun other left ⟨takes, will⟩ => ?_⟩
  have mem := mem_ways.2 takes
  rw [listed] at mem
  rcases List.mem_append.1 mem with front | back
  · have fails := none _ front
    simp [will] at fails
  · rcases List.mem_cons.1 back with same | back
    · exact .inl same
    · have behind := (List.pairwise_append.1 sorted).2.1
      exact .inr ((List.pairwise_cons.1 behind).1 _ back)

theorem find_eq_some_iff (will : List Char → Bool) {way : Way} {rest : List Char} :
    (t.ways route).find? (fun cut => will cut.2) = some (way, rest) ↔
      IsFirst (fun way rest => t.Takes route way rest ∧ will rest = true) way rest := by
  refine ⟨isFirst_of_find will, fun first => ?_⟩
  obtain ⟨takes, does⟩ := first.1
  have any : ((t.ways route).find? fun cut => will cut.2).isSome = true :=
    List.find?_isSome.2 ⟨(way, rest), mem_ways.2 takes, does⟩
  obtain ⟨⟨way', rest'⟩, found⟩ := Option.isSome_iff_exists.1 any
  rw [found]
  exact congrArg some (first.unique (isFirst_of_find will found))

theorem find_eq_none_iff (will : List Char → Bool) :
    (t.ways route).find? (fun cut => will cut.2) = none ↔
      ∀ way rest, t.Takes route way rest → will rest = false := by
  rw [List.find?_eq_none]
  constructor
  · intro none way rest takes
    simpa using none _ (mem_ways.2 takes)
  · rintro never ⟨way, rest⟩ mem
    simpa using never way rest (mem_ways.1 mem)

end Template

theorem matchWhole?_eq_find (p : Pattern) (route : String) :
    p.matchWhole? route = ((p.template.ways route.toList).find? fun cut => cut.2.isEmpty).map
      fun cut => captures cut.1.pieces := by
  rw [matchWhole?, Template.search_eq, Template.cuttings_eq]
  induction p.template.ways route.toList with
  | nil => rfl
  | cons cut cuts ih =>
    obtain ⟨way, rest⟩ := cut
    cases rest with
    | nil => simp
    | cons c rest => simpa using ih

theorem matchStart?_eq_find (p : Pattern) (route : String) :
    p.matchStart? route = ((p.template.ways route.toList).find? fun _ => true).map
      fun cut => (captures cut.1.pieces, String.ofList cut.2) := by
  rw [matchStart?, Template.search_start, Template.cuttings_eq]
  cases p.template.ways route.toList <;> simp

/-- Among the ways to cut a whole route along the template of a pattern, what is captured are the
pieces of the one that comes before all others; among those to cut a start of it, so are the
captures and the remainder. Nothing is found only where there is no way. Each choice of the way that
comes first is better than any other after which there would still be one: a group is used, a
segment takes as much as it can, and a run as little. -/
theorem matching_takes_first_way {source : String} {p : Pattern} (h : compile source = .ok p)
    (route : String) :
    let whole := fun way rest => p.template.Takes route.toList way rest ∧ rest = []
    let start := p.template.Takes route.toList
    Reads false source.toList p.template ∧
    (∀ captured, p.matchWhole? route = some captured ↔
      ∃ way, IsFirst whole way [] ∧ captured = captures way.pieces) ∧
    (p.matchWhole? route = none ↔ ∀ way rest, ¬ whole way rest) ∧
    (∀ captured rest, p.matchStart? route = some (captured, rest) ↔
      ∃ way, IsFirst start way rest.toList ∧ captured = captures way.pieces) ∧
    (p.matchStart? route = none ↔ ∀ way rest, ¬ start way rest) ∧
    ∀ ways, ways = whole ∨ ways = start → ∀ way rest, IsFirst ways way rest →
      ∀ before choice after, way = before ++ choice :: after →
        ∀ other after' left, ways (before ++ other :: after') left →
          other = choice ∨ choice.Better other := by
  intro whole start
  have wholes : whole = fun way rest =>
      p.template.Takes route.toList way rest ∧ rest.isEmpty = true := by
    funext way rest
    simp [whole]
  have starts : start = fun way rest => p.template.Takes route.toList way rest ∧ true = true := by
    funext way rest
    simp [start]
  obtain ⟨t, reads, -, rfl⟩ := compile_eq_ok_iff.1 h
  refine ⟨reads, fun captured => ?_, ?_, fun captured rest => ?_, ?_, ?_⟩
  · rw [matchWhole?_eq_find, Option.map_eq_some_iff, wholes]
    constructor
    · rintro ⟨⟨way, rest⟩, found, rfl⟩
      have first := Template.isFirst_of_find _ found
      obtain rfl : rest = [] := List.isEmpty_iff.1 first.1.2
      exact ⟨way, first, rfl⟩
    · rintro ⟨way, first, rfl⟩
      exact ⟨_, (Template.find_eq_some_iff _).2 first, rfl⟩
  · rw [matchWhole?_eq_find, Option.map_eq_none_iff, Template.find_eq_none_iff]
    simp [whole]
  · rw [matchStart?_eq_find, Option.map_eq_some_iff, starts]
    constructor
    · rintro ⟨⟨way, left⟩, found, same⟩
      obtain ⟨rfl, rfl⟩ := Prod.mk.inj same
      refine ⟨way, ?_, rfl⟩
      simpa using Template.isFirst_of_find (fun _ => true) found
    · rintro ⟨way, first, rfl⟩
      have found := (Template.find_eq_some_iff fun _ => true).2 first
      exact ⟨_, found, by simp⟩
  · rw [matchStart?_eq_find, Option.map_eq_none_iff, Template.find_eq_none_iff fun _ => true]
    simp [start]
  · intro ways _ way rest first before choice after there
    exact first.better there

def folderAndName : Pattern :=
  ⟨"(*folder/):name", ["folder", "name"],
    .optional (.run "folder" (.literal '/' .done)) (.segment "name" true .done)⟩

theorem folderAndName_takes_first_way :
    compile "(*folder/):name" = .ok folderAndName ∧
      folderAndName.matchWhole? "a/b/c" = some [("folder", "a/b"), ("name", "c")] ∧
      folderAndName.matchStart? "a/b/c" = some ([("folder", "a"), ("name", "b")], "/c") ∧
      (∃ way, IsFirst (fun way rest => folderAndName.template.Takes "a/b/c".toList way rest ∧
          rest = []) way [] ∧
        [("folder", "a/b"), ("name", "c")] = captures way.pieces) ∧
      ∃ way, IsFirst (folderAndName.template.Takes "a/b/c".toList) way "/c".toList ∧
        [("folder", "a"), ("name", "b")] = captures way.pieces := by
  have compiled : compile "(*folder/):name" = .ok folderAndName := by decide +kernel
  have whole : folderAndName.matchWhole? "a/b/c" = some [("folder", "a/b"), ("name", "c")] := by
    decide +kernel
  have start : folderAndName.matchStart? "a/b/c" =
      some ([("folder", "a"), ("name", "b")], "/c") := by
    decide +kernel
  obtain ⟨-, wholes, -, starts, -⟩ := matching_takes_first_way compiled "a/b/c"
  exact ⟨compiled, whole, start, (wholes _).1 whole, (starts _ _).1 start⟩

end Pattern
end HandlerChains
