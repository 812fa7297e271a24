import HandlerChains.Pattern
import Mathlib.Data.List.TakeWhile

/-!
# The ways to cut a route

A way to cut a route is told by its choices: at each group whether it is used, at each placeholder
which piece it takes. `ways` lists the ways that there are. The cuttings are the pieces of the ways,
without the choices, and are listed in the same order.
-/

namespace HandlerChains
namespace Pattern

/-- What a way to cut a route does with a group or a placeholder. -/
inductive Choice where
  | use
  | skip
  | segment (name : String) (piece : List Char)
  | run (name : String) (piece : List Char)

namespace Choice

def piece? : Choice → Option (String × List Char)
  | use | skip => none
  | segment name piece | run name piece => some (name, piece)

end Choice

/-- The choices of a way, in textual order. -/
abbrev Way := List Choice

namespace Way

def pieces (way : Way) : Pieces := way.filterMap Choice.piece?

section pieces

variable (way other : Way) (name : String) (piece : List Char)

@[simp] theorem pieces_use : pieces (.use :: way) = way.pieces := rfl

@[simp] theorem pieces_skip : pieces (.skip :: way) = way.pieces := rfl

@[simp] theorem pieces_segment :
    pieces (.segment name piece :: way) = (name, piece) :: way.pieces := rfl

@[simp] theorem pieces_run : pieces (.run name piece :: way) = (name, piece) :: way.pieces := rfl

@[simp] theorem pieces_append : pieces (way ++ other) = way.pieces ++ other.pieces :=
  List.filterMap_append

end pieces

end Way

theorem mem_splits {p : Char → Bool} {route piece rest : List Char} :
    (piece, rest) ∈ splits p route ↔ route = piece ++ rest ∧ ∀ c ∈ piece, p c = true := by
  induction route generalizing piece with
  | nil =>
    constructor
    · intro h
      obtain ⟨rfl, rfl⟩ : piece = [] ∧ rest = [] := by simpa [splits] using h
      exact ⟨rfl, by simp⟩
    · rintro ⟨h, -⟩
      obtain ⟨rfl, rfl⟩ := List.append_eq_nil_iff.1 h.symm
      simp [splits]
  | cons d route ih =>
    cases piece with
    | nil =>
      have step : ([], rest) ∈ splits p (d :: route) ↔ rest = d :: route := by
        rw [splits]
        by_cases hd : p d <;> simp [hd]
      rw [step]
      exact ⟨fun h => ⟨h.symm, by simp⟩, fun h => h.1.symm⟩
    | cons c piece =>
      by_cases hd : p d
      · have step : (c :: piece, rest) ∈ splits p (d :: route) ↔
            c = d ∧ (piece, rest) ∈ splits p route := by
          simp only [splits, hd, if_true, List.mem_cons, Prod.mk.injEq, reduceCtorEq, false_and,
            false_or, List.mem_map, Prod.exists, List.cons.injEq]
          constructor
          · rintro ⟨_, _, h, ⟨rfl, rfl⟩, rfl⟩
            exact ⟨rfl, h⟩
          · rintro ⟨rfl, h⟩
            exact ⟨piece, rest, h, ⟨rfl, rfl⟩, rfl⟩
        rw [step, ih]
        constructor
        · rintro ⟨rfl, rfl, all⟩
          exact ⟨rfl, by simpa [hd] using all⟩
        · rintro ⟨h, all⟩
          obtain ⟨rfl, rfl⟩ := List.cons.inj h
          exact ⟨rfl, rfl, fun c hc => all c (List.mem_cons_of_mem _ hc)⟩
      · simp only [splits, hd, Bool.false_eq_true, if_false, List.mem_singleton, Prod.mk.injEq,
          reduceCtorEq, false_and, false_iff, not_and]
        intro h all
        obtain ⟨rfl, -⟩ := List.cons.inj h
        exact hd (all d List.mem_cons_self)

theorem mem_shrinkings {mayBeEmpty : Bool} {taken route piece rest : List Char} :
    (piece, rest) ∈ shrinkings mayBeEmpty taken route ↔
      ∃ given, taken.reverse = piece ++ given ∧ rest = given ++ route ∧
        (mayBeEmpty = false → piece ≠ []) := by
  induction taken generalizing route with
  | nil =>
    have step : (piece, rest) ∈ shrinkings mayBeEmpty [] route ↔
        mayBeEmpty = true ∧ piece = [] ∧ rest = route := by
      cases mayBeEmpty <;> simp [shrinkings]
    rw [step]
    constructor
    · rintro ⟨rfl, rfl, rfl⟩
      exact ⟨[], rfl, rfl, by simp⟩
    · rintro ⟨given, cut, rfl, some⟩
      obtain ⟨rfl, rfl⟩ := List.append_eq_nil_iff.1 cut.symm
      exact ⟨by simpa using some, rfl, rfl⟩
  | cons c taken ih =>
    have step : (piece, rest) ∈ shrinkings mayBeEmpty (c :: taken) route ↔
        (piece = (c :: taken).reverse ∧ rest = route) ∨
          (piece, rest) ∈ shrinkings mayBeEmpty taken (c :: route) := by
      simp [shrinkings]
    rw [step, ih]
    constructor
    · rintro (⟨rfl, rfl⟩ | ⟨given, cut, rfl, some⟩)
      · exact ⟨[], by simp, rfl, by simp⟩
      · exact ⟨given ++ [c], by simp [cut], by simp, some⟩
    · rintro ⟨given, cut, rfl, some⟩
      obtain rfl | ⟨given, d, rfl⟩ := List.eq_nil_or_concat given
      · exact .inl ⟨by simpa using cut.symm, rfl⟩
      · have ends : taken.reverse ++ [c] = piece ++ given ++ [d] := by simpa using cut
        obtain ⟨before, last⟩ := List.append_inj' ends rfl
        obtain rfl : c = d := by simpa using last
        exact .inr ⟨given, before, by simp, some⟩

theorem notSlash_iff {c : Char} : notSlash c = true ↔ c ≠ '/' := by simp [notSlash]

theorem notNewline_iff {c : Char} : notNewline c = true ↔ c ≠ '\n' := by simp [notNewline]

theorem mem_segmentSplits {mayBeEmpty : Bool} {route piece rest : List Char} :
    (piece, rest) ∈ segmentSplits mayBeEmpty route ↔
      route = piece ++ rest ∧ '/' ∉ piece ∧ (mayBeEmpty = false → piece ≠ []) := by
  rw [segmentSplits, mem_shrinkings, List.reverse_reverse]
  constructor
  · rintro ⟨given, cut, rfl, some⟩
    refine ⟨?_, fun slash => ?_, some⟩
    · rw [← List.append_assoc, ← cut, List.takeWhile_append_dropWhile]
    · have taken : '/' ∈ route.takeWhile notSlash := cut ▸ List.mem_append_left _ slash
      exact notSlash_iff.1 (List.mem_takeWhile_imp taken) rfl
  · rintro ⟨rfl, none, some⟩
    have all : ∀ c ∈ piece, notSlash c = true := fun c hc =>
      notSlash_iff.2 fun h => none (h ▸ hc)
    refine ⟨rest.takeWhile notSlash, List.takeWhile_append_of_pos all, ?_, some⟩
    rw [List.dropWhile_append_of_pos all, List.takeWhile_append_dropWhile]

theorem mem_runSplits {route piece rest : List Char} :
    (piece, rest) ∈ runSplits route ↔ route = piece ++ rest ∧ '\n' ∉ piece := by
  rw [runSplits, mem_splits]
  refine and_congr_right fun _ => ⟨fun all h => notNewline_iff.1 (all _ h) rfl, fun none c hc => ?_⟩
  exact notNewline_iff.2 fun h => none (h ▸ hc)

namespace Template

/-- The template cuts a route by some choices and leaves a remainder. -/
inductive Takes : Template → List Char → Way → List Char → Prop where
  | done (route) : Takes done route [] route
  | literal {c next route way rest} :
      Takes next route way rest → Takes (literal c next) (c :: route) way rest
  | segment {name mayBeEmpty next piece route way rest} :
      '/' ∉ piece → (mayBeEmpty = false → piece ≠ []) → Takes next route way rest →
      Takes (segment name mayBeEmpty next) (piece ++ route) (.segment name piece :: way) rest
  | run {name next piece route way rest} :
      '\n' ∉ piece → Takes next route way rest →
      Takes (run name next) (piece ++ route) (.run name piece :: way) rest
  | use {body next route middle inner way rest} :
      Takes body route inner middle → Takes next middle way rest →
      Takes (optional body next) route (.use :: (inner ++ way)) rest
  | skip {body next route way rest} :
      Takes next route way rest → Takes (optional body next) route (.skip :: way) rest

/-- All ways to cut a route, with their remainders, the preferred first. -/
def ways : Template → List Char → List (Way × List Char)
  | done, route => [([], route)]
  | literal _ _, [] => []
  | literal c next, d :: route => if c = d then ways next route else []
  | segment name mayBeEmpty next, route =>
    (segmentSplits mayBeEmpty route).flatMap fun (piece, rest) =>
      (ways next rest).map fun (way, rest) => (.segment name piece :: way, rest)
  | run name next, route =>
    (runSplits route).flatMap fun (piece, rest) =>
      (ways next rest).map fun (way, rest) => (.run name piece :: way, rest)
  | optional body next, route =>
    ((ways body route).flatMap fun (inner, middle) =>
      (ways next middle).map fun (way, rest) => (.use :: (inner ++ way), rest)) ++
    (ways next route).map fun (way, rest) => (.skip :: way, rest)

theorem takes_of_mem_ways {t : Template} {route rest : List Char} {way : Way}
    (h : (way, rest) ∈ t.ways route) : Takes t route way rest := by
  induction t generalizing route way rest with
  | done =>
    obtain ⟨rfl, rfl⟩ : way = [] ∧ rest = route := by simpa [ways] using h
    exact .done _
  | literal c next ih =>
    cases route with
    | nil => simp [ways] at h
    | cons d route =>
      by_cases hd : c = d
      · subst hd
        exact .literal (ih (by simpa [ways] using h))
      · simp [ways, hd] at h
  | segment name mayBeEmpty next ih =>
    simp only [ways, List.mem_flatMap, List.mem_map, Prod.exists, Prod.mk.injEq] at h
    obtain ⟨piece, middle, split, more, _, found, rfl, rfl⟩ := h
    obtain ⟨rfl, none, some⟩ := mem_segmentSplits.1 split
    exact .segment none some (ih found)
  | run name next ih =>
    simp only [ways, List.mem_flatMap, List.mem_map, Prod.exists, Prod.mk.injEq] at h
    obtain ⟨piece, middle, split, more, _, found, rfl, rfl⟩ := h
    obtain ⟨rfl, none⟩ := mem_runSplits.1 split
    exact .run none (ih found)
  | optional body next ihBody ihNext =>
    simp only [ways, List.mem_append, List.mem_flatMap, List.mem_map, Prod.exists,
      Prod.mk.injEq] at h
    rcases h with ⟨inner, middle, found, after, _, found', rfl, rfl⟩ | ⟨after, _, found, rfl, rfl⟩
    · exact .use (ihBody found) (ihNext found')
    · exact .skip (ihNext found)

theorem mem_ways_of_takes {t : Template} {route rest : List Char} {way : Way}
    (h : Takes t route way rest) : (way, rest) ∈ t.ways route := by
  induction h with
  | done route => simp [ways]
  | literal _ ih => simpa [ways] using ih
  | segment none some _ ih =>
    exact List.mem_flatMap.2
      ⟨_, mem_segmentSplits.2 ⟨rfl, none, some⟩, List.mem_map.2 ⟨_, ih, rfl⟩⟩
  | run none _ ih =>
    exact List.mem_flatMap.2 ⟨_, mem_runSplits.2 ⟨rfl, none⟩, List.mem_map.2 ⟨_, ih, rfl⟩⟩
  | use _ _ ihBody ih =>
    refine List.mem_append_left _ (List.mem_flatMap.2 ⟨_, ihBody, ?_⟩)
    exact List.mem_map.2 ⟨_, ih, rfl⟩
  | skip _ ih => exact List.mem_append_right _ (List.mem_map.2 ⟨_, ih, rfl⟩)

/-- The listed ways are those that there are. -/
theorem mem_ways {t : Template} {route rest : List Char} {way : Way} :
    (way, rest) ∈ t.ways route ↔ Takes t route way rest :=
  ⟨takes_of_mem_ways, mem_ways_of_takes⟩

/-- The cuttings are the pieces of the ways, in the same order. -/
theorem cuttings_eq (t : Template) (route : List Char) :
    t.cuttings route = (t.ways route).map fun (way, rest) => (way.pieces, rest) := by
  induction t generalizing route with
  | done => rfl
  | literal c next ih =>
    cases route with
    | nil => rfl
    | cons d route => by_cases h : c = d <;> simp [cuttings, ways, h, ih]
  | segment name mayBeEmpty next ih =>
    simp [cuttings, ways, ih, List.map_flatMap, Function.comp_def]
  | run name next ih => simp [cuttings, ways, ih, List.map_flatMap, Function.comp_def]
  | optional body next ihBody ih =>
    simp [cuttings, ways, ihBody, ih, List.map_flatMap, List.flatMap_map, Function.comp_def]

end Template

end Pattern
end HandlerChains
