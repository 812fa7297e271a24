import HandlerChains.Proofs.Pattern.Prefix

/-!
# Starts of routes

The cuttings of a start of a route are the cuttings of the route that end within this start, in the
same order of preference. So cutting the start that a pattern has found, as a whole, gives the same
captures, and a pattern finds no start exactly if it matches none as a whole.
-/

namespace HandlerChains
namespace Pattern

section within

variable {α β γ : Type}

/-- Of ways to cut a longer route off, those that leave at least `rest` over are the ways to cut a
shorter one, which `rest` follows in the longer one. -/
def EndsWithin (rest : List Char) (long short : List (α × List Char)) : Prop :=
  long.filter (fun cut => rest.length ≤ cut.2.length) =
    short.map fun cut => (cut.1, cut.2 ++ rest)

namespace EndsWithin

variable {rest : List Char} {long short long' short' : List (α × List Char)}

theorem nothing (far : ∀ cut ∈ long, cut.2.length < rest.length) : EndsWithin rest long [] := by
  refine List.filter_eq_nil_iff.2 fun cut mem => ?_
  simpa using far cut mem

theorem nil : EndsWithin rest ([] : List (α × List Char)) [] := rfl

theorem cons (a : α) (route : List Char) (h : EndsWithin rest long short) :
    EndsWithin rest ((a, route ++ rest) :: long) ((a, route) :: short) := by
  unfold EndsWithin at *
  rw [List.filter_cons_of_pos (by simp), h, List.map_cons]

theorem append (h : EndsWithin rest long short) (h' : EndsWithin rest long' short') :
    EndsWithin rest (long ++ long') (short ++ short') := by
  unfold EndsWithin at *
  rw [List.filter_append, h, h', List.map_append]

theorem map (f : α → β) (h : EndsWithin rest long short) :
    EndsWithin rest (long.map fun cut => (f cut.1, cut.2))
      (short.map fun cut => (f cut.1, cut.2)) := by
  unfold EndsWithin at *
  rw [List.filter_map, List.map_map]
  change (long.filter fun cut => rest.length ≤ cut.2.length).map _ = _
  rw [h, List.map_map]
  rfl

/-- Cutting goes on within the shorter route, because what has left it does not come back. -/
theorem flatMap {next : List Char → List (β × List Char)} (join : α → β → γ)
    (h : EndsWithin rest long short)
    (shrinks : ∀ route, ∀ cut ∈ next route, cut.2.length ≤ route.length)
    (step : ∀ route, EndsWithin rest (next (route ++ rest)) (next route)) :
    let goOn := fun cut : α × List Char =>
      (next cut.2).map fun after => (join cut.1 after.1, after.2)
    EndsWithin rest (long.flatMap goOn) (short.flatMap goOn) := by
  intro goOn
  have outside : ∀ cut : α × List Char, ¬ rest.length ≤ cut.2.length →
      (goOn cut).filter (fun after => rest.length ≤ after.2.length) = [] := by
    intro cut far
    refine List.filter_eq_nil_iff.2 fun after hafter => ?_
    obtain ⟨found, mem, rfl⟩ := List.mem_map.1 hafter
    have := shrinks cut.2 found mem
    simp only [decide_eq_true_eq]
    omega
  have pruned : long.flatMap (fun cut => (goOn cut).filter fun after =>
        rest.length ≤ after.2.length) =
      (long.filter fun cut => rest.length ≤ cut.2.length).flatMap
        fun cut => (goOn cut).filter fun after => rest.length ≤ after.2.length := by
    clear h
    induction long with
    | nil => rfl
    | cons cut long ih =>
      by_cases near : rest.length ≤ cut.2.length
      · rw [List.filter_cons_of_pos (by simpa using near), List.flatMap_cons, List.flatMap_cons, ih]
      · rw [List.filter_cons_of_neg (by simpa using near), List.flatMap_cons, outside cut near, ih,
          List.nil_append]
  have steps : ∀ cut : α × List Char,
      EndsWithin rest (goOn (cut.1, cut.2 ++ rest)) (goOn cut) :=
    fun cut => (step cut.2).map (join cut.1)
  unfold EndsWithin at *
  rw [List.filter_flatMap, pruned, h, List.flatMap_map, List.map_flatMap]
  exact congrArg (List.flatMap · short) (funext steps)

end EndsWithin

end within

theorem shrinkings_append (mayBeEmpty : Bool) (taken route rest : List Char) :
    shrinkings mayBeEmpty taken (route ++ rest) =
      (shrinkings mayBeEmpty taken route).map fun cut => (cut.1, cut.2 ++ rest) := by
  induction taken generalizing route with
  | nil => cases mayBeEmpty <;> rfl
  | cons c taken ih => rw [shrinkings, shrinkings, List.map_cons, ← ih, List.cons_append]

theorem length_of_mem_shrinkings {mayBeEmpty : Bool} {taken route : List Char}
    {cut : List Char × List Char} (h : cut ∈ shrinkings mayBeEmpty taken route) :
    route.length ≤ cut.2.length := by
  obtain ⟨given, -, same, -⟩ := mem_shrinkings.1 h
  rw [same, List.length_append]
  omega

theorem filter_shrinkings (mayBeEmpty : Bool) (far taken route : List Char) :
    (shrinkings mayBeEmpty (far ++ taken) route).filter
        (fun cut => (far.reverse ++ route).length ≤ cut.2.length) =
      shrinkings mayBeEmpty taken (far.reverse ++ route) := by
  induction far generalizing route with
  | nil =>
    refine List.filter_eq_self.2 fun cut mem => ?_
    exact decide_eq_true (length_of_mem_shrinkings mem)
  | cons c far ih =>
    have back : (c :: far).reverse ++ route = far.reverse ++ c :: route := by simp
    have longest : ¬ (far.reverse ++ c :: route).length ≤ route.length := by
      rw [List.length_append, List.length_cons]
      omega
    rw [back, ← ih (c :: route), List.cons_append, shrinkings,
      List.filter_cons_of_neg (by simpa using longest)]

theorem segmentSplits_append (mayBeEmpty : Bool) (start rest : List Char) :
    EndsWithin rest (segmentSplits mayBeEmpty (start ++ rest)) (segmentSplits mayBeEmpty start) := by
  unfold EndsWithin segmentSplits
  by_cases slash : ∀ c ∈ start, notSlash c = true
  · rw [List.takeWhile_append_of_pos slash, List.dropWhile_append_of_pos slash,
      List.takeWhile_eq_self_iff.2 slash, List.dropWhile_eq_nil_iff.2 slash, List.reverse_append]
    have whole := filter_shrinkings mayBeEmpty (rest.takeWhile notSlash).reverse start.reverse
      (rest.dropWhile notSlash)
    rw [List.reverse_reverse, List.takeWhile_append_dropWhile] at whole
    rw [whole, ← shrinkings_append, List.nil_append]
  · have takes : (start ++ rest).takeWhile notSlash = start.takeWhile notSlash := by
      rw [List.takeWhile_append, if_neg]
      exact fun all =>
        slash (List.takeWhile_eq_self_iff.1 ((List.takeWhile_prefix _).eq_of_length all))
    have drops : (start ++ rest).dropWhile notSlash = start.dropWhile notSlash ++ rest := by
      rw [List.dropWhile_append, if_neg]
      simpa using slash
    rw [takes, drops, shrinkings_append, List.filter_eq_self]
    intro cut mem
    obtain ⟨shorter, -, rfl⟩ := List.mem_map.1 mem
    simp

theorem splits_append (p : Char → Bool) (start rest : List Char) :
    EndsWithin rest (splits p (start ++ rest)) (splits p start) := by
  induction start with
  | nil =>
    cases rest with
    | nil => exact .cons [] [] .nil
    | cons c rest =>
      rw [List.nil_append, splits]
      refine .cons [] [] (.nothing fun cut mem => ?_)
      by_cases hc : p c = true
      · rw [if_pos hc] at mem
        obtain ⟨⟨piece, left⟩, split, rfl⟩ := List.mem_map.1 mem
        have := congrArg List.length (mem_splits.1 split).1
        rw [List.length_append] at this
        exact Nat.lt_succ_of_le (this ▸ Nat.le_add_left _ _)
      · rw [if_neg hc] at mem
        cases mem
  | cons c start ih =>
    rw [List.cons_append, splits, splits]
    refine .cons [] (c :: start) ?_
    by_cases hc : p c = true
    · rw [if_pos hc, if_pos hc]
      exact ih.map (c :: ·)
    · rw [if_neg hc, if_neg hc]
      exact .nil

namespace Template

theorem length_of_mem_cuttings {t : Template} {route : List Char} {cut : Pieces × List Char}
    (h : cut ∈ t.cuttings route) : cut.2.length ≤ route.length := by
  obtain ⟨used, rfl, -⟩ := (mem_cuttings.1 h).used
  rw [List.length_append]
  omega

/-- The cuttings of a start of a route are those of the route that end within it. -/
theorem cuttings_append (t : Template) (start rest : List Char) :
    EndsWithin rest (t.cuttings (start ++ rest)) (t.cuttings start) := by
  induction t generalizing start with
  | done => exact .cons [] start .nil
  | literal c next ih =>
    cases start with
    | cons d start =>
      rw [List.cons_append, cuttings, cuttings]
      split
      · exact ih start
      · exact .nil
    | nil =>
      cases rest with
      | nil => exact .nil
      | cons d rest =>
        refine .nothing fun cut mem => ?_
        rw [List.nil_append, cuttings] at mem
        split at mem
        · exact Nat.lt_succ_of_le (length_of_mem_cuttings mem)
        · cases mem
  | segment name mayBeEmpty next ih =>
    exact (segmentSplits_append mayBeEmpty start rest).flatMap
      (fun piece pieces => (name, piece) :: pieces) (fun _ _ => length_of_mem_cuttings) ih
  | run name next ih =>
    exact (splits_append notNewline start rest).flatMap
      (fun piece pieces => (name, piece) :: pieces) (fun _ _ => length_of_mem_cuttings) ih
  | optional body next ihBody ihNext =>
    have used := (ihBody start).flatMap (fun inner pieces => inner ++ pieces)
      (fun _ _ => length_of_mem_cuttings) ihNext
    exact used.append (ihNext start)

/-- If the preferred cutting of a route leaves `rest` over, then it is the preferred one of the
start before that, and leaves nothing over there. -/
theorem head?_cuttings {t : Template} {start rest : List Char} {pieces : Pieces}
    (first : (t.cuttings (start ++ rest)).head? = some (pieces, rest)) :
    (t.cuttings start).head? = some (pieces, []) := by
  obtain ⟨others, found⟩ : ∃ others, t.cuttings (start ++ rest) = (pieces, rest) :: others :=
    List.head?_eq_some_iff.1 first
  have within := t.cuttings_append start rest
  unfold EndsWithin at within
  rw [found, List.filter_cons_of_pos (by simp)] at within
  cases short : t.cuttings start with
  | nil => simp [short] at within
  | cons cut more =>
    rw [short, List.map_cons] at within
    obtain ⟨same, same'⟩ := Prod.mk.inj (List.cons.inj within).1
    have nothing : cut.2 = [] := List.append_left_eq_self.1 same'.symm
    rw [List.head?_cons, ← nothing, same]

end Template

variable {p : Pattern} {route : String} {pieces : Pieces}

theorem matchStart?_eq_some {captured : Params} {rest : String} :
    p.matchStart? route = some (captured, rest) ↔
      ∃ pieces, (p.template.cuttings route.toList).head? = some (pieces, rest.toList) ∧
        captured = captures pieces := by
  rw [matchStart?, Template.search_start, Option.map_eq_some_iff]
  constructor
  · rintro ⟨⟨pieces, left⟩, first, same⟩
    obtain ⟨rfl, rfl⟩ := Prod.mk.inj same
    exact ⟨pieces, by simpa using first, rfl⟩
  · rintro ⟨pieces, first, rfl⟩
    exact ⟨(pieces, rest.toList), first, by simp⟩

theorem matchWhole?_of_head?
    (first : (p.template.cuttings route.toList).head? = some (pieces, [])) :
    p.matchWhole? route = some (captures pieces) := by
  obtain ⟨others, found⟩ := List.head?_eq_some_iff.1 first
  rw [matchWhole?, Template.search_eq, found]
  simp

/-- If a pattern finds a start of a route, then this start by itself is matched as a whole, with the
same captures in the same order. It finds one exactly if it matches any start of the route as a
whole, and so it does if it matches the route. -/
theorem matchStart?_agrees (p : Pattern) (route : String) :
    (∀ captured rest, p.matchStart? route = some (captured, rest) →
      ∃ start, route = start ++ rest ∧ p.matchWhole? start = some captured) ∧
    (p.matchStart? route = none ↔
      ∀ start rest, route = start ++ rest → p.matchWhole? start = none) ∧
    (p.matchWhole? route ≠ none → p.matchStart? route ≠ none) := by
  have cutOff : ∀ captured rest, p.matchStart? route = some (captured, rest) →
      ∃ start, route = start ++ rest ∧ p.matchWhole? start = some captured := by
    intro captured rest found
    obtain ⟨pieces, first, rfl⟩ := matchStart?_eq_some.1 found
    have cuts := Template.mem_cuttings.1 (List.mem_of_head? first)
    obtain ⟨start, whole, -⟩ := cuts.used
    refine ⟨String.ofList start, ?_, matchWhole?_of_head? ?_⟩
    · rw [← String.toList_inj, whole]
      simp
    · rw [whole] at first
      simpa using Template.head?_cuttings first
  have unmatched : p.matchStart? route = none →
      ∀ start rest, route = start ++ rest → p.matchWhole? start = none := by
    rintro none start rest rfl
    rcases matchStart?_cases p (start ++ rest) with ⟨-, uncut⟩ | ⟨pieces, left, -, found⟩
    · rw [Option.eq_none_iff_forall_ne_some]
      intro captured matched
      obtain ⟨pieces, cuts, -⟩ := cuts_of_matchWhole? matched
      exact uncut pieces _ (by simpa using cuts.append rest.toList)
    · rw [none] at found
      cases found
  refine ⟨cutOff, ⟨unmatched, fun never => ?_⟩, fun matched none => ?_⟩
  · rw [Option.eq_none_iff_forall_ne_some]
    rintro ⟨captured, rest⟩ found
    obtain ⟨start, whole, matched⟩ := cutOff captured rest found
    rw [never start rest whole] at matched
    cases matched
  · exact matched (unmatched none route "" (by simp))

/-- A run takes no more than it has to, and the segment behind it all that there is. -/
example :
    let p : Pattern := ⟨"*path.:kind", ["path", "kind"],
      .run "path" (.literal '.' (.segment "kind" true .done))⟩
    p.matchStart? "a/b.tar.gz/x" = some ([("path", "a/b"), ("kind", "tar.gz")], "/x") ∧
      p.matchWhole? "a/b.tar.gz" = some [("path", "a/b"), ("kind", "tar.gz")] := by
  decide +kernel

end Pattern
end HandlerChains
