import HandlerChains.Proofs.Text.Trimming
import HandlerChains.Site.BasePath

/-!
# Routes below a base path

A base path is the root, or it has a slash at each end and none next to those. So it comes apart
from a request path in one way: what lies below it begins with it, or is the base path without its
last slash.
-/

namespace HandlerChains
namespace Site

open Text

/-- A base path is the root, or a text between two slashes that does not begin or end with one. -/
theorem wrapPath_cases (s : String) :
    (trimBoth isSlash s.toList = [] ∧ wrapPath s = "/") ∨
      ∃ some : trimBoth isSlash s.toList ≠ [],
        isSlash ((trimBoth isSlash s.toList).head some) = false ∧
        isSlash ((trimBoth isSlash s.toList).getLast some) = false ∧
        (wrapPath s).toList = '/' :: trimBoth isSlash s.toList ++ ['/'] := by
  unfold wrapPath trim
  by_cases none : trimBoth isSlash s.toList = []
  · exact .inl ⟨none, by simp [none]⟩
  · refine .inr ⟨none, trimBoth_head none, trimBoth_last none, ?_⟩
    have kept : String.ofList (trimBoth isSlash s.toList) ≠ "" := fun empty => none <| by
      simpa using congrArg String.toList empty
    simp [kept]

theorem trimEnd_wrapPath (s : String) : trimEnd isSlash (wrapPath s) ++ "/" = wrapPath s := by
  obtain ⟨-, root⟩ | ⟨some, -, last, wrapped⟩ := wrapPath_cases s
  · rw [root]
    rfl
  · have ends : ('/' :: trimBoth isSlash s.toList).rdropWhile isSlash =
        '/' :: trimBoth isSlash s.toList := by
      rw [List.rdropWhile_eq_self_iff]
      intro nonempty
      rw [List.getLast_cons some, last]
      exact Bool.false_ne_true
    have trimmed : trimEnd isSlash (wrapPath s) =
        String.ofList ('/' :: trimBoth isSlash s.toList) :=
      congrArg String.ofList (by
        rw [wrapped]
        exact (List.rdropWhile_concat_pos isSlash _ '/' rfl).trans ends)
    rw [trimmed, ← String.toList_inj, wrapped, String.toList_append, String.toList_ofList]
    rfl

theorem wrapPath_congr {s t : String} (same : trim isSlash s = trim isSlash t) :
    wrapPath s = wrapPath t := by
  unfold wrapPath
  rw [same]

theorem wrapPath_wrapPath (s : String) : wrapPath (wrapPath s) = wrapPath s := by
  obtain ⟨-, root⟩ | ⟨some, first, last, wrapped⟩ := wrapPath_cases s
  · rw [root]
    rfl
  · have same : trim isSlash (wrapPath s) = trim isSlash s := by
      unfold trim
      rw [wrapped, trimBoth_between rfl some first last]
    exact wrapPath_congr same

/-- What it means for a path to lead to a route below a base path: it is the base path followed by
the route, or the base path without its last slash, which is no empty path and has the empty
route. -/
def LeadsTo (base path route : String) : Prop :=
  path = base ++ route ∨ route = "" ∧ path ≠ "" ∧ path ++ "/" = base

theorem routeBelow?_eq_some (s path route : String) :
    routeBelow? (wrapPath s) path = some route ↔ LeadsTo (wrapPath s) path route := by
  have slash := trimEnd_wrapPath s
  unfold routeBelow? LeadsTo
  cases below : dropStart? (wrapPath s).toList path.toList with
  | some rest =>
    have starts : path = wrapPath s ++ String.ofList rest := by
      rw [← String.toList_inj, dropStart?_eq_some.1 below, String.toList_append,
        String.toList_ofList]
    constructor
    · rintro ⟨⟩
      exact .inl starts
    · rintro (same | ⟨-, -, short⟩)
      · rw [starts] at same
        exact congrArg some ((String.append_right_inj _).1 same)
      · have longer := congrArg String.length short
        rw [starts, String.length_append, String.length_append] at longer
        have : String.length "/" = 1 := rfl
        omega
  | none =>
    have apart : ∀ route, path ≠ wrapPath s ++ route := by
      rintro route rfl
      rw [String.toList_append, dropStart?_eq_some.2 rfl] at below
      cases below
    dsimp only
    split
    · next without =>
      constructor
      · rintro ⟨⟩
        exact .inr ⟨rfl, without.2, by rw [without.1, slash]⟩
      · rintro (same | ⟨rfl, -, -⟩)
        · exact absurd same (apart route)
        · rfl
    · next other =>
      constructor
      · rintro ⟨⟩
      · rintro (same | ⟨rfl, some, short⟩)
        · exact absurd same (apart route)
        · exact absurd ⟨(String.append_left_inj _).1 (short.trans slash.symm), some⟩ other

theorem LeadsTo.unique {s path route route' : String} (leads : LeadsTo (wrapPath s) path route)
    (leads' : LeadsTo (wrapPath s) path route') : route = route' := by
  rw [← routeBelow?_eq_some] at leads leads'
  exact Option.some.inj (leads.symm.trans leads')

theorem routeBelow?_eq_none (s path : String) :
    routeBelow? (wrapPath s) path = none ↔ ∀ route, ¬ LeadsTo (wrapPath s) path route := by
  rw [Option.eq_none_iff_forall_ne_some]
  exact forall_congr' fun route => not_congr (routeBelow?_eq_some s path route)

end Site
end HandlerChains
