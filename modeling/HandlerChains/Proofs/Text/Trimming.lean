import HandlerChains.Text.Blank
import Mathlib.Data.List.DropRight

/-!
# Trimming

What is trimmed begins and ends with characters that are kept, and putting something to cut around
it is undone by trimming. Cutting at the start alone comes to the same where there is nothing to cut
at the end. Texts that are trimmed of characters of one kind and texts that are cut at the start of
those of another kind are the same only if neither kind was there to be cut.
-/

namespace HandlerChains
namespace Text

section

variable {p q : Char → Bool} {cs : List Char}

theorem trimBoth_last (some : trimBoth p cs ≠ []) : p ((trimBoth p cs).getLast some) = false :=
  Bool.eq_false_iff.2 (List.rdropWhile_last_not p (cs.dropWhile p) some)

theorem trimBoth_head (some : trimBoth p cs ≠ []) : p ((trimBoth p cs).head some) = false := by
  have start : trimBoth p cs <+: cs.dropWhile p := List.rdropWhile_prefix p _
  have rest : cs.dropWhile p ≠ [] := fun none => some (List.prefix_nil.1 (none ▸ start))
  rw [start.head some]
  exact List.head_dropWhile_not p rest

/-- Trimming takes away what is put around a text, and no more. -/
theorem trimBoth_between {c : Char} (cut : p c = true) (some : cs ≠ [])
    (first : p (cs.head some) = false) (last : p (cs.getLast some) = false) :
    trimBoth p (c :: cs ++ [c]) = cs := by
  obtain ⟨a, rest, rfl⟩ := List.exists_cons_of_ne_nil some
  have ends : (a :: rest).rdropWhile p = a :: rest := by
    rw [List.rdropWhile_eq_self_iff]
    intro nonempty
    rw [last]
    exact Bool.false_ne_true
  have begins : (c :: (a :: rest) ++ [c]).dropWhile p = a :: rest ++ [c] := by
    have first : p a = false := first
    simp [first, cut]
  change List.rdropWhile p _ = _
  rw [begins, List.rdropWhile_concat_pos p _ c cut, ends]

/-- Cutting at the start comes to cutting at both ends if there is nothing to cut at the end, or if
nothing is left. -/
theorem dropWhile_eq_trimBoth_iff :
    cs.dropWhile p = trimBoth p cs ↔ cs.rdropWhile p = cs ∨ trimBoth p cs = [] := by
  have ends : cs.dropWhile p = trimBoth p cs ↔
      ∀ some : cs.dropWhile p ≠ [], ¬ p ((cs.dropWhile p).getLast some) = true := by
    rw [← List.rdropWhile_eq_self_iff, eq_comm]
    rfl
  have last : ∀ (some : cs.dropWhile p ≠ []) (some' : cs ≠ []),
      (cs.dropWhile p).getLast some = cs.getLast some' :=
    fun some _ => (List.dropWhile_suffix p).getLast some
  rw [ends, List.rdropWhile_eq_self_iff]
  constructor
  · intro kept
    by_cases none : cs.dropWhile p = []
    · exact .inr (by rw [trimBoth, none]; rfl)
    · exact .inl fun some => last none some ▸ kept none
  · rintro (kept | none) some
    · have some' : cs ≠ [] := fun none => some (by rw [none]; rfl)
      exact last some some' ▸ kept some'
    · have all : ∀ c ∈ cs.dropWhile p, p c = true := List.rdropWhile_eq_nil_iff.1 none
      have first := all _ (List.head_mem some)
      rw [List.head_dropWhile_not p some] at first
      cases first

theorem dropWhile_eq_trimBoth (some : cs ≠ []) (last : p (cs.getLast some) = false) :
    cs.dropWhile p = trimBoth p cs :=
  dropWhile_eq_trimBoth_iff.2 (.inl (List.rdropWhile_eq_self_iff.2 fun _ => by simp [last]))

section

variable (apart : ∀ c, p c = true → q c = false) (core : trimBoth q cs ≠ [])
variable (same : (trimBoth q cs).dropWhile p = trimBoth p cs)
include apart core same

theorem getLast_of_trimmed (some : cs ≠ []) : q (cs.getLast some) = false := by
  by_contra cut
  have other : p (cs.getLast some) = false := by
    by_contra mine
    exact cut (apart _ (by simpa using mine))
  have whole := dropWhile_eq_trimBoth some other
  have left : cs.dropWhile p ≠ [] := fun none => by
    have all := List.dropWhile_eq_nil_iff.1 none _ (List.getLast_mem some)
    rw [other] at all
    cases all
  have left' : (trimBoth q cs).dropWhile p ≠ [] := by rwa [same, ← whole]
  have kept := trimBoth_last core
  rw [← (List.dropWhile_suffix p).getLast left'] at kept
  simp only [same, ← whole] at kept
  rw [(List.dropWhile_suffix p).getLast left] at kept
  exact cut kept

theorem trimBoth_of_trimmed : trimBoth q cs = cs.dropWhile q := by
  have some : cs ≠ [] := by
    rintro rfl
    exact core rfl
  exact (dropWhile_eq_trimBoth some (getLast_of_trimmed apart core same some)).symm

theorem dropWhile_of_trimmed (some : cs ≠ []) (first : p (cs.head some) = false) :
    (trimBoth q cs).dropWhile p = cs := by
  have start := trimBoth_of_trimmed apart core same
  have whole : cs.dropWhile p = cs := by
    rw [List.dropWhile_eq_self_iff]
    intro positive mine
    rw [List.head_eq_getElem, mine] at first
    cases first
  have left : trimBoth p cs ≠ [] := by
    change (cs.dropWhile p).rdropWhile p ≠ []
    rw [whole, Ne, List.rdropWhile_eq_nil_iff]
    intro all
    rw [all _ (List.head_mem some)] at first
    cases first
  have kept := trimBoth_last left
  simp only [← same] at kept left
  rw [(List.dropWhile_suffix p).getLast left] at kept
  simp only [start] at kept core
  rw [(List.dropWhile_suffix q).getLast core] at kept
  rw [same, ← dropWhile_eq_trimBoth some kept, whole]

theorem trimBoth_eq_self : trimBoth q cs = cs := by
  have start := trimBoth_of_trimmed apart core same
  cases cs with
  | nil => rfl
  | cons c rest =>
    by_cases cut : q c = true
    · have kept : p c = false := by
        by_contra mine
        rw [apart c (by simpa using mine)] at cut
        cases cut
      have whole := dropWhile_of_trimmed apart core same (List.cons_ne_nil c rest) kept
      rw [start, List.dropWhile_cons_of_pos cut] at whole
      have inside : (rest.dropWhile q).dropWhile p <:+ rest :=
        (List.dropWhile_suffix p).trans (List.dropWhile_suffix q)
      rw [whole] at inside
      exact absurd inside.length_le (Nat.not_succ_le_self rest.length)
    · rw [start, List.dropWhile_cons_of_neg cut]

end

theorem trimmed_iff (apart : ∀ c, p c = true → q c = false) (core : trimBoth q cs ≠ []) :
    (trimBoth q cs).dropWhile p = trimBoth p cs ↔
      trimBoth q cs = cs ∧ (cs.rdropWhile p = cs ∨ trimBoth p cs = []) := by
  constructor
  · intro same
    have whole := trimBoth_eq_self apart core same
    rw [whole] at same
    exact ⟨whole, dropWhile_eq_trimBoth_iff.1 same⟩
  · rintro ⟨whole, kept⟩
    rw [whole]
    exact dropWhile_eq_trimBoth_iff.2 kept

end

variable {s t : String} {p : Char → Bool}

theorem trimStart_eq_trim_iff :
    trimStart p s = trim p s ↔ trimEnd p s = s ∨ trim p s = "" := by
  rw [trimStart, trim, String.ofList_inj, dropWhile_eq_trimBoth_iff,
    String.ofList_eq_empty_iff, ← String.toList_inj, trimEnd, String.toList_ofList]
  rfl

theorem trimStart_append (p : Char → Bool) (s t : String) :
    trimStart p (s ++ t) = if trimStart p s = "" then trimStart p t else trimStart p s ++ t := by
  simp only [trimStart, String.toList_append, List.dropWhile_append, String.ofList_eq_empty_iff,
    List.isEmpty_iff]
  split
  · rfl
  · rw [String.ofList_append, String.ofList_toList]

theorem trimEnd_append (some : t ≠ "") (ends : trimEnd p t = t) :
    trimEnd p (s ++ t) = s ++ t := by
  have some : t.toList ≠ [] := by simpa using some
  have ends : t.toList.rdropWhile p = t.toList := by
    rw [← String.toList_inj, trimEnd, String.toList_ofList] at ends
    exact ends
  have whole : (s ++ t).toList.rdropWhile p = (s ++ t).toList := by
    rw [List.rdropWhile_eq_self_iff] at ends ⊢
    simpa [List.getLast_append_of_ne_nil _ some] using fun _ => ends some
  rw [← String.toList_inj, trimEnd, String.toList_ofList]
  exact whole

theorem trimStart_trimStart (p : Char → Bool) (s : String) :
    trimStart p (trimStart p s) = trimStart p s := by
  rw [trimStart, trimStart, String.toList_ofList, List.dropWhile_idempotent]

end Text
end HandlerChains
