/-!
# Fields of a text

A text cut at every occurrence of a separator. There is always one field more than there are
separators, and joining the fields again gives the text back.
-/

namespace HandlerChains
namespace Text

def cutAt (sep : Char) : List Char → List (List Char)
  | [] => [[]]
  | c :: rest =>
    if c = sep then [] :: cutAt sep rest
    else match cutAt sep rest with
      | [] => [[c]]
      | field :: more => (c :: field) :: more

def fields (sep : Char) (s : String) : List String := (cutAt sep s.toList).map String.ofList

def joinWith (sep : Char) : List (List Char) → List Char
  | [] => []
  | [field] => field
  | field :: more => field ++ sep :: joinWith sep more

theorem cutAt_ne_nil (sep : Char) (cs : List Char) : cutAt sep cs ≠ [] := by
  cases cs with
  | nil => simp [cutAt]
  | cons c rest =>
    by_cases h : c = sep
    · simp [cutAt, h]
    · simp only [cutAt, h, if_false]
      split <;> simp

theorem joinWith_cutAt (sep : Char) (cs : List Char) : joinWith sep (cutAt sep cs) = cs := by
  induction cs with
  | nil => rfl
  | cons c rest ih =>
    have some_field := cutAt_ne_nil sep rest
    by_cases h : c = sep
    · subst h
      cases e : cutAt c rest with
      | nil => exact absurd e some_field
      | cons field more =>
        rw [e] at ih
        simp [cutAt, e, joinWith, ih]
    · cases e : cutAt sep rest with
      | nil => exact absurd e some_field
      | cons field more =>
        rw [e] at ih
        cases more with
        | nil => simpa [cutAt, h, e, joinWith] using ih
        | cons _ _ => simpa [cutAt, h, e, joinWith] using ih

end Text
end HandlerChains
