/-!
# Lines of inheritance

A class inherits from its line: itself, and then all that its bases inherit from, each once. The
line keeps the order of the bases and the lines of the bases; where these contradict each other,
there is none.
-/

namespace HandlerChains
namespace Linearization

variable {α : Type} [DecidableEq α]

/-- A name can come next if it stands behind no other name. -/
def isFree (lines : List (List α)) (name : α) : Bool :=
  lines.all fun line => !line.tail.contains name

/-- The next name: the first free one among the fronts of the lines. -/
def next? (lines : List (List α)) : Option α :=
  (lines.filterMap List.head?).find? (isFree lines)

def dropFront (name : α) : List α → List α
  | [] => []
  | head :: rest => if head = name then rest else head :: rest

def dropFronts (name : α) (lines : List (List α)) : List (List α) :=
  lines.map (dropFront name)

def size {α : Type} : List (List α) → Nat
  | [] => 0
  | line :: lines => line.length + size lines

theorem length_dropFront_le (name : α) (line : List α) :
    (dropFront name line).length ≤ line.length := by
  cases line with
  | nil => simp [dropFront]
  | cons head rest => by_cases h : head = name <;> simp [dropFront, h]

theorem size_dropFronts_le (name : α) (lines : List (List α)) :
    size (dropFronts name lines) ≤ size lines := by
  induction lines with
  | nil => exact Nat.le_refl _
  | cons line lines ih => exact Nat.add_le_add (length_dropFront_le name line) ih

theorem size_dropFronts_lt {name : α} {lines : List (List α)}
    (front : name ∈ lines.filterMap List.head?) :
    size (dropFronts name lines) < size lines := by
  induction lines with
  | nil => simp at front
  | cons line lines ih =>
    by_cases h : line.head? = some name
    · have le := size_dropFronts_le name lines
      cases line with
      | nil => simp at h
      | cons head rest =>
        have shorter : (dropFront name (head :: rest)).length < (head :: rest).length := by
          simp only [List.head?_cons, Option.some.injEq] at h
          simp [dropFront, h]
        exact Nat.add_lt_add_of_lt_of_le shorter le
    · have front' : name ∈ lines.filterMap List.head? := by
        cases line with
        | nil => simpa using front
        | cons head rest =>
          rw [List.filterMap_cons, List.head?_cons] at front
          rcases List.mem_cons.1 front with same | front
          · exact absurd (by rw [same]; rfl) h
          · exact front
      exact Nat.add_lt_add_of_le_of_lt (length_dropFront_le name line) (ih front')

theorem mem_fronts_of_next? {name : α} {lines : List (List α)}
    (h : next? lines = some name) : name ∈ lines.filterMap List.head? :=
  List.mem_of_find?_eq_some h

def merge (lines : List (List α)) : Option (List α) :=
  if lines.all List.isEmpty then some []
  else match _h : next? lines with
    | none => none
    | some name => (merge (dropFronts name lines)).map (name :: ·)
termination_by size lines
decreasing_by exact size_dropFronts_lt (mem_fronts_of_next? ‹_›)

/-- The line of a class, from the lines of its bases. -/
def ofBases (name : α) (bases : List α) (lines : List (List α)) :
    Option (List α) :=
  (merge (lines ++ [bases])).map (name :: ·)

end Linearization
end HandlerChains
