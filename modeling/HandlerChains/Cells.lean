/-!
# Numbered cells

A list of cells read and written by number. Reading outside gives the default, and writing outside
fills the gap with it, so what is written is always what is read.
-/

namespace HandlerChains

abbrev Cells (α : Type) := List α

namespace Cells

variable {α : Type} [Inhabited α]

def read (cells : Cells α) (n : Nat) : α := cells.getD n default

def write : Cells α → Nat → α → Cells α
  | [], 0, a => [a]
  | [], n + 1, a => default :: write [] n a
  | _ :: rest, 0, a => a :: rest
  | b :: rest, n + 1, a => b :: write rest n a

@[simp] theorem read_write_self (cells : Cells α) (n : Nat) (a : α) :
    read (write cells n a) n = a := by
  induction n generalizing cells with
  | zero => cases cells <;> simp [write, read]
  | succ n ih => cases cells <;> simpa [write, read] using ih _

theorem read_write_of_ne (cells : Cells α) {n m : Nat} (a : α) (ne : m ≠ n) :
    read (write cells n a) m = read cells m := by
  induction n generalizing cells m with
  | zero =>
    cases m with
    | zero => exact absurd rfl ne
    | succ m => cases cells <;> simp [write, read]
  | succ n ih =>
    cases m with
    | zero => cases cells <;> simp [write, read]
    | succ m =>
      have ne : m ≠ n := fun e => ne (by rw [e])
      cases cells with
      | nil => simpa [write, read] using ih [] ne
      | cons b rest => simpa [write, read] using ih rest ne

@[simp] theorem write_write (cells : Cells α) (n : Nat) (a b : α) :
    write (write cells n a) n b = write cells n b := by
  induction n generalizing cells with
  | zero => cases cells <;> rfl
  | succ n ih =>
    cases cells with
    | nil => simp only [write, ih]
    | cons d rest => simp only [write, ih]

end Cells
end HandlerChains
