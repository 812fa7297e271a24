import HandlerChains.World

/-!
# Courses

What an execution went through: which routers were run and which entries, handlers, actions and
predicates were called for it, in order and inside each other, each with the world as it was before
and after. A course is an answer of an execution only. Nothing that is executed can look at it or
take anything out of it.
-/

namespace HandlerChains

/-- Why an execution ended early: it failed, a command named something that does not exist, or calls
were nested deeper than was allowed. -/
inductive Stop where
  | failed (f : Failure)
  | undefined (name : String)
  | exhausted

/-- Whether an execution ended with a failure that error handlers are tried on. -/
def Stop.isOrdinary : Stop → Bool
  | failed f => f.isOrdinary
  | undefined _ | exhausted => false

theorem Stop.eq_failed {s : Stop} (h : s.isOrdinary = true) :
    ∃ f, s = .failed f ∧ f.isOrdinary = true := by
  cases s with
  | failed f => exact ⟨f, rfl, h⟩
  | undefined name => cases h
  | exhausted => cases h

/-- What a stage of an execution is about. A `recovery` is the walk along the error handlers of a
router, and an `override` the call of what a class has in the place of a method of its routers. -/
inductive Stage where
  | run (r : RouterRef)
  | entry (r : RouterRef) (error : Bool) (place : Nat)
  | handler (h : Handler)
  | recovery (r : RouterRef) (f : Failure)
  | action (a : Action)
  | predicate (p : Predicate)
  | override (r : RouterRef) (name : String)

/-- Whether something that users wrote is called: an action, a predicate, or a method in the place
of what routers do by themselves. -/
def Stage.isCall : Stage → Bool
  | action _ | predicate _ | override .. => true
  | run _ | entry .. | handler _ | recovery .. => false

structure Passage where
  stage : Stage
  before : World
  ending : Except Stop Value
  after : World

/-- The passages of an execution, the first one with what happened inside it. -/
inductive Course where
  | done
  | step (p : Passage) (inside rest : Course)

namespace Course

protected def append : Course → Course → Course
  | done, other => other
  | step p inside rest, other => step p inside (Course.append rest other)

instance : Append Course := ⟨Course.append⟩

@[simp] theorem done_append (t : Course) : done ++ t = t := rfl

@[simp] theorem step_append (p : Passage) (inside rest t : Course) :
    step p inside rest ++ t = step p inside (rest ++ t) := rfl

@[simp] theorem append_done (t : Course) : t ++ done = t := by
  induction t with
  | done => rfl
  | step p inside rest _ ih => rw [step_append, ih]

theorem append_assoc (s t u : Course) : s ++ t ++ u = s ++ (t ++ u) := by
  induction s with
  | done => rfl
  | step p inside rest _ ih => rw [step_append, step_append, step_append, ih]

end Course
end HandlerChains
