/-!
Calls of outside services. A service answers as a function of what it is asked, with a value or a failure and after
some time, and a caller waits no longer than its limit.
-/

namespace HybridSearch

/-- How a call ends, and after how many milliseconds. -/
structure Attempt (α : Type) where
  result : Except String α
  delay : Nat

namespace Attempt

variable {α : Type}

def atOnce (result : Except String α) : Attempt α := ⟨result, 0⟩

/-- The value of a call that succeeds no later than the limit. -/
def within (limit : Nat) (attempt : Attempt α) : Option α :=
  if limit < attempt.delay then none else attempt.result.toOption

end Attempt

end HybridSearch
