/-! Tables of code points as closed intervals. -/

set_option autoImplicit false

namespace TableQuery.Text

def covers (intervals : List (Nat × Nat)) (code : Nat) : Bool :=
  intervals.any fun interval => interval.1 ≤ code && code ≤ interval.2

theorem covers_iff {intervals : List (Nat × Nat)} {code : Nat} :
    covers intervals code = true ↔
      ∃ interval ∈ intervals, interval.1 ≤ code ∧ code ≤ interval.2 := by
  simp [covers]

end TableQuery.Text
