namespace AgdaConsole.Text

/-- A code point lies in one of some closed intervals. -/
def inIntervals (intervals : List (Nat × Nat)) (n : Nat) : Bool :=
  intervals.any fun (lo, hi) => lo ≤ n && n ≤ hi

end AgdaConsole.Text
