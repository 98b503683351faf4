namespace AgdaConsole.Text

def byteCount : List Char → Nat
  | [] => 0
  | c :: r => c.utf8Size + byteCount r

/-- A text without the characters that lie within some bytes of its start. -/
def dropBytes : Nat → List Char → List Char
  | _, [] => []
  | n, c :: r => if c.utf8Size ≤ n then dropBytes (n - c.utf8Size) r else c :: r

theorem byteCount_append (s t : List Char) :
    byteCount (s ++ t) = byteCount s + byteCount t := by
  induction s with
  | nil => simp [byteCount]
  | cons c r ih => simp only [List.cons_append, byteCount, ih]; omega

theorem byteCount_reverse (s : List Char) : byteCount s.reverse = byteCount s := by
  induction s with
  | nil => rfl
  | cons c r ih =>
    simp only [List.reverse_cons, byteCount_append, byteCount, ih]
    omega

/-- Dropping the bytes of what a text starts with leaves what comes after. -/
theorem dropBytes_byteCount_append (s t : List Char) : dropBytes (byteCount s) (s ++ t) = t := by
  induction s with
  | nil =>
    cases t with
    | nil => rfl
    | cons c r => simp [byteCount, dropBytes, Nat.ne_of_gt c.utf8Size_pos]
  | cons c r ih => simp [byteCount, dropBytes, ih]

theorem dropBytes_suffix (n : Nat) (s : List Char) : dropBytes n s <:+ s := by
  induction s generalizing n with
  | nil => exact List.suffix_refl []
  | cons c r ih =>
    rw [dropBytes]
    split
    · exact (ih _).trans (List.suffix_cons c r)
    · exact List.suffix_refl (c :: r)

end AgdaConsole.Text
