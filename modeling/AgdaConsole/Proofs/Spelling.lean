import AgdaConsole.Protocol.Verb

namespace AgdaConsole

/-- A character of the fixed words of the protocol. -/
def isNameChar (c : Char) : Bool := c.isAlpha || c == '_'

theorem bounds_of_isNameChar {c : Char} (h : isNameChar c = true) :
    65 ≤ c.toNat ∧ c.toNat ≤ 122 := by
  rcases Bool.or_eq_true_iff.mp h with h | h
  · rcases Bool.or_eq_true_iff.mp (show (c.isUpper || c.isLower) = true from h) with h | h
    · obtain ⟨hlo, hhi⟩ := of_decide_eq_true h
      have hlo := UInt32.le_iff_toNat_le.mp hlo
      have hhi := UInt32.le_iff_toNat_le.mp hhi
      change 65 ≤ c.toNat at hlo
      change c.toNat ≤ 90 at hhi
      omega
    · obtain ⟨hlo, hhi⟩ := Bool.and_eq_true_iff.mp h
      have hlo := UInt32.le_iff_toNat_le.mp (of_decide_eq_true hlo)
      have hhi := UInt32.le_iff_toNat_le.mp (of_decide_eq_true hhi)
      change 97 ≤ c.toNat at hlo
      change c.toNat ≤ 122 at hhi
      omega
  · rw [beq_iff_eq.mp h]
    decide

/-- A vocabulary whose values are told apart by their spellings, which are single words. -/
class Vocabulary.Lawful (α : Type) [Vocabulary α] : Prop where
  readSpelling_spelling : ∀ a : α, readSpelling (Vocabulary.spelling a) = .ok a
  all_isNameChar : ∀ a : α, (Vocabulary.spelling a).toList.all isNameChar = true

instance : Vocabulary.Lawful RewriteMode where
  readSpelling_spelling a := by cases a <;> rfl
  all_isNameChar a := by cases a <;> decide

instance : Vocabulary.Lawful ComputeMode where
  readSpelling_spelling a := by cases a <;> rfl
  all_isNameChar a := by cases a <;> decide

instance : Vocabulary.Lawful CompileBackend where
  readSpelling_spelling a := by cases a <;> rfl
  all_isNameChar a := by cases a <;> decide

instance : Vocabulary.Lawful TokenHighlighting where
  readSpelling_spelling a := by cases a <;> rfl
  all_isNameChar a := by cases a <;> decide

instance : Vocabulary.Lawful UseForce where
  readSpelling_spelling a := by cases a <;> rfl
  all_isNameChar a := by cases a <;> decide

theorem Verb.ofName?_name (v : Verb) : Verb.ofName? v.name = some v := by
  cases v <;> rfl

theorem Verb.all_isNameChar_name (v : Verb) : v.name.toList.all isNameChar = true := by
  cases v <;> decide

end AgdaConsole
