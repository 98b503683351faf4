import AgdaConsole.Text.Blank
import AgdaConsole.Text.Literal
import AgdaConsole.Text.Numeral

namespace AgdaConsole.Text

theorem isDecimal_eq_isDigit (c : Char) : isDecimal c = c.isDigit := by
  simp only [isDecimal, Char.isDigit, Char.le_def, ge_iff_le]

theorem isDecimal_of_mem_decimal {n : Nat} {c : Char} (hc : c ∈ decimal n) :
    isDecimal c = true := by
  rw [isDecimal_eq_isDigit]
  exact Nat.isDigit_of_mem_toDigits (by decide) (by decide) hc

theorem isDecimal_iff {c : Char} : isDecimal c = true ↔ 48 ≤ c.toNat ∧ c.toNat ≤ 57 := by
  rw [isDecimal_eq_isDigit]
  exact Char.isDigit_iff_toNat

theorem isControl_of_isDecimal {c : Char} (hc : isDecimal c = true) : isControl c = false := by
  have hrange := isDecimal_iff.mp hc
  simp only [isControl, Bool.or_eq_false_iff, decide_eq_false_iff_not, beq_eq_false_iff_ne]
  omega

theorem not_isBlank_of_isDecimal {c : Char} (hc : isDecimal c = true) : isBlank c = false := by
  simp only [isDecimal, Bool.and_eq_true, decide_eq_true_eq, Char.le_def,
    UInt32.le_iff_toNat_le] at hc
  change 48 ≤ c.toNat ∧ c.toNat ≤ 57 at hc
  simp only [isBlank, Bool.or_eq_false_iff, Bool.and_eq_false_iff, decide_eq_false_iff_not,
    beq_eq_false_iff_ne]
  omega

theorem not_mem_decimal {c : Char} (hc : isDecimal c = false) (n : Nat) : c ∉ decimal n := by
  intro hm
  rw [isDecimal_of_mem_decimal hm] at hc
  exact absurd hc (by decide)

theorem decimal_ne_nil (n : Nat) : decimal n ≠ [] := Nat.toDigits_ne_nil

theorem digitValue?_of_isDecimal {c : Char} (hc : isDecimal c = true) :
    digitValue? c = some (c.toNat - 48) := by
  rw [isDecimal] at hc
  rw [digitValue?, if_pos hc]

theorem isSome_digitValue? (c : Char) : (digitValue? c).isSome = isDecimal c := by
  unfold digitValue? isDecimal
  split
  next h => rw [h, Option.isSome_some]
  next h => rw [Bool.eq_false_iff.mpr h, Option.isSome_none]

/-- Some digits are read as the number they write in base ten. -/
theorem readDigits_of_isDecimal {s : List Char} (hs : ∀ c ∈ s, isDecimal c = true) (value : Nat) :
    readDigits value s = some (Nat.ofDigitChars 10 s value) := by
  induction s generalizing value with
  | nil => simp [readDigits]
  | cons c r ih =>
    rw [readDigits, digitValue?_of_isDecimal (hs c (by simp)), Option.bind_some,
      ih (fun d hd => hs d (by simp [hd])), Nat.ofDigitChars_cons]
    rfl

theorem readDigits_eq_some_iff {s : List Char} {value n : Nat} : readDigits value s = some n ↔
    (∀ c ∈ s, isDecimal c = true) ∧ Nat.ofDigitChars 10 s value = n := by
  constructor
  · intro h
    have hs : ∀ c ∈ s, isDecimal c = true := by
      induction s generalizing value with
      | nil => exact fun c hc => absurd hc List.not_mem_nil
      | cons d r ih =>
        obtain ⟨digit, hd, hr⟩ := Option.bind_eq_some_iff.mp h
        have hdecimal : isDecimal d = true := by rw [← isSome_digitValue?, hd, Option.isSome_some]
        exact List.forall_mem_cons.mpr ⟨hdecimal, ih hr⟩
    rw [readDigits_of_isDecimal hs] at h
    exact ⟨hs, Option.some.inj h⟩
  · rintro ⟨hs, rfl⟩
    exact readDigits_of_isDecimal hs value

theorem readNumber_plus {r : List Char} (hr : r ≠ []) :
    readNumber ('+' :: r) = readDigits 0 r := by
  rw [readNumber, if_neg (by simpa using hr)]

theorem readNumber_other {s : List Char} (hs : s ≠ []) (hplus : s.head? ≠ some '+') :
    readNumber s = readDigits 0 s := by
  obtain ⟨c, r, rfl⟩ := List.exists_cons_of_ne_nil hs
  have hc : c ≠ '+' := fun h => hplus (congrArg some h)
  rw [readNumber]
  · exact fun h => absurd h (List.cons_ne_nil c r)
  · intro r' h
    exact hc (List.cons.inj h).1

theorem readDigits_decimal (n : Nat) : readDigits 0 (decimal n) = some n := by
  rw [readDigits_of_isDecimal fun c hc => isDecimal_of_mem_decimal hc]
  exact congrArg some Nat.ofDigitChars_ten_toDigits

/-- The digits of a number start with a digit. -/
theorem decimal_eq_cons (n : Nat) : ∃ c r, decimal n = c :: r ∧ isDecimal c = true := by
  obtain ⟨c, r, hr⟩ := List.exists_cons_of_ne_nil (decimal_ne_nil n)
  exact ⟨c, r, hr, isDecimal_of_mem_decimal (by rw [hr]; simp)⟩

theorem readNumber_decimal (n : Nat) : readNumber (decimal n) = some n := by
  obtain ⟨c, r, hr, hc⟩ := decimal_eq_cons n
  have hplus : (decimal n).head? ≠ some '+' := by
    rw [hr, List.head?_cons, ne_eq, Option.some_inj]
    rintro rfl
    exact absurd hc (by decide)
  rw [readNumber_other (decimal_ne_nil n) hplus, readDigits_decimal]

theorem readWord_decimal (n : UInt32) : readWord (decimal n.toNat) = some n := by
  have hn : n.toNat < UInt32.size := n.toNat_lt
  simp [readWord, readNumber_decimal, hn]

/-- A text that writes a number: some digits, with or without a plus sign in front. -/
def Numeral (s : List Char) (n : Nat) : Prop :=
  ∃ ds, ds ≠ [] ∧ (∀ c ∈ ds, isDecimal c = true) ∧ (s = ds ∨ s = '+' :: ds) ∧
    Nat.ofDigitChars 10 ds 0 = n

theorem readNumber_eq_some_iff {s : List Char} {n : Nat} :
    readNumber s = some n ↔ Numeral s n := by
  constructor
  · intro h
    cases s with
    | nil => exact absurd h (by simp [readNumber])
    | cons c r =>
      by_cases hc : c = '+'
      · subst hc
        by_cases hr : r = []
        · subst hr
          exact absurd h (by simp [readNumber])
        · rw [readNumber_plus hr] at h
          obtain ⟨hs, hn⟩ := readDigits_eq_some_iff.mp h
          exact ⟨r, hr, hs, .inr rfl, hn⟩
      · rw [readNumber_other (List.cons_ne_nil c r) (by simpa using hc)] at h
        obtain ⟨hs, hn⟩ := readDigits_eq_some_iff.mp h
        exact ⟨c :: r, List.cons_ne_nil c r, hs, .inl rfl, hn⟩
  · rintro ⟨ds, hne, hds, rfl | rfl, hn⟩
    · have hplus : s.head? ≠ some '+' := by
        intro h
        exact absurd (hds '+' (List.mem_of_head? h)) (by decide)
      rw [readNumber_other hne hplus]
      exact readDigits_eq_some_iff.mpr ⟨hds, hn⟩
    · rw [readNumber_plus hne]
      exact readDigits_eq_some_iff.mpr ⟨hds, hn⟩

theorem readWord_eq_some_iff {s : List Char} {n : UInt32} :
    readWord s = some n ↔ Numeral s n.toNat := by
  rw [← readNumber_eq_some_iff, readWord]
  cases readNumber s with
  | none => simp
  | some m =>
    have hlt : n.toNat < UInt32.size := n.toNat_lt
    dsimp only
    split
    next hm =>
      rw [Option.some_inj, Option.some_inj, ← UInt32.toNat_inj, UInt32.toNat_ofNatLT]
    next hm =>
      rw [Option.some_inj]
      exact iff_of_false (by simp) (fun h => hm (h ▸ hlt))

theorem le_ofDigitChars (s : List Char) (value : Nat) :
    value ≤ Nat.ofDigitChars 10 s value := by
  induction s generalizing value with
  | nil => simp
  | cons c r ih =>
    rw [Nat.ofDigitChars_cons]
    have := ih (10 * value + (c.toNat - '0'.toNat))
    omega

/-- Digits whose number stays below the limit are read as that number. -/
theorem readMagnitude_of_isDecimal {s : List Char} (hs : ∀ c ∈ s, isDecimal c = true)
    {limit value : Nat} (excess : NumeralFault) (hl : Nat.ofDigitChars 10 s value < limit) :
    readMagnitude limit excess value s = .ok (Nat.ofDigitChars 10 s value) := by
  induction s generalizing value with
  | nil => simp [readMagnitude]
  | cons c r ih =>
    rw [Nat.ofDigitChars_cons] at hl ⊢
    have hle := le_ofDigitChars r (10 * value + (c.toNat - '0'.toNat))
    have hd := digitValue?_of_isDecimal (hs c (by simp))
    have hz : '0'.toNat = 48 := rfl
    rw [hz] at hl hle ⊢
    rw [readMagnitude, hd]
    simp only [if_pos (show 10 * value + (c.toNat - 48) < limit by omega)]
    exact ih (fun d hd => hs d (by simp [hd])) hl

theorem readSigned_decimal {n : Nat} (hn : n < signedLimit) :
    readSigned (decimal n) = .ok (n : Int) := by
  obtain ⟨c, r, hr, hc⟩ := decimal_eq_cons n
  have hplus : c ≠ '+' := by rintro rfl; simp [isDecimal] at hc
  have hminus : c ≠ '-' := by rintro rfl; simp [isDecimal] at hc
  have hread : readSigned (c :: r) =
      (readMagnitude signedLimit .tooLarge 0 (c :: r)).map Int.ofNat := by
    rw [readSigned]
    · simp
    · simp [hplus]
    · simp [hminus]
    · intro r' h
      exact hplus (List.cons.inj h).1
    · intro r' h
      exact hminus (List.cons.inj h).1
  have hvalue : Nat.ofDigitChars 10 (decimal n) 0 = n := Nat.ofDigitChars_ten_toDigits
  have hlimit : Nat.ofDigitChars 10 (decimal n) 0 < signedLimit := by omega
  have hmagnitude :=
    readMagnitude_of_isDecimal (fun c hc => isDecimal_of_mem_decimal hc) .tooLarge hlimit
  rw [hr, hread, ← hr, hmagnitude, hvalue]
  rfl

end AgdaConsole.Text
