import AgdaConsole.Text.Lower
import Mathlib.Data.List.TakeWhile

namespace AgdaConsole.Text

/-- The start of a text ends in a capital sigma behind a letter, apart from characters that are
not seen, and the rest goes on with a letter. Such a sigma is final in the start alone, and not in
the whole text. -/
def SigmaTurns (start rest : List Char) : Prop :=
  ∃ a b, start = a ++ 'Σ' :: b ∧ meetsCased a.reverse = true ∧
    (∀ c ∈ b, isCaseIgnorable c = true) ∧ meetsCased rest = true

theorem isCaseIgnorable_sigma : isCaseIgnorable 'Σ' = false := by decide +kernel

theorem lowerAfter_sigma (before r : List Char) : lowerAfter before ('Σ' :: r) =
    (if meetsCased before && !meetsCased r then 'ς' else 'σ') :: lowerAfter ('Σ' :: before) r := by
  rw [lowerAfter, if_pos rfl]
  split
  · rfl
  · rfl

theorem lowerAfter_other {c : Char} (hc : c ≠ 'Σ') (before r : List Char) :
    lowerAfter before (c :: r) = lowerChar c ++ lowerAfter (c :: before) r := by
  rw [lowerAfter, if_neg hc]

theorem meetsCased_append_of_ignorable {s : List Char} (hs : ∀ c ∈ s, isCaseIgnorable c = true)
    (t : List Char) : meetsCased (s ++ t) = meetsCased t := by
  rw [meetsCased, List.dropWhile_append_of_pos hs, meetsCased]

theorem meetsCased_append_of_mem {s : List Char} {c : Char} (hc : c ∈ s)
    (hi : isCaseIgnorable c = false) (t u : List Char) :
    meetsCased (s ++ t) = meetsCased (s ++ u) := by
  have hne : (s.dropWhile isCaseIgnorable).isEmpty = false := by
    refine List.isEmpty_eq_false_iff.mpr fun hnil => ?_
    have hall := List.dropWhile_eq_nil_iff.mp hnil c hc
    rw [hi] at hall
    exact absurd hall (by decide)
  obtain ⟨d, r, hd⟩ := List.exists_cons_of_ne_nil (List.isEmpty_eq_false_iff.mp hne)
  simp only [meetsCased, List.dropWhile_append, hd, List.isEmpty_cons, List.cons_append]
  rfl

/-- The lower case of the start of a text depends on the rest only as far as its capital sigmas
find a letter in it. -/
theorem exists_lowerAfter_append {s t u : List Char} (before : List Char)
    (h : ∀ a b, s = a ++ 'Σ' :: b → meetsCased (a.reverse ++ before) = true →
      meetsCased (b ++ t) = meetsCased (b ++ u)) :
    ∃ low, lowerAfter before (s ++ t) = low ++ lowerAfter (s.reverse ++ before) t ∧
      lowerAfter before (s ++ u) = low ++ lowerAfter (s.reverse ++ before) u := by
  induction s generalizing before with
  | nil => exact ⟨[], rfl, rfl⟩
  | cons c s ih =>
    have hrest : ∀ a b, s = a ++ 'Σ' :: b → meetsCased (a.reverse ++ c :: before) = true →
        meetsCased (b ++ t) = meetsCased (b ++ u) := by
      intro a b hs hm
      refine h (c :: a) b (congrArg (c :: ·) hs) ?_
      rwa [List.reverse_cons, List.append_assoc]
    obtain ⟨low, ht, hu⟩ := ih (c :: before) hrest
    rw [List.reverse_cons, List.append_assoc, List.singleton_append]
    by_cases hc : c = 'Σ'
    · subst hc
      have hsame : (meetsCased before && !meetsCased (s ++ t)) =
          (meetsCased before && !meetsCased (s ++ u)) := by
        cases hm : meetsCased before with
        | false => rfl
        | true => rw [h [] s rfl hm]
      rw [List.cons_append, List.cons_append, lowerAfter_sigma, lowerAfter_sigma, ht, hu, hsame]
      exact ⟨_ :: low, rfl, rfl⟩
    · rw [List.cons_append, List.cons_append, lowerAfter_other hc, lowerAfter_other hc, ht, hu]
      exact ⟨lowerChar c ++ low, (List.append_assoc ..).symm, (List.append_assoc ..).symm⟩

/-- The lower case of a text starts with that of any start of it, unless a capital sigma is final
in the start alone. -/
theorem lower_prefix_iff (start rest : List Char) :
    lower start <+: lower (start ++ rest) ↔ ¬ SigmaTurns start rest := by
  constructor
  · rintro hprefix ⟨a, b, rfl, ha, hb, hrest⟩
    -- a sigma is seen whatever follows it, so that all before it has one lower case
    have hbefore : ∀ x y, a = x ++ 'Σ' :: y → meetsCased (x.reverse ++ []) = true →
        meetsCased (y ++ 'Σ' :: (b ++ rest)) = meetsCased (y ++ 'Σ' :: b) := by
      intro x y _ _
      have hm : 'Σ' ∈ y ++ ['Σ'] := List.mem_append_right y List.mem_cons_self
      have h := meetsCased_append_of_mem hm isCaseIgnorable_sigma (b ++ rest) b
      rwa [List.append_assoc, List.append_assoc] at h
    obtain ⟨low, hwhole, hstart⟩ := exists_lowerAfter_append [] hbefore
    have hb' : meetsCased b = false := by
      have h := meetsCased_append_of_ignorable hb []
      rwa [List.append_nil] at h
    rw [lower, lower, List.append_assoc, List.cons_append, hwhole, hstart, List.append_nil,
      List.prefix_append_right_inj, lowerAfter_sigma, lowerAfter_sigma, List.cons_prefix_cons,
      ha, hb', meetsCased_append_of_ignorable hb, hrest] at hprefix
    exact absurd hprefix.1 (by decide)
  · intro hturns
    have hseen : ∀ a b, start = a ++ 'Σ' :: b → meetsCased (a.reverse ++ []) = true →
        meetsCased (b ++ rest) = meetsCased (b ++ []) := by
      intro a b hs ha
      rw [List.append_nil] at ha
      by_cases hb : ∀ c ∈ b, isCaseIgnorable c = true
      · rw [meetsCased_append_of_ignorable hb, meetsCased_append_of_ignorable hb]
        exact Bool.eq_false_iff.mpr fun hrest => hturns ⟨a, b, hs, ha, hb, hrest⟩
      · obtain ⟨c, hc, hi⟩ := not_forall₂.mp hb
        exact meetsCased_append_of_mem hc (Bool.eq_false_iff.mpr hi) rest []
    obtain ⟨low, hwhole, hstart⟩ := exists_lowerAfter_append [] hseen
    rw [List.append_nil] at hstart
    rw [lower, lower, hwhole, hstart]
    exact (List.prefix_append_right_inj low).mpr List.nil_prefix

/-- In a text without a capital sigma none can be final. -/
theorem not_sigmaTurns_of_not_mem {start : List Char} (h : 'Σ' ∉ start) (rest : List Char) :
    ¬ SigmaTurns start rest := by
  rintro ⟨a, b, rfl, -⟩
  exact h (List.mem_append_right a List.mem_cons_self)

end AgdaConsole.Text
