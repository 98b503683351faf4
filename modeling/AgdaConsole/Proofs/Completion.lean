import AgdaConsole.Completion
import AgdaConsole.Proofs.Text.Lower

namespace AgdaConsole.Completion

theorem mem_insertOnce {w x : String} {words : List String} :
    x ∈ insertOnce w words ↔ x = w ∨ x ∈ words := by
  induction words with
  | nil => simp [insertOnce]
  | cons y words ih =>
    rw [insertOnce]
    split
    · exact List.mem_cons
    · split
      next hy => simp [hy]
      next => simp [ih, or_left_comm]

theorem mem_foldr_insertOnce {x : String} {words : List String} :
    x ∈ words.foldr insertOnce [] ↔ x ∈ words := by
  induction words with
  | nil => rfl
  | cons w words ih => rw [List.foldr_cons, mem_insertOnce, ih, List.mem_cons]

theorem mem_candidates {files : List String} {start x : String} :
    x ∈ candidates files start ↔ (x ∈ vocabulary ∨ x ∈ files) ∧ completes start x = true := by
  rw [candidates, mem_foldr_insertOnce, List.mem_filter, List.mem_append]

/-- A start of a word completes to it, unless lower case makes its last sigma final. -/
theorem completes_append_iff (start rest : String) :
    completes start (start ++ rest) = true ↔ ¬ Text.SigmaTurns start.toList rest.toList := by
  rw [completes, List.isPrefixOf_iff_prefix, String.toList_append, Text.lower_prefix_iff]

theorem sigma_not_mem_of_mem_vocabulary {w : String} (hw : w ∈ vocabulary) : 'Σ' ∉ w.toList := by
  have hall : ∀ w ∈ vocabulary, 'Σ' ∉ w.toList := by decide +kernel
  exact hall w hw

/-- The candidates for the start of a word have the word among them exactly when it is one of the
words that are always completed, or the name of a file in which no sigma is final in the start
alone. -/
theorem candidates_start_law (files : List String) (start rest : String) :
    start ++ rest ∈ candidates files start ↔ start ++ rest ∈ vocabulary ∨
      start ++ rest ∈ files ∧ ¬ Text.SigmaTurns start.toList rest.toList := by
  have hvocabulary : start ++ rest ∈ vocabulary → ¬ Text.SigmaTurns start.toList rest.toList := by
    intro hw
    refine Text.not_sigmaTurns_of_not_mem (fun hm => sigma_not_mem_of_mem_vocabulary hw ?_) _
    rw [String.toList_append]
    exact List.mem_append_left _ hm
  rw [mem_candidates, completes_append_iff]
  constructor
  · rintro ⟨hw | hw, hturns⟩
    · exact .inl hw
    · exact .inr ⟨hw, hturns⟩
  · rintro (hw | ⟨hw, hturns⟩)
    · exact ⟨.inl hw, hvocabulary hw⟩
    · exact ⟨.inr hw, hturns⟩

/-- A file whose name has a letter behind a capital sigma is no candidate for the name up to the
sigma. -/
theorem sigma_not_completed :
    "ΑΣ" ++ "Α" ∈ ["ΑΣΑ"] ∧ "ΑΣ" ≠ "" ∧ "ΑΣ" ++ "Α" ∉ candidates ["ΑΣΑ"] "ΑΣ" := by
  refine ⟨by decide, by decide, fun hmem => ?_⟩
  have hcompletes : completes "ΑΣ" ("ΑΣ" ++ "Α") = false := by decide +kernel
  rw [(mem_candidates.mp hmem).2] at hcompletes
  exact absurd hcompletes (by decide)

end AgdaConsole.Completion
