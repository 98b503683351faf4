import AgdaConsole.Proofs.Completion
import Mathlib.Data.List.DropRight

namespace AgdaConsole

theorem Text.byteCount_toList (s : String) : byteCount s.toList = s.utf8ByteSize := by
  have hlist : ∀ l : List Char, (String.ofList l).utf8ByteSize = byteCount l := by
    intro l
    induction l with
    | nil => rfl
    | cons c r ih =>
      have hcons : String.ofList (c :: r) = String.singleton c ++ String.ofList r := by
        rw [String.singleton_eq_ofList, ← String.ofList_append]
        rfl
      rw [hcons, String.utf8ByteSize_append, String.utf8ByteSize_singleton, ih, byteCount]
  rw [← hlist, String.ofList_toList]

namespace Completion

/-- What stands before the position at which a text ends is that text. -/
theorem before_append (s t : List Char) : before (Text.byteCount s) (s ++ t) = s := by
  induction s with
  | nil => cases t <;> rfl
  | cons c r ih =>
    have hpos : Text.byteCount (c :: r) ≠ 0 := by
      have hc := c.utf8Size_pos
      rw [Text.byteCount]
      omega
    have hrest : Text.byteCount (c :: r) - c.utf8Size = Text.byteCount r :=
      Nat.add_sub_cancel_left ..
    rw [List.cons_append, before, if_neg hpos, hrest, ih]

/-- The last word of a text has no break and reaches back to one, or to the start. -/
theorem exists_lastWord (s : List Char) : ∃ front, s = front ++ lastWord s ∧
    (∀ c ∈ lastWord s, isBreak c = false) ∧ ∀ c, front.getLast? = some c → isBreak c = true := by
  refine ⟨s.rdropWhile fun c => !isBreak c, List.rdropWhile_append_rtakeWhile.symm, ?_, ?_⟩
  · intro c hc
    simpa using List.mem_rtakeWhile_imp hc
  · intro c hc
    have hne : (s.rdropWhile fun c => !isBreak c) ≠ [] := by
      intro hnil
      rw [hnil] at hc
      exact absurd hc (by simp)
    have hlast := List.rdropWhile_last_not (fun c => !isBreak c) s hne
    rw [List.getLast?_eq_some_getLast hne] at hc
    rw [Option.some.inj hc] at hlast
    simpa using hlast

theorem isBreak_iff {c : Char} : isBreak c = true ↔ isBlank c = true ∨ c = ':' ∨ c = '!' := by
  simp [isBreak, or_assoc]

theorem pairwise_insertOnce {words : List String} (h : words.Pairwise (· < ·)) (w : String) :
    (insertOnce w words).Pairwise (· < ·) := by
  induction words with
  | nil => exact List.pairwise_singleton _ w
  | cons x words ih =>
    obtain ⟨hx, hwords⟩ := List.pairwise_cons.mp h
    rw [insertOnce]
    split
    next hlt =>
      refine List.pairwise_cons.mpr ⟨fun y hy => ?_, h⟩
      rcases List.mem_cons.mp hy with rfl | hy
      · exact hlt
      · exact String.lt_trans hlt (hx y hy)
    next hlt =>
      split
      next => exact h
      next hne =>
        have hgt : x < w := by grind
        refine List.pairwise_cons.mpr ⟨fun y hy => ?_, ih hwords⟩
        rcases mem_insertOnce.mp hy with rfl | hy
        · exact hgt
        · exact hx y hy

/-- Candidates rise by code point, so that none stands twice. -/
theorem pairwise_candidates (files : List String) (start : String) :
    (candidates files start).Pairwise (· < ·) := by
  unfold candidates
  induction (vocabulary ++ files).filter (completes start) with
  | nil => exact List.Pairwise.nil
  | cons w words ih => exact pairwise_insertOnce ih w

theorem mem_vocabulary {x : String} : x ∈ vocabulary ↔
    x ∈ Verb.names ∨ x ∈ allSpellings ∨ x ∈ (flags.map fun f => "--" ++ f.name) ∨
      x ∈ keywords := by
  simp only [vocabulary, List.mem_append, or_assoc]

/-- The word in front of a position is completed, and it starts behind the rest of the text in
front of the position. -/
theorem complete_append (files : List String) (typed rest : String) {front : List Char}
    (hfront : typed.toList = front ++ lastWord typed.toList) :
    complete files (typed ++ rest) typed.utf8ByteSize = (Text.byteCount front,
      if (lastWord typed.toList).isEmpty then []
      else candidates files (String.ofList (lastWord typed.toList))) := by
  have hsize := congrArg Text.byteCount hfront
  rw [Text.byteCount_append] at hsize
  rw [complete, String.toList_append, ← Text.byteCount_toList, before_append, hsize,
    Nat.add_sub_cancel]

/-- At every position between two characters of a line the text to replace is the longest word
that ends there, and it starts between two characters too. Nothing is offered for the empty word.
For another the offers are shown as they are put in, rise by code point, and are the words and the
files whose lower case starts with that of the word. -/
theorem offers_law (files : List String) (typed rest : String) :
    let (start, offered) := offers files (typed ++ rest) typed.utf8ByteSize
    ∃ front word : String, typed = front ++ word ∧ start = front.utf8ByteSize ∧
      (∀ c ∈ word.toList, isBlank c = false ∧ c ≠ ':' ∧ c ≠ '!') ∧
      (front = "" ∨
        ∃ c, front.toList.getLast? = some c ∧ (isBlank c = true ∨ c = ':' ∨ c = '!')) ∧
      if word = "" then offered = []
      else
        (∀ o ∈ offered, o.display = o.replacement) ∧
        (offered.map Offer.replacement).Pairwise (· < ·) ∧
        ∀ x, x ∈ offered.map Offer.replacement ↔
          (x ∈ Verb.names ∨ x ∈ allSpellings ∨ x ∈ (flags.map fun f => "--" ++ f.name) ∨
            x ∈ keywords ∨ x ∈ files) ∧ Text.lower word.toList <+: Text.lower x.toList := by
  obtain ⟨front, hfront, hplain, hbreak⟩ := exists_lastWord typed.toList
  have hcomplete := complete_append files typed rest hfront
  generalize lastWord typed.toList = word at hfront hplain hcomplete
  rw [offers, hcomplete]
  refine ⟨String.ofList front, String.ofList word, ?_, ?_, ?_, ?_, ?_⟩
  · rw [← String.ofList_append, ← hfront, String.ofList_toList]
  · rw [← Text.byteCount_toList, String.toList_ofList]
  · intro c hc
    rw [String.toList_ofList] at hc
    simpa [isBreak, and_assoc] using hplain c hc
  · rw [String.toList_ofList]
    cases hlast : front.getLast? with
    | none =>
      rw [List.getLast?_eq_none_iff.mp hlast]
      exact .inl rfl
    | some c => exact .inr ⟨c, rfl, isBreak_iff.mp (hbreak c hlast)⟩
  · have hempty : String.ofList word = "" ↔ word = [] := by
      rw [← String.toList_inj, String.toList_ofList]
      rfl
    split
    next hnil => rw [hempty.mp hnil]; rfl
    next hne =>
      have hword : word.isEmpty = false := by simpa [hempty] using hne
      have hwords (words : List String) :
          (words.map Offer.ofWord).map Offer.replacement = words :=
        (List.map_map ..).trans (List.map_id words)
      rw [hword]
      refine ⟨fun o ho => ?_, ?_, fun x => ?_⟩
      · obtain ⟨w, -, rfl⟩ := List.mem_map.mp ho
        rfl
      · rw [hwords]
        exact pairwise_candidates files _
      · rw [hwords, if_neg (by decide), mem_candidates, mem_vocabulary, completes,
          List.isPrefixOf_iff_prefix]
        simp only [or_assoc]

end Completion

end AgdaConsole
