import AgdaConsole.Proofs.Text.Pieces
import AgdaConsole.Text.Blank
import Mathlib.Data.List.DropRight
import Mathlib.Data.List.TakeWhile

namespace AgdaConsole.Text

theorem allBlank_cons {c : Char} {s : List Char} :
    allBlank (c :: s) = true ↔ isBlank c = true ∧ allBlank s = true := by
  rw [allBlank, List.all_cons, Bool.and_eq_true, allBlank]

theorem dropWhile_isBlank {s : List Char} (h : ∀ c ∈ s, isBlank c = false) :
    s.dropWhile isBlank = s := by
  cases s with
  | nil => rfl
  | cons c r => rw [List.dropWhile_cons_of_neg (by simp [h c (by simp)])]

theorem trim_of_not_isBlank {s : List Char} (h : ∀ c ∈ s, isBlank c = false) : trim s = s := by
  have hr : ∀ c ∈ s.reverse, isBlank c = false := fun c hc => h c (List.mem_reverse.mp hc)
  rw [trim, trimStart, dropWhile_isBlank h, trimEnd, dropWhile_isBlank hr, List.reverse_reverse]

/-- What trimming takes away from a text is blank. -/
theorem exists_trim (s : List Char) :
    ∃ b e, allBlank b = true ∧ allBlank e = true ∧ s = b ++ trim s ++ e := by
  refine ⟨s.takeWhile isBlank, (trimStart s).rtakeWhile isBlank, ?_, ?_, ?_⟩
  · exact List.all_takeWhile
  · exact List.all_eq_true.mpr fun c hc => List.mem_rtakeWhile_imp hc
  · have hend : trim s ++ (trimStart s).rtakeWhile isBlank = trimStart s :=
      List.rdropWhile_append_rtakeWhile
    rw [List.append_assoc, hend]
    exact (List.takeWhile_append_dropWhile).symm

theorem trim_subset (s : List Char) : trim s ⊆ s := by
  intro c hc
  obtain ⟨b, e, -, -, hs⟩ := exists_trim s
  rw [hs]
  exact List.mem_append_left e (List.mem_append_right b hc)

theorem getLast_trim_not_isBlank {s : List Char} (h : trim s ≠ []) :
    isBlank ((trim s).getLast h) = false := by
  have hlast := List.rdropWhile_last_not isBlank (trimStart s) h
  exact Bool.eq_false_iff.mpr hlast

/-- A text that is not blank stays so when its blanks at the ends go. -/
theorem allBlank_trim (s : List Char) : allBlank (trim s) = allBlank s := by
  obtain ⟨b, e, hb, he, hs⟩ := exists_trim s
  have hparts : allBlank (b ++ trim s ++ e) = allBlank (trim s) := by
    simp only [allBlank, List.all_append] at hb he ⊢
    rw [hb, he, Bool.true_and, Bool.and_true]
  rw [← hparts, ← hs]

/-- Blanks around a text do not matter to what is left when the ends are trimmed. -/
theorem trim_pad {b e : List Char} (hb : allBlank b = true) (he : allBlank e = true)
    (s : List Char) : trim (b ++ s ++ e) = trim s := by
  have hend : ∀ r, trimEnd (r ++ e) = trimEnd r := by
    intro r
    have hblank : ∀ c ∈ e.reverse, isBlank c = true :=
      fun c hc => List.all_eq_true.mp he c (List.mem_reverse.mp hc)
    rw [trimEnd, List.reverse_append, List.dropWhile_append_of_pos hblank, trimEnd]
  have hstart : trimStart (b ++ s ++ e) = trimStart (s ++ e) := by
    have hblank : ∀ c ∈ b, isBlank c = true := List.all_eq_true.mp hb
    rw [List.append_assoc, trimStart, List.dropWhile_append_of_pos hblank, trimStart]
  rw [trim, hstart, trim, trimStart, List.dropWhile_append]
  split
  next hs =>
    have hnil : e.dropWhile isBlank = [] := List.dropWhile_eq_nil_iff.mpr (List.all_eq_true.mp he)
    rw [hnil, trimStart, List.isEmpty_iff.mp hs]
  next hs => rw [hend, trimStart]

theorem trim_allBlank_append {b : List Char} (hb : allBlank b = true) (s : List Char) :
    trim (b ++ s) = trim s := by
  have h := trim_pad hb (e := []) rfl s
  rwa [List.append_nil] at h

theorem trim_eq_nil_iff {s : List Char} : trim s = [] ↔ allBlank s = true := by
  constructor
  · intro h
    rw [← allBlank_trim, h]
    rfl
  · intro h
    have hpad := trim_allBlank_append h []
    rwa [List.append_nil] at hpad

theorem not_mem_of_allBlank {c : Char} (hc : isBlank c = false) {b : List Char}
    (hb : allBlank b = true) : c ∉ b := by
  intro hm
  rw [List.all_eq_true.mp hb c hm] at hc
  exact absurd hc (by decide)

theorem mem_trim {c : Char} (hc : isBlank c = false) {s : List Char} : c ∈ trim s ↔ c ∈ s := by
  refine ⟨fun hm => trim_subset s hm, fun hm => ?_⟩
  obtain ⟨b, e, hb, he, hs⟩ := exists_trim s
  rw [hs] at hm
  rcases List.mem_append.mp hm with hm | hm
  · exact (List.mem_append.mp hm).resolve_left (not_mem_of_allBlank hc hb)
  · exact absurd hm (not_mem_of_allBlank hc he)

/-- Blanks around a text are blanks around its first and its last piece. -/
theorem map_trim_pieces_pad {sep : Char} (hsep : isBlank sep = false) {b e : List Char}
    (hb : allBlank b = true) (he : allBlank e = true) (s : List Char) :
    (pieces sep (b ++ s ++ e)).map trim = (pieces sep s).map trim := by
  obtain ⟨hne, hnot, hs⟩ := splits_pieces sep s
  generalize pieces sep s = ps at hne hnot hs
  obtain ⟨p, ps, rfl⟩ := List.exists_cons_of_ne_nil hne
  subst hs
  induction ps generalizing b p with
  | nil =>
    have hp : sep ∉ b ++ p ++ e := by
      simp [hnot p (by simp), not_mem_of_allBlank hsep hb, not_mem_of_allBlank hsep he]
    rw [List.intercalate_singleton, pieces_of_not_mem hp, List.map_singleton, trim_pad hb he,
      List.map_singleton]
  | cons q qs ih =>
    have hp : sep ∉ b ++ p := by simp [hnot p (by simp), not_mem_of_allBlank hsep hb]
    have hrest := ih (b := []) rfl q (by simp) fun r hr => hnot r (List.mem_cons_of_mem p hr)
    rw [List.intercalate_cons_cons, List.append_assoc, List.append_assoc, List.append_assoc,
      ← List.append_assoc b p, List.singleton_append, pieces_append_cons hp,
      List.map_cons, List.map_cons, trim_allBlank_append hb, ← hrest, List.nil_append]

theorem map_trim_pieces_trim {sep : Char} (hsep : isBlank sep = false) (s : List Char) :
    (pieces sep (trim s)).map trim = (pieces sep s).map trim := by
  obtain ⟨b, e, hb, he, hs⟩ := exists_trim s
  have h := map_trim_pieces_pad hsep hb he (trim s)
  rw [← hs] at h
  exact h.symm

/-- Blanks around a text are blanks around the two sides of its first separator. -/
theorem exists_cutFirst_trim {sep : Char} (hsep : isBlank sep = false) {a : List Char}
    (ha : sep ∉ a) (b : List Char) :
    ∃ x y, cutFirst sep (trim (a ++ sep :: b)) = some (x, y) ∧ trim x = trim a ∧
      trim y = trim b := by
  have hmem : sep ∈ trim (a ++ sep :: b) := (mem_trim hsep).mpr (by simp)
  obtain ⟨x, y, hxy, hx⟩ := List.eq_append_cons_of_mem hmem
  obtain ⟨d, e, hd, he, hs⟩ := exists_trim (a ++ sep :: b)
  have hdx : sep ∉ d ++ x := by simp [hx, not_mem_of_allBlank hsep hd]
  have hsides : a ++ sep :: b = d ++ x ++ sep :: (y ++ e) := by
    rw [hs, hxy]
    simp only [List.append_assoc, List.cons_append]
  have hcut := cutFirst_append_cons ha b
  rw [hsides, cutFirst_append_cons hdx] at hcut
  obtain ⟨rfl, rfl⟩ := Prod.mk.inj (Option.some.inj hcut)
  rw [hxy, cutFirst_append_cons hx]
  exact ⟨x, y, rfl, (trim_allBlank_append hd x).symm, (trim_pad (b := []) rfl he y).symm⟩

end AgdaConsole.Text
