import AgdaConsole.Text.Pieces
import Mathlib.Data.List.Basic

namespace AgdaConsole.Text

theorem pieces_of_not_mem {sep : Char} {s : List Char} (h : sep ∉ s) : pieces sep s = [s] := by
  induction s with
  | nil => rfl
  | cons c r ih =>
    have hc := (List.ne_of_not_mem_cons h).symm
    have hr := List.not_mem_of_not_mem_cons h
    rw [pieces, if_neg hc, ih hr]
    rfl

theorem consFirst_append (c : Char) {ps : List (List Char)} (h : ps ≠ []) (qs : List (List Char)) :
    consFirst c (ps ++ qs) = consFirst c ps ++ qs := by
  obtain ⟨p, rest, rfl⟩ := List.exists_cons_of_ne_nil h
  rfl

theorem pieces_append (sep : Char) (s t : List Char) :
    pieces sep (s ++ sep :: t) = pieces sep s ++ pieces sep t := by
  induction s with
  | nil => simp [pieces]
  | cons c r ih =>
    rw [List.cons_append, pieces, pieces, ih]
    split
    · rfl
    · exact consFirst_append c (pieces_ne_nil sep r) _

theorem pieces_append_cons {sep : Char} {p : List Char} (h : sep ∉ p) (s : List Char) :
    pieces sep (p ++ sep :: s) = p :: pieces sep s := by
  rw [pieces_append, pieces_of_not_mem h]
  rfl

/-- Texts without the separator are the pieces of the text that joins them. -/
theorem pieces_intercalate {sep : Char} {ps : List (List Char)} (hne : ps ≠ [])
    (h : ∀ p ∈ ps, sep ∉ p) : pieces sep (List.intercalate [sep] ps) = ps := by
  obtain ⟨first, rest, rfl⟩ := List.exists_cons_of_ne_nil hne
  clear hne
  induction rest generalizing first with
  | nil =>
    rw [List.intercalate_singleton]
    exact pieces_of_not_mem (h first List.mem_cons_self)
  | cons next rest ih =>
    have hfirst := h first List.mem_cons_self
    have hjoined := ih next fun p hp => h p (List.mem_cons_of_mem first hp)
    rw [List.intercalate_cons_cons, List.append_assoc, List.singleton_append,
      pieces_append_cons hfirst, hjoined]

theorem mem_intercalate {sep p : List Char} {ps : List (List Char)} {c : Char} (hp : p ∈ ps)
    (hc : c ∈ p) : c ∈ List.intercalate sep ps := by
  induction ps with
  | nil => simp at hp
  | cons q qs ih =>
    cases qs with
    | nil =>
      rw [List.mem_singleton.mp hp] at hc
      simpa using hc
    | cons r rs =>
      rw [List.intercalate_cons_cons]
      rcases List.mem_cons.mp hp with rfl | hp
      · exact List.mem_append_left _ (List.mem_append_left _ hc)
      · exact List.mem_append_right _ (ih hp)

theorem mem_of_mem_intercalate {sep : List Char} {ps : List (List Char)} {c : Char}
    (hc : c ∈ List.intercalate sep ps) : c ∈ sep ∨ ∃ p ∈ ps, c ∈ p := by
  induction ps with
  | nil => simp at hc
  | cons q qs ih =>
    cases qs with
    | nil =>
      rw [List.intercalate_singleton] at hc
      exact .inr ⟨q, by simp, hc⟩
    | cons r rs =>
      rw [List.intercalate_cons_cons] at hc
      rcases List.mem_append.mp hc with hc | hc
      · rcases List.mem_append.mp hc with hc | hc
        · exact .inr ⟨q, by simp, hc⟩
        · exact .inl hc
      · rcases ih hc with hc | ⟨p, hp, hc⟩
        · exact .inl hc
        · exact .inr ⟨p, List.mem_cons_of_mem q hp, hc⟩

theorem not_mem_of_mem_pieces {sep : Char} {s p : List Char} (hp : p ∈ pieces sep s) :
    sep ∉ p := by
  induction s generalizing p with
  | nil => simp [pieces] at hp; simp [hp]
  | cons c r ih =>
    rw [pieces] at hp
    split at hp
    · rcases List.mem_cons.mp hp with rfl | hp
      · simp
      · exact ih hp
    next hc =>
      obtain ⟨q, qs, hq⟩ := List.exists_cons_of_ne_nil (pieces_ne_nil sep r)
      rw [hq] at hp ih
      rcases List.mem_cons.mp hp with rfl | hp
      · intro hm
        rcases List.mem_cons.mp hm with he | hm
        · exact hc he.symm
        · exact ih (by simp) hm
      · exact ih (List.mem_cons_of_mem q hp)

theorem subset_of_mem_pieces {sep : Char} {s p : List Char} (hp : p ∈ pieces sep s) : p ⊆ s := by
  induction s generalizing p with
  | nil =>
    rw [pieces, List.mem_singleton] at hp
    exact hp ▸ List.Subset.refl []
  | cons c r ih =>
    rw [pieces] at hp
    split at hp
    · rcases List.mem_cons.mp hp with rfl | hp
      · exact List.nil_subset _
      · exact List.Subset.trans (ih hp) (List.subset_cons_self c r)
    · obtain ⟨q, qs, hq⟩ := List.exists_cons_of_ne_nil (pieces_ne_nil sep r)
      rw [hq] at hp ih
      rcases List.mem_cons.mp hp with rfl | hp
      · exact List.cons_subset_cons c (ih List.mem_cons_self)
      · exact List.Subset.trans (ih (List.mem_cons_of_mem q hp)) (List.subset_cons_self c r)

/-- A text that is some pieces with a separator between any two of them. -/
def Splits (sep : Char) (s : List Char) (ps : List (List Char)) : Prop :=
  ps ≠ [] ∧ (∀ p ∈ ps, sep ∉ p) ∧ s = List.intercalate [sep] ps

theorem intercalate_pieces (sep : Char) (s : List Char) :
    List.intercalate [sep] (pieces sep s) = s := by
  induction s with
  | nil => rfl
  | cons c r ih =>
    obtain ⟨p, ps, hps⟩ := List.exists_cons_of_ne_nil (pieces_ne_nil sep r)
    rw [hps] at ih
    rw [pieces]
    split
    next hc => rw [hc, hps, List.intercalate_cons_cons, ih]; rfl
    next =>
      rw [hps, consFirst]
      cases ps with
      | nil =>
        rw [List.intercalate_singleton] at ih ⊢
        rw [ih]
      | cons q qs =>
        rw [List.intercalate_cons_cons] at ih ⊢
        rw [List.cons_append, List.cons_append, ih]

theorem splits_pieces (sep : Char) (s : List Char) : Splits sep s (pieces sep s) :=
  ⟨pieces_ne_nil sep s, fun _ hp => not_mem_of_mem_pieces hp, (intercalate_pieces sep s).symm⟩

theorem pieces_eq_iff {sep : Char} {s : List Char} {ps : List (List Char)} :
    pieces sep s = ps ↔ Splits sep s ps := by
  refine ⟨fun h => h ▸ splits_pieces sep s, ?_⟩
  rintro ⟨hne, hsep, rfl⟩
  exact pieces_intercalate hne hsep

theorem cutFirst_append_cons {sep : Char} {p : List Char} (h : sep ∉ p) (s : List Char) :
    cutFirst sep (p ++ sep :: s) = some (p, s) := by
  induction p with
  | nil => simp [cutFirst]
  | cons c r ih =>
    have hc := (List.ne_of_not_mem_cons h).symm
    have hr := List.not_mem_of_not_mem_cons h
    rw [List.cons_append, cutFirst, if_neg hc, ih hr]
    rfl

theorem cutFirst_of_not_mem {sep : Char} {s : List Char} (h : sep ∉ s) : cutFirst sep s = none := by
  induction s with
  | nil => rfl
  | cons c r ih =>
    have hc := (List.ne_of_not_mem_cons h).symm
    have hr := List.not_mem_of_not_mem_cons h
    rw [cutFirst, if_neg hc, ih hr]
    rfl

theorem linesOf_of_not_mem {s : List Char} (hne : s ≠ []) (h : '\n' ∉ s) : linesOf s = [s] := by
  simp [linesOf, pieces_of_not_mem h, hne]

theorem dropReturn_subset (s : List Char) : dropReturn s ⊆ s := by
  unfold dropReturn
  split
  · exact (List.dropLast_sublist s).subset
  · exact List.Subset.refl s

/-- The lines of a text before a newline and those after it are found apart. -/
theorem linesOf_append_newline (s t : List Char) :
    linesOf (s ++ '\n' :: t) = (pieces '\n' s).map dropReturn ++ linesOf t := by
  have hne := pieces_ne_nil '\n' t
  have hlast : (pieces '\n' s ++ pieces '\n' t).getLastD [] = (pieces '\n' t).getLastD [] := by
    rw [List.getLastD_eq_getLast?, List.getLastD_eq_getLast?, List.getLast?_append_of_ne_nil _ hne]
  simp only [linesOf, pieces_append, hlast, List.dropLast_append_of_ne_nil hne, List.map_append,
    List.append_assoc]

theorem linesOf_concat_newline (s : List Char) :
    linesOf (s ++ ['\n']) = (pieces '\n' s).map dropReturn := by
  have h := linesOf_append_newline s []
  exact h.trans (List.append_nil _)

theorem exists_piece_of_mem_linesOf {s l : List Char} (hl : l ∈ linesOf s) :
    ∃ p ∈ pieces '\n' s, l ⊆ p := by
  rcases List.mem_append.mp hl with hl | hl
  · obtain ⟨p, hp, rfl⟩ := List.mem_map.mp hl
    exact ⟨p, List.dropLast_subset _ hp, dropReturn_subset p⟩
  · split at hl
    · simp at hl
    next hne =>
      have htail : (pieces '\n' s).getLastD [] ∈ [] :: pieces '\n' s := List.getLastD_mem_cons
      rcases List.mem_cons.mp htail with hnil | hp
      · exact absurd (List.isEmpty_iff.mpr hnil) hne
      · rw [List.mem_singleton.mp hl]
        exact ⟨_, hp, List.Subset.refl _⟩

theorem not_newline_mem_of_mem_linesOf {s l : List Char} (hl : l ∈ linesOf s) : '\n' ∉ l := by
  obtain ⟨p, hp, hsub⟩ := exists_piece_of_mem_linesOf hl
  exact fun hn => not_mem_of_mem_pieces hp (hsub hn)

theorem subset_of_mem_linesOf {s l : List Char} (hl : l ∈ linesOf s) : l ⊆ s := by
  obtain ⟨p, hp, hsub⟩ := exists_piece_of_mem_linesOf hl
  exact List.Subset.trans hsub (subset_of_mem_pieces hp)

end AgdaConsole.Text
