import AgdaConsole.Proofs.Range.Grammar

namespace AgdaConsole

theorem Text.padded_decimal (n : UInt32) : Padded (decimal n.toNat) n :=
  ⟨[], [], rfl, rfl, (List.append_nil _).symm⟩

namespace Position

/-- The coordinates of a position, between colons. -/
def text (p : Position) : List Char :=
  List.intercalate [':'] [Text.decimal p.line.toNat, Text.decimal p.column.toNat,
    Text.decimal p.offset.toNat]

theorem mem_text {p : Position} {c : Char} (hc : c ∈ p.text) :
    Text.isDecimal c = true ∨ c = ':' := by
  rcases Text.mem_of_mem_intercalate hc with hc | ⟨s, hs, hc⟩
  · exact .inr (List.mem_singleton.mp hc)
  · simp only [List.mem_cons, List.not_mem_nil, or_false] at hs
    rcases hs with rfl | rfl | rfl
    · exact .inl (Text.isDecimal_of_mem_decimal hc)
    · exact .inl (Text.isDecimal_of_mem_decimal hc)
    · exact .inl (Text.isDecimal_of_mem_decimal hc)

theorem layout_text (p : Position) : Layout Text.Padded p.text p := by
  have hcolon : ∀ n, ':' ∉ Text.decimal n := Text.not_mem_decimal (by decide)
  refine ⟨_, _, _, ⟨by simp, ?_, rfl⟩, Text.padded_decimal _, Text.padded_decimal _,
    Text.padded_decimal _⟩
  simp only [List.forall_mem_cons]
  exact ⟨hcolon _, hcolon _, hcolon _, by simp⟩

end Position

namespace Interval

/-- The ends of an interval, around a dash. -/
def text (i : Interval) : List Char := i.start.text ++ '-' :: i.stop.text

theorem mem_text {i : Interval} {c : Char} (hc : c ∈ i.text) :
    Text.isDecimal c = true ∨ c = ':' ∨ c = '-' := by
  rcases List.mem_append.mp hc with hc | hc
  · exact (Position.mem_text hc).imp_right .inl
  · rcases List.mem_cons.mp hc with rfl | hc
    · exact .inr (.inr rfl)
    · exact (Position.mem_text hc).imp_right .inl

theorem layout_text (i : Interval) : Layout Text.Padded i.text i := by
  have hdash : '-' ∉ i.start.text := by
    intro hm
    rcases Position.mem_text hm with h | h
    · exact absurd h (by decide)
    · exact absurd h (by decide)
  exact ⟨_, _, hdash, rfl, i.start.layout_text, i.stop.layout_text⟩

end Interval

namespace Range

/-- Some intervals, between commas. -/
def text (is : List Interval) : List Char := List.intercalate [','] (is.map Interval.text)

theorem layout_text {is : List Interval} (hne : is ≠ []) : Layout Text.Padded (text is) is := by
  have hcomma : ∀ s ∈ is.map Interval.text, ',' ∉ s := by
    intro s hs hm
    obtain ⟨j, _, rfl⟩ := List.mem_map.mp hs
    rcases Interval.mem_text hm with h | h | h
    · exact absurd h (by decide)
    · exact absurd h (by decide)
    · exact absurd h (by decide)
  refine ⟨is.map Interval.text, ⟨by simpa using hne, hcomma, rfl⟩, ?_⟩
  rw [List.forall₂_map_left_iff, List.forall₂_same]
  exact fun i _ => i.layout_text

/-- The text of at least one interval is read as the range of these intervals. -/
theorem read_text (file : Option String) {is : List Interval} (hne : is ≠ []) :
    read file (String.ofList (text is)) = .ok (.span file is) := by
  refine read_of_padded ?_ file
  rw [String.toList_ofList]
  exact layout_text hne

theorem of_read {file : Option String} {s : String} {r : Range} (h : read file s = .ok r) :
    r = .noRange ∨ ∃ is, is ≠ [] ∧ r = .span file is := by
  cases r with
  | noRange => exact .inl rfl
  | span g is =>
    obtain ⟨rfl, his⟩ := read_eq_span_iff.mp h
    exact .inr ⟨is, his.ne_nil, rfl⟩

end Range

end AgdaConsole
