import AgdaConsole.Proofs.Text.Blank
import AgdaConsole.Proofs.Text.Digits
import AgdaConsole.Protocol.Range
import Mathlib.Data.List.Forall2

namespace AgdaConsole

/-- A text that writes a number of 32 bits, with any blanks around it. -/
def Text.Field (s : List Char) (n : UInt32) : Prop := Numeral (trim s) n.toNat

/-- A number as it is printed, with any blanks around it. -/
def Text.Padded (s : List Char) (n : UInt32) : Prop :=
  ∃ b e, allBlank b = true ∧ allBlank e = true ∧ s = b ++ decimal n.toNat ++ e

theorem Text.Padded.field {s : List Char} {n : UInt32} (h : Padded s n) : Field s n := by
  obtain ⟨b, e, hb, he, rfl⟩ := h
  have ht : trim (decimal n.toNat) = decimal n.toNat :=
    trim_of_not_isBlank fun c hc => not_isBlank_of_isDecimal (isDecimal_of_mem_decimal hc)
  rw [Field, trim_pad hb he, ht]
  exact readNumber_eq_some_iff.mp (readNumber_decimal n.toNat)

theorem Text.exists_three_of_map_trim {ps : List (List Char)} {a b c : List Char}
    (h : ps.map trim = [a, b, c]) :
    ∃ x y z, ps = [x, y, z] ∧ trim x = a ∧ trim y = b ∧ trim z = c := by
  obtain ⟨x, rest, rfl, hx, hrest⟩ := List.map_eq_cons_iff.mp h
  obtain ⟨y, rest, rfl, hy, hrest⟩ := List.map_eq_cons_iff.mp hrest
  obtain ⟨z, rfl, hz⟩ := List.map_eq_singleton_iff.mp hrest
  exact ⟨x, y, z, rfl, hx, hy, hz⟩

namespace Position

/-- A text that writes a position: three numbers between colons, each written in the given way. -/
def Layout (number : List Char → UInt32 → Prop) (s : List Char) (p : Position) : Prop :=
  ∃ l c o, Text.Splits ':' s [l, c, o] ∧ number l p.line ∧ number c p.column ∧ number o p.offset

theorem Layout.imp {number other : List Char → UInt32 → Prop}
    (h : ∀ s n, number s n → other s n) {s : List Char} {p : Position} (hs : Layout number s p) :
    Layout other s p := by
  obtain ⟨l, c, o, hs, hl, hc, ho⟩ := hs
  exact ⟨l, c, o, hs, h l _ hl, h c _ hc, h o _ ho⟩

/-- What is wrong with a text that writes no position. The number of fields is looked at before
the fields, and of these the first bad one counts. -/
inductive Faulty (s : List Char) : Fault → Prop
  | shape (h : ∀ l c o, ¬ Text.Splits ':' s [l, c, o]) :
      Faulty s (.shape (String.ofList (Text.trim s)))
  | line {l c o : List Char} (h : Text.Splits ':' s [l, c, o]) (hl : ∀ n, ¬ Text.Field l n) :
      Faulty s (.number .line (String.ofList (Text.trim l)))
  | column {l c o : List Char} {m : UInt32} (h : Text.Splits ':' s [l, c, o])
      (hl : Text.Field l m) (hc : ∀ n, ¬ Text.Field c n) :
      Faulty s (.number .column (String.ofList (Text.trim c)))
  | offset {l c o : List Char} {m k : UInt32} (h : Text.Splits ':' s [l, c, o])
      (hl : Text.Field l m) (hc : Text.Field c k) (ho : ∀ n, ¬ Text.Field o n) :
      Faulty s (.number .offset (String.ofList (Text.trim o)))

theorem readField_eq_ok_iff {k : Coordinate} {s : List Char} {n : UInt32} :
    readField k s = .ok n ↔ Text.Field s n := by
  rw [Text.Field, ← Text.readWord_eq_some_iff, readField]
  cases Text.readWord (Text.trim s) with
  | none => simp
  | some m => simp

theorem readField_of_not {s : List Char} (h : ∀ n, ¬ Text.Field s n) (k : Coordinate) :
    readField k s = .error (.number k (String.ofList (Text.trim s))) := by
  cases hread : Text.readWord (Text.trim s) with
  | none => simp only [readField, hread]
  | some m => exact absurd (Text.readWord_eq_some_iff.mp hread) (h m)

theorem read_congr {s t : List Char} (h : Text.trim s = Text.trim t) : read s = read t := by
  rw [read, read, h]

theorem not_isBlank_colon : isBlank ':' = false := by decide

theorem read_of_splits {s l c o : List Char} (h : Text.Splits ':' s [l, c, o]) :
    read s = do
      let line ← readField .line l
      let column ← readField .column c
      let offset ← readField .offset o
      return ⟨line, column, offset⟩ := by
  have hfields := Text.map_trim_pieces_trim not_isBlank_colon s
  rw [Text.pieces_eq_iff.mpr h] at hfields
  obtain ⟨l', c', o', hl', hl, hc, ho⟩ := Text.exists_three_of_map_trim hfields
  simp only [read, hl', readField, hl, hc, ho]

theorem read_of_not_splits {s : List Char} (h : ∀ l c o, ¬ Text.Splits ':' s [l, c, o]) :
    read s = .error (.shape (String.ofList (Text.trim s))) := by
  unfold read
  dsimp only
  split
  next l c o hpieces =>
    -- the text has as many fields as it has without the blanks around it
    have hfields := Text.map_trim_pieces_trim not_isBlank_colon s
    rw [hpieces] at hfields
    obtain ⟨l', c', o', hl', -⟩ := Text.exists_three_of_map_trim hfields.symm
    exact absurd (Text.pieces_eq_iff.mp hl') (h l' c' o')
  next => rfl

theorem read_of_layout {s : List Char} {p : Position} (h : Layout Text.Field s p) :
    read s = .ok p := by
  obtain ⟨l, c, o, hs, hl, hc, ho⟩ := h
  rw [read_of_splits hs, readField_eq_ok_iff.mpr hl, readField_eq_ok_iff.mpr hc,
    readField_eq_ok_iff.mpr ho]
  rfl

theorem read_of_faulty {s : List Char} {f : Fault} (h : Faulty s f) : read s = .error f := by
  cases h with
  | shape h => exact read_of_not_splits h
  | line h hl =>
    rw [read_of_splits h, readField_of_not hl]
    rfl
  | column h hl hc =>
    rw [read_of_splits h, readField_eq_ok_iff.mpr hl, readField_of_not hc]
    rfl
  | offset h hl hc ho =>
    rw [read_of_splits h, readField_eq_ok_iff.mpr hl, readField_eq_ok_iff.mpr hc,
      readField_of_not ho]
    rfl

theorem layout_or_faulty (s : List Char) :
    (∃ p, Layout Text.Field s p) ∨ ∃ f, Faulty s f := by
  by_cases hs : ∃ l c o, Text.Splits ':' s [l, c, o]
  · obtain ⟨l, c, o, hs⟩ := hs
    by_cases hl : ∃ n, Text.Field l n
    · obtain ⟨m, hl⟩ := hl
      by_cases hc : ∃ n, Text.Field c n
      · obtain ⟨k, hc⟩ := hc
        by_cases ho : ∃ n, Text.Field o n
        · obtain ⟨n, ho⟩ := ho
          exact .inl ⟨⟨m, k, n⟩, l, c, o, hs, hl, hc, ho⟩
        · exact .inr ⟨_, .offset hs hl hc (not_exists.mp ho)⟩
      · exact .inr ⟨_, .column hs hl (not_exists.mp hc)⟩
    · exact .inr ⟨_, .line hs (not_exists.mp hl)⟩
  · exact .inr ⟨_, .shape fun l c o h => hs ⟨l, c, o, h⟩⟩

end Position

namespace Interval

/-- A text that writes an interval: two positions around the first dash. -/
def Layout (number : List Char → UInt32 → Prop) (s : List Char) (i : Interval) : Prop :=
  ∃ a b, '-' ∉ a ∧ s = a ++ '-' :: b ∧ Position.Layout number a i.start ∧
    Position.Layout number b i.stop

theorem Layout.imp {number other : List Char → UInt32 → Prop}
    (h : ∀ s n, number s n → other s n) {s : List Char} {i : Interval} (hs : Layout number s i) :
    Layout other s i := by
  obtain ⟨a, b, ha, hs, hstart, hstop⟩ := hs
  exact ⟨a, b, ha, hs, hstart.imp h, hstop.imp h⟩

/-- What is wrong with a text that writes no interval. The start comes before the end. -/
inductive Faulty (s : List Char) : Fault → Prop
  | shape (h : '-' ∉ s) : Faulty s (.shape (String.ofList (Text.trim s)))
  | start {a b : List Char} {f : Position.Fault} (ha : '-' ∉ a) (hs : s = a ++ '-' :: b)
      (h : Position.Faulty a f) : Faulty s (.position f)
  | stop {a b : List Char} {p : Position} {f : Position.Fault} (ha : '-' ∉ a)
      (hs : s = a ++ '-' :: b) (hp : Position.Layout Text.Field a p) (h : Position.Faulty b f) :
      Faulty s (.position f)

theorem read_of_cut {a b : List Char} (ha : '-' ∉ a) :
    read (a ++ '-' :: b) = do
      let start ← (Position.read a).mapError .position
      let stop ← (Position.read b).mapError .position
      return ⟨start, stop⟩ := by
  have hdash : isBlank '-' = false := by decide
  obtain ⟨x, y, hcut, hx, hy⟩ := Text.exists_cutFirst_trim hdash ha b
  simp only [read, hcut, Position.read_congr hx, Position.read_congr hy]

theorem read_of_not_mem {s : List Char} (h : '-' ∉ s) :
    read s = .error (.shape (String.ofList (Text.trim s))) := by
  have hcut : Text.cutFirst '-' (Text.trim s) = none :=
    Text.cutFirst_of_not_mem fun hm => h (Text.trim_subset s hm)
  simp only [read, hcut]

theorem read_congr {s t : List Char} (h : Text.trim s = Text.trim t) : read s = read t := by
  rw [read, read, h]

theorem read_of_layout {s : List Char} {i : Interval} (h : Layout Text.Field s i) :
    read s = .ok i := by
  obtain ⟨a, b, ha, rfl, hstart, hstop⟩ := h
  rw [read_of_cut ha, Position.read_of_layout hstart, Position.read_of_layout hstop]
  rfl

theorem read_of_faulty {s : List Char} {f : Fault} (h : Faulty s f) : read s = .error f := by
  cases h with
  | shape h => exact read_of_not_mem h
  | start ha hs h =>
    rw [hs, read_of_cut ha, Position.read_of_faulty h]
    rfl
  | stop ha hs hp h =>
    rw [hs, read_of_cut ha, Position.read_of_layout hp, Position.read_of_faulty h]
    rfl

theorem layout_or_faulty (s : List Char) :
    (∃ i, Layout Text.Field s i) ∨ ∃ f, Faulty s f := by
  by_cases hs : '-' ∈ s
  · obtain ⟨a, b, hs, ha⟩ := List.eq_append_cons_of_mem hs
    rcases Position.layout_or_faulty a with ⟨p, hp⟩ | ⟨f, hf⟩
    · rcases Position.layout_or_faulty b with ⟨q, hq⟩ | ⟨f, hf⟩
      · exact .inl ⟨⟨p, q⟩, a, b, ha, hs, hp, hq⟩
      · exact .inr ⟨_, .stop ha hs hp hf⟩
    · exact .inr ⟨_, .start ha hs hf⟩
  · exact .inr ⟨_, .shape hs⟩

theorem read_eq_ok_iff {s : List Char} {i : Interval} :
    read s = .ok i ↔ Layout Text.Field s i := by
  refine ⟨fun h => ?_, read_of_layout⟩
  rcases layout_or_faulty s with ⟨j, hj⟩ | ⟨f, hf⟩
  · obtain rfl := Except.ok.inj (h.symm.trans (read_of_layout hj))
    exact hj
  · exact absurd (h.symm.trans (read_of_faulty hf)) (by simp)

theorem read_eq_error_iff {s : List Char} {f : Fault} : read s = .error f ↔ Faulty s f := by
  refine ⟨fun h => ?_, read_of_faulty⟩
  rcases layout_or_faulty s with ⟨j, hj⟩ | ⟨g, hg⟩
  · exact absurd (h.symm.trans (read_of_layout hj)) (by simp)
  · obtain rfl := Except.error.inj (h.symm.trans (read_of_faulty hg))
    exact hg

end Interval

namespace Range

/-- A text that writes some intervals, between commas. -/
def Layout (number : List Char → UInt32 → Prop) (s : List Char) (is : List Interval) : Prop :=
  ∃ ps, Text.Splits ',' s ps ∧ List.Forall₂ (Interval.Layout number) ps is

theorem Layout.imp {number other : List Char → UInt32 → Prop}
    (h : ∀ s n, number s n → other s n) {s : List Char} {is : List Interval}
    (hs : Layout number s is) : Layout other s is := by
  obtain ⟨ps, hps, his⟩ := hs
  exact ⟨ps, hps, his.imp fun _ _ hi => hi.imp h⟩

/-- What is wrong with the first bad piece of a text that does not write intervals. -/
def Faulty (s : List Char) (f : Interval.Fault) : Prop :=
  ∃ before p after, Text.Splits ',' s (before ++ p :: after) ∧
    (∀ q ∈ before, ∃ i, Interval.Layout Text.Field q i) ∧ Interval.Faulty p f

theorem readIntervals_cons_eq_ok_iff {p : List Char} {ps : List (List Char)} {is : List Interval} :
    readIntervals (p :: ps) = .ok is ↔
      ∃ i js, Interval.read p = .ok i ∧ readIntervals ps = .ok js ∧ i :: js = is := by
  rw [readIntervals]
  cases Interval.read p with
  | error f => simp [bind, Except.bind]
  | ok i =>
    cases readIntervals ps with
    | error f => simp [bind, Except.bind]
    | ok js => simp [bind, Except.bind, pure, Except.pure]

theorem readIntervals_cons_eq_error_iff {p : List Char} {ps : List (List Char)}
    {f : Interval.Fault} : readIntervals (p :: ps) = .error f ↔
      Interval.read p = .error f ∨ (∃ i, Interval.read p = .ok i) ∧ readIntervals ps = .error f := by
  rw [readIntervals]
  cases Interval.read p with
  | error g => simp [bind, Except.bind]
  | ok i =>
    cases readIntervals ps with
    | error g => simp [bind, Except.bind]
    | ok js => simp [bind, Except.bind, pure, Except.pure]

theorem readIntervals_eq_ok_iff {ps : List (List Char)} {is : List Interval} :
    readIntervals ps = .ok is ↔ List.Forall₂ (Interval.Layout Text.Field) ps is := by
  induction ps generalizing is with
  | nil =>
    constructor
    · intro h
      obtain rfl := Except.ok.inj h
      exact .nil
    · rintro ⟨⟩
      rfl
  | cons p ps ih =>
    rw [readIntervals_cons_eq_ok_iff]
    constructor
    · rintro ⟨i, js, hp, hps, rfl⟩
      exact .cons (Interval.read_eq_ok_iff.mp hp) (ih.mp hps)
    · rintro (_ | ⟨hp, hps⟩)
      exact ⟨_, _, Interval.read_eq_ok_iff.mpr hp, ih.mpr hps, rfl⟩

theorem readIntervals_eq_error_iff {ps : List (List Char)} {f : Interval.Fault} :
    readIntervals ps = .error f ↔ ∃ before p after, ps = before ++ p :: after ∧
      (∀ q ∈ before, ∃ i, Interval.Layout Text.Field q i) ∧ Interval.Faulty p f := by
  induction ps with
  | nil => simp [readIntervals]
  | cons p ps ih =>
    rw [readIntervals_cons_eq_error_iff, ih]
    constructor
    · rintro (hp | ⟨⟨i, hp⟩, before, q, after, rfl, hbefore, hq⟩)
      · exact ⟨[], p, ps, rfl, by simp, Interval.read_eq_error_iff.mp hp⟩
      · have hi : ∃ i, Interval.Layout Text.Field p i := ⟨i, Interval.read_eq_ok_iff.mp hp⟩
        exact ⟨p :: before, q, after, rfl, List.forall_mem_cons.mpr ⟨hi, hbefore⟩, hq⟩
    · rintro ⟨before, q, after, hps, hbefore, hq⟩
      cases before with
      | nil =>
        obtain ⟨rfl, rfl⟩ := List.cons.inj hps
        exact .inl (Interval.read_eq_error_iff.mpr hq)
      | cons r before =>
        obtain ⟨rfl, rfl⟩ := List.cons.inj hps
        obtain ⟨⟨i, hp⟩, hbefore⟩ := List.forall_mem_cons.mp hbefore
        exact .inr ⟨⟨i, Interval.read_eq_ok_iff.mpr hp⟩, before, q, after, rfl, hbefore, hq⟩

theorem readIntervals_congr {ps qs : List (List Char)} (h : ps.map Text.trim = qs.map Text.trim) :
    readIntervals ps = readIntervals qs := by
  induction ps generalizing qs with
  | nil => rw [List.map_eq_nil_iff.mp h.symm]
  | cons p ps ih =>
    obtain ⟨q, qs, rfl, hq, hqs⟩ := List.map_eq_cons_iff.mp h.symm
    rw [readIntervals, readIntervals, Interval.read_congr hq.symm, ih hqs.symm]

theorem readIntervals_pieces_eq_ok_iff {s : List Char} {is : List Interval} :
    readIntervals (Text.pieces ',' s) = .ok is ↔ Layout Text.Field s is := by
  rw [readIntervals_eq_ok_iff]
  constructor
  · exact fun h => ⟨_, Text.splits_pieces ',' s, h⟩
  · rintro ⟨ps, hs, h⟩
    rwa [Text.pieces_eq_iff.mpr hs]

theorem readIntervals_pieces_eq_error_iff {s : List Char} {f : Interval.Fault} :
    readIntervals (Text.pieces ',' s) = .error f ↔ Faulty s f := by
  rw [readIntervals_eq_error_iff]
  constructor
  · rintro ⟨before, p, after, hpieces, h⟩
    exact ⟨before, p, after, Text.pieces_eq_iff.mp hpieces, h⟩
  · rintro ⟨before, p, after, hs, h⟩
    exact ⟨before, p, after, Text.pieces_eq_iff.mpr hs, h⟩

theorem Layout.dash_mem {number : List Char → UInt32 → Prop} {s : List Char} {is : List Interval}
    (h : Layout number s is) : '-' ∈ s := by
  obtain ⟨ps, ⟨hne, -, rfl⟩, hps⟩ := h
  obtain ⟨p, ps, rfl⟩ := List.exists_cons_of_ne_nil hne
  cases hps with
  | cons hp _ =>
    obtain ⟨a, b, -, rfl, -⟩ := hp
    exact Text.mem_intercalate List.mem_cons_self (List.mem_append_right a List.mem_cons_self)

theorem Layout.ne_nil {number : List Char → UInt32 → Prop} {s : List Char} {is : List Interval}
    (h : Layout number s is) : is ≠ [] := by
  obtain ⟨ps, ⟨hne, -, -⟩, hps⟩ := h
  rintro rfl
  cases hps with
  | nil => exact hne rfl

/-- A text with a dash is neither blank nor the word for no range. -/
theorem not_noRange_of_dash_mem {text : String} (h : '-' ∈ text.toList) :
    blankText text = false ∧ trimmed text ≠ noRangeWord := by
  have hmem : '-' ∈ Text.trim text.toList := (Text.mem_trim (by decide)).mpr h
  constructor
  · refine Bool.eq_false_iff.mpr fun hb => ?_
    rw [Text.trim_eq_nil_iff.mpr hb] at hmem
    exact List.not_mem_nil hmem
  · intro hword
    have hlist : Text.trim text.toList = noRangeWord.toList := by
      rw [← hword, trimmed, String.toList_ofList]
    rw [hlist] at hmem
    exact absurd hmem (by decide)

theorem read_of_noRange {text : String} (h : blankText text = true ∨ trimmed text = noRangeWord)
    (file : Option String) : read file text = .ok .noRange := by
  unfold read
  refine if_pos (Bool.or_eq_true_iff.mpr (h.imp (fun hb => ?_) fun hw => ?_))
  · exact List.isEmpty_iff.mpr (Text.trim_eq_nil_iff.mpr hb)
  · rw [← hw, trimmed, String.toList_ofList]
    exact beq_self_eq_true _

theorem read_of_not_noRange {text : String} (hb : blankText text = false)
    (hw : trimmed text ≠ noRangeWord) (file : Option String) :
    read file text = match readIntervals (Text.pieces ',' (Text.trim text.toList)) with
      | .ok is => .ok (.span file is)
      | .error e => .error ⟨trimmed text, e⟩ := by
  unfold read
  refine if_neg fun h => ?_
  rcases Bool.or_eq_true_iff.mp h with hempty | hword
  · rw [blankText, Text.trim_eq_nil_iff.mp (List.isEmpty_iff.mp hempty)] at hb
    exact absurd hb (by decide)
  · refine hw ?_
    rw [trimmed, beq_iff_eq.mp hword, String.ofList_toList]

theorem not_noRange_of_read_ne {file : Option String} {text : String}
    (h : read file text ≠ .ok .noRange) :
    blankText text = false ∧ trimmed text ≠ noRangeWord := by
  obtain ⟨hb, hw⟩ := not_or.mp fun hnone => h (read_of_noRange hnone file)
  exact ⟨Bool.eq_false_iff.mpr hb, hw⟩

theorem toList_trimmed (text : String) : (trimmed text).toList = Text.trim text.toList :=
  String.toList_ofList

theorem read_eq_span_iff {file g : Option String} {text : String} {is : List Interval} :
    read file text = .ok (.span g is) ↔
      g = file ∧ Layout Text.Field (trimmed text).toList is := by
  rw [toList_trimmed, ← readIntervals_pieces_eq_ok_iff]
  constructor
  · intro h
    obtain ⟨hb, hw⟩ := not_noRange_of_read_ne (by rw [h]; simp)
    rw [read_of_not_noRange hb hw] at h
    split at h
    next js hjs =>
      obtain ⟨rfl, rfl⟩ := Range.span.inj (Except.ok.inj h)
      exact ⟨rfl, hjs⟩
    next => exact absurd h (by simp)
  · rintro ⟨rfl, h⟩
    have hdash := (readIntervals_pieces_eq_ok_iff.mp h).dash_mem
    obtain ⟨hb, hw⟩ := not_noRange_of_dash_mem (Text.trim_subset _ hdash)
    rw [read_of_not_noRange hb hw, h]

theorem read_eq_error_iff {file : Option String} {text : String} {m : MalformedRange} :
    read file text = .error m ↔ blankText text = false ∧ trimmed text ≠ noRangeWord ∧
      m.text = trimmed text ∧ Faulty (trimmed text).toList m.reason := by
  rw [toList_trimmed, ← readIntervals_pieces_eq_error_iff]
  constructor
  · intro h
    obtain ⟨hb, hw⟩ := not_noRange_of_read_ne (by rw [h]; simp)
    rw [read_of_not_noRange hb hw] at h
    split at h
    next => exact absurd h (by simp)
    next f hf =>
      obtain rfl := Except.error.inj h
      exact ⟨hb, hw, rfl, hf⟩
  · rintro ⟨hb, hw, htext, h⟩
    rw [read_of_not_noRange hb hw, h, ← htext]

theorem read_eq_noRange_iff {file : Option String} {text : String} :
    read file text = .ok .noRange ↔ blankText text = true ∨ trimmed text = noRangeWord := by
  refine ⟨fun h => ?_, fun h => read_of_noRange h file⟩
  by_contra hnot
  obtain ⟨hb, hw⟩ := not_or.mp hnot
  rw [read_of_not_noRange (Bool.eq_false_iff.mpr hb) hw] at h
  split at h
  next => exact absurd h (by simp)
  next => exact absurd h (by simp)

theorem read_of_padded {text : String} {is : List Interval}
    (h : Layout Text.Padded text.toList is) (file : Option String) :
    read file text = .ok (.span file is) := by
  have hfields := h.imp fun s n hn => hn.field
  have hcomma : isBlank ',' = false := by decide
  have hpieces := Text.map_trim_pieces_trim hcomma text.toList
  obtain ⟨hb, hw⟩ := not_noRange_of_dash_mem h.dash_mem
  rw [read_of_not_noRange hb hw, readIntervals_congr hpieces,
    readIntervals_pieces_eq_ok_iff.mpr hfields]

/-- A text reads as no range when it is blank or the word for it, and as intervals of the file when
it writes them by the grammar, with the numbers that are written, in the order they are written.
Any other text is refused for its first bad piece. In particular intervals are read back from any
text that prints them, whatever blanks stand around its numbers. -/
theorem read_law (file : Option String) (text : String) :
    (read file text = .ok .noRange ↔ blankText text = true ∨ trimmed text = noRangeWord) ∧
    (∀ g is, read file text = .ok (.span g is) ↔
      g = file ∧ is ≠ [] ∧ Layout Text.Field (trimmed text).toList is) ∧
    (∀ m, read file text = .error m ↔ blankText text = false ∧ trimmed text ≠ noRangeWord ∧
      m.text = trimmed text ∧ Faulty (trimmed text).toList m.reason) ∧
    (∀ is, Layout Text.Padded text.toList is → read file text = .ok (.span file is)) := by
  refine ⟨read_eq_noRange_iff, fun g is => ?_, fun m => read_eq_error_iff,
    fun is h => read_of_padded h file⟩
  rw [read_eq_span_iff]
  exact and_congr_right fun _ => ⟨fun h => ⟨h.ne_nil, h⟩, And.right⟩

end Range

end AgdaConsole
