import AgdaConsole.Proofs.CommandLine.Agreement

namespace AgdaConsole

/-- The flag of a file, with the file left to the next word. -/
def isFileFlag (w : String) : Bool := w == "-f" || w == "--file"

/-- The flag of a file, with the file in the same word or in the next one. -/
def isFileWord (w : String) : Bool :=
  w == "--file" || "-f".toList.isPrefixOf w.toList || "--file=".toList.isPrefixOf w.toList

/-- The first of some words that is neither the flag of a file nor the file that such a flag leaves
to the next word. `waits` says that the first word is such a file. -/
def commandWordFrom (waits : Bool) : List String → Option String
  | [] => none
  | w :: ws =>
    if waits then commandWordFrom false ws
    else if isFileWord w then commandWordFrom (isFileFlag w) ws
    else some w

/-- The word that stands where words have the name of a command. -/
def commandWord? (ws : List String) : Option String := commandWordFrom false ws

theorem head?_of_isFileWord {w : String} (h : isFileWord w = true) : w.toList.head? = some '-' := by
  simp only [isFileWord, Bool.or_eq_true, beq_iff_eq, List.isPrefixOf_iff_prefix] at h
  rcases h with (rfl | ⟨r, hr⟩) | ⟨r, hr⟩
  · decide
  · rw [← hr]
    rfl
  · rw [← hr]
    rfl

theorem isFileFlag_eq_false_iff {w : String} :
    isFileFlag w = false ↔ w.toList ≠ "-f".toList ∧ w.toList ≠ "--file".toList := by
  rw [isFileFlag, Bool.or_eq_false_iff, beq_eq_false_iff_ne, beq_eq_false_iff_ne, Ne, Ne,
    ← String.toList_inj, ← String.toList_inj]

/-- The name of a command is no flag. -/
theorem Verb.isFileWord_name (v : Verb) : isFileWord v.name = false := by
  rw [← Bool.not_eq_true]
  intro h
  have hdash := List.all_eq_true.mp v.all_isNameChar_name '-'
    (List.mem_of_head? (head?_of_isFileWord h))
  exact absurd hdash (by decide)

namespace Scan

variable {s t : Scan} {f : Flag}

theorem pending_of_add {r : Except Refusal Setting} (h : s.add f r = .ok t) :
    t.pending = s.pending := by
  unfold add at h
  split at h
  · exact absurd h (by simp)
  · obtain ⟨x, -, rfl⟩ := map_eq_ok.mp h
    rfl

/-- A flag that waits for a value is not set without one. -/
theorem of_settle (h : s.settle = .ok t) : s.waiting? = none ∧ t.pending = none := by
  unfold settle at h
  unfold waiting?
  split at h
  next hp =>
    obtain rfl := Except.ok.inj h
    rw [hp]
    exact ⟨rfl, rfl⟩
  next => exact absurd h (by simp)
  next f v hp =>
    rw [hp]
    exact ⟨rfl, pending_of_add h⟩

theorem of_attach {value : String} (h : s.attach f value = .ok t) :
    s.waiting? = none ∧ t.waiting? = none := by
  obtain ⟨u, hu, h⟩ := bind_eq_ok.mp h
  obtain ⟨hs, hp⟩ := of_settle hu
  have ht : t.pending = none := (pending_of_add h).trans hp
  refine ⟨hs, ?_⟩
  rw [waiting?, ht]

theorem of_await (h : s.await f = .ok t) : s.waiting? = none ∧ t.waiting? = some f := by
  obtain ⟨u, hu, rfl⟩ := map_eq_ok.mp h
  exact ⟨(of_settle hu).1, rfl⟩

/-- The only flag without a value that a line has before its command asks for help. -/
theorem switch_line (s t : Scan) (hf : f ∈ Level.flags .line) : s.switch .line f ≠ .ok t := by
  intro h
  obtain ⟨u, -, h⟩ := bind_eq_ok.mp h
  have hnone : ∀ x, f.switchOn Level.line.verb? ≠ .ok x := by
    intro x hx
    rcases List.mem_cons.mp hf with rfl | hf
    · exact absurd hx (by simp [Flag.switchOn])
    · rw [List.mem_singleton.mp hf] at hx
      exact absurd hx (by simp [Flag.switchOn])
  unfold add at h
  split at h
  · exact absurd h (by simp)
  · obtain ⟨x, hx, -⟩ := map_eq_ok.mp h
    exact hnone x hx

/-- Of the flags that a line has before its command only that of a file takes a value. -/
theorem eq_file_of_takesValue (hf : f ∈ Level.flags .line) (ht : f.takesValue = true) :
    f = .file := by
  rcases List.mem_cons.mp hf with rfl | hf
  · rfl
  · rw [List.mem_singleton.mp hf] at ht
    exact absurd ht (by decide)

theorem eq_file_of_longFlag? {name : String} (h : Level.line.longFlag? name = some f)
    (ht : f.takesValue = true) : f = .file ∧ name = "file" := by
  obtain rfl := eq_file_of_takesValue (List.mem_of_find?_eq_some h) ht
  have hname := List.find?_some h
  exact ⟨rfl, List.mem_singleton.mp (List.contains_iff_mem.mp hname)⟩

theorem eq_file_of_letterFlag? {c : Char} (h : Level.line.letterFlag? c = some f)
    (ht : f.takesValue = true) : f = .file ∧ c = 'f' := by
  obtain rfl := eq_file_of_takesValue (List.mem_of_find?_eq_some h) ht
  have hletter := List.find?_some h
  exact ⟨rfl, (Option.some.inj (beq_iff_eq.mp hletter)).symm⟩

/-- The long flags that are read before a command give the file, in the same word or the next. -/
theorem of_longWord_line {r : List Char} (h : s.longWord .line r = .ok t) :
    (r = "file".toList ∧ s.await .file = .ok t) ∨
      ∃ v, r = "file=".toList ++ v ∧ s.attach .file (String.ofList v) = .ok t := by
  by_cases heq : '=' ∈ r
  · obtain ⟨n, v, rfl, hn⟩ := List.eq_append_cons_of_mem heq
    simp only [longWord, Text.cutFirst_append_cons hn] at h
    split at h
    · exact absurd h (by simp)
    next g hg =>
      cases ht : g.takesValue with
      | false => exact absurd h (by simp [ht])
      | true =>
        obtain ⟨rfl, hname⟩ := eq_file_of_longFlag? hg ht
        obtain rfl : n = "file".toList := by rw [← hname, String.toList_ofList]
        exact .inr ⟨v, rfl, h⟩
  · simp only [longWord, Text.cutFirst_of_not_mem heq] at h
    split at h
    · exact absurd h (by simp)
    next g hg =>
      cases ht : g.takesValue with
      | false =>
        rw [ht] at h
        exact absurd h (switch_line s t (List.mem_of_find?_eq_some hg))
      | true =>
        obtain ⟨rfl, hname⟩ := eq_file_of_longFlag? hg ht
        exact .inl ⟨by rw [← hname, String.toList_ofList], h⟩

/-- The letters that are read before a command give the file, in the same word or the next. -/
theorem of_letters_line {c : Char} {r : List Char} (h : s.letters .line (c :: r) = .ok t) :
    c = 'f' ∧ ((r = [] ∧ s.await .file = .ok t) ∨
      r ≠ [] ∧ ∃ v, s.attach .file v = .ok t) := by
  unfold letters at h
  split at h
  · exact absurd h (by simp)
  next g hg =>
    cases ht : g.takesValue with
    | false =>
      rw [ht] at h
      obtain ⟨u, hu, -⟩ := bind_eq_ok.mp h
      exact absurd hu (switch_line s u (List.mem_of_find?_eq_some hg))
    | true =>
      obtain ⟨rfl, rfl⟩ := eq_file_of_letterFlag? hg ht
      refine ⟨rfl, ?_⟩
      rw [if_pos ht] at h
      split at h
      next => exact .inl ⟨rfl, h⟩
      next => exact .inr ⟨List.cons_ne_nil _ _, _, h⟩
      next hne _ => exact .inr ⟨hne, _, h⟩

/-- A word that is read before a command is the flag of a file, which waits if its file is left to
the next word, or else is that file. -/
theorem of_word_line {w : String} (h : s.word .line w = .ok t) :
    (s.waiting? = none ∧ isFileWord w = true ∧ t.waiting?.isSome = isFileFlag w) ∨
      (s.waiting?.isSome = true ∧ t.waiting? = none) := by
  unfold word at h
  split at h
  next r hw =>
    left
    rcases of_longWord_line h with ⟨rfl, h⟩ | ⟨v, rfl, h⟩
    · obtain rfl : w = "--file" := String.toList_inj.mp hw
      obtain ⟨hs, ht⟩ := of_await h
      exact ⟨hs, by decide, by rw [ht]; rfl⟩
    · obtain ⟨hs, ht⟩ := of_attach h
      refine ⟨hs, ?_, ?_⟩
      · simp [isFileWord, hw]
      · rw [ht, Option.isSome_none, eq_comm, isFileFlag_eq_false_iff, hw]
        simp
  next c r _ hw =>
    left
    obtain ⟨rfl, ⟨rfl, h⟩ | ⟨hr, v, h⟩⟩ := of_letters_line h
    · obtain rfl : w = "-f" := String.toList_inj.mp hw
      obtain ⟨hs, ht⟩ := of_await h
      exact ⟨hs, by decide, by rw [ht]; rfl⟩
    · obtain ⟨hs, ht⟩ := of_attach h
      refine ⟨hs, by simp [isFileWord, hw], ?_⟩
      rw [ht, Option.isSome_none, eq_comm, isFileFlag_eq_false_iff, hw]
      simp [hr]
  next =>
    split at h
    next f hf =>
      obtain rfl := Except.ok.inj h
      exact .inr ⟨by rw [hf]; rfl, rfl⟩
    next => exact absurd h (by simp)

end Scan

namespace Level

theorem enter?_line {w : String} {m : Level} (h : Level.line.enter? w = some m) :
    ∃ v : Verb, m = .lineVerb v ∧ v.name = w := by
  obtain ⟨v, hv, rfl⟩ := Option.map_eq_some_iff.mp h
  have hname := List.find?_some hv
  exact ⟨v, rfl, beq_iff_eq.mp hname⟩

/-- The word that leads to a command when a line is read is the first one that is neither the flag
of a file nor the file of such a flag. -/
theorem Scans.commandWordFrom_eq {l : Level} {s : Scan} {ws : List String} {reading : Reading}
    (h : l.Scans s ws reading) (hl : l = .line) (hs : s.Known l) :
    ∃ v inner, reading.inner? = some (.lineVerb v, inner) ∧
      commandWordFrom s.waiting?.isSome ws = some v.name := by
  induction h with
  | finish h =>
    subst hl
    exact absurd h (finish_line _ _)
  | dashes _ h =>
    subst hl
    exact absurd h (afterDashes_line _ _ _)
  | @value _ s _ _ f _ hf hany _ _ =>
    subst hl
    -- No flag of this level takes any word, so that a word for one is read by `word`.
    have hmem : f ∈ flags .line := hs.pending f none (Scan.waiting?_eq_some.mp hf)
    have hnone : ∀ f ∈ flags .line, f.takesAnyWord = false := by decide
    exact absurd (hnone f hmem) (by simp [hany])
  | enter hf hm h _ _ =>
    subst hl
    obtain ⟨v, rfl, rfl⟩ := enter?_line hm
    obtain ⟨inner, rfl⟩ := h.eq_singleton fun _ => rfl
    refine ⟨v, inner, rfl, ?_⟩
    simp [hf, commandWordFrom, v.isFileWord_name]
  | word hk hd hw _ ih =>
    subst hl
    obtain ⟨v, inner, hinner, hword⟩ := ih rfl (hs.word hw)
    refine ⟨v, inner, hinner, ?_⟩
    rcases Scan.of_word_line hw with ⟨hf, hfile, hwaits⟩ | ⟨hf, hwaits⟩
    · simp [hf, commandWordFrom, hfile, ← hwaits, hword]
    · rw [hwaits, Option.isSome_none] at hword
      rw [hf, commandWordFrom, if_pos rfl, hword]

end Level

/-- Words that are read have the name of their command where a reader of the file flags expects
it. -/
theorem commandWord?_of_read {ws : List String} {reading : Reading}
    (h : Level.line.read ws = .ok reading) :
    ∃ v inner, reading.inner? = some (.lineVerb v, inner) ∧ commandWord? ws = some v.name :=
  (Level.scans_of_scan h).commandWordFrom_eq rfl (Scan.known_empty .line)

/-- A line names a command, before which it may give a file. -/
def lineNamesCommand (line : String) : Prop :=
  ∃ name ∈ Verb.names, commandWord? (splitWords line) = some name

/-- A line gives a file before all else. -/
def fileStandsFirst (line : String) : Prop := ∃ w ∈ (splitWords line).head?, isFileWord w = true

/-- A line that is not refused names a command, whether or not an envelope is made for it. -/
theorem lineNamesCommand_or_refusal (folder default line : String) :
    lineNamesCommand line ∨ ∃ r, envelopeOfLine folder default line = .error (.refusal r) := by
  unfold envelopeOfLine envelopeOfWords
  split
  next r _ => exact .inr ⟨r, rfl⟩
  next reading hreading =>
    obtain ⟨v, -, -, hword⟩ := commandWord?_of_read hreading
    exact .inl ⟨v.name, List.mem_map.mpr ⟨v, Verb.mem_all v, rfl⟩, hword⟩

end AgdaConsole
