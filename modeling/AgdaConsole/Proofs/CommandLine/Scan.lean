import AgdaConsole.CommandLine.Scan
import AgdaConsole.Proofs.CommandLine.Setting

namespace AgdaConsole

namespace Level

theorem longFlag?_of_mem {l : Level} {f : Flag} {name : String} (hf : f ∈ l.flags)
    (hn : name ∈ f.longNames) : l.longFlag? name = some f := by
  unfold longFlag?
  cases h : l.flags.find? fun g => g.longNames.contains name with
  | none =>
    have hnone := List.find?_eq_none.mp h f hf
    exact absurd (List.contains_iff_mem.mpr hn) hnone
  | some g =>
    obtain ⟨hg, -⟩ := List.find?_eq_some_iff_append.mp h
    rw [Flag.eq_of_mem_longNames hn (List.contains_iff_mem.mp hg)]

theorem longFlag?_name {l : Level} {f : Flag} (hf : f ∈ l.flags) :
    l.longFlag? f.name = some f := longFlag?_of_mem hf f.name_mem_longNames

theorem ofName?_word (x : Setting) : Verb.ofName? x.word = none := by
  refine List.find?_eq_none.mpr fun v _ hv => ?_
  refine x.word_ne_of_head? (fun hd => ?_) (beq_iff_eq.mp hv).symm
  have hdash := List.all_eq_true.mp v.all_isNameChar_name '-' (List.mem_of_head? hd)
  exact absurd hdash (by decide)

theorem enter?_word (l : Level) (x : Setting) : l.enter? x.word = none := by
  have hrepl : x.word ≠ "repl" := x.word_ne_of_head? (by decide)
  have hagda : x.word ≠ "agda" := x.word_ne_of_head? (by decide)
  cases l <;> simp [enter?, ofName?_word, hrepl, hagda]

end Level

namespace Scan

variable {l : Level} {f : Flag} {before : List Setting}

theorem add_of_not_mem {x : Setting} (hf : f ∉ before.map Setting.flag) :
    add ⟨before, none⟩ f (.ok x) = .ok ⟨before ++ [x], none⟩ := by
  have hany : (before.any fun y => y.flag == f) = false := by
    rw [List.any_eq_false]
    intro y hy he
    exact hf (List.mem_map.mpr ⟨y, hy, beq_iff_eq.mp he⟩)
  simp only [add, hany, Bool.and_false]
  rfl

theorem longWord_of_value (s : Scan) (hf : f ∈ l.flags) (ht : f.takesValue = true) (v : String) :
    s.longWord l (f.name.toList ++ '=' :: v.toList) = s.attach f v := by
  simp only [longWord, Text.cutFirst_append_cons f.name_toList.2, String.ofList_toList,
    Level.longFlag?_name hf, ht]

theorem longWord_of_name (s : Scan) (hf : f ∈ l.flags) (ht : f.takesValue = false) :
    s.longWord l f.name.toList = s.switch l f := by
  simp only [longWord, Text.cutFirst_of_not_mem f.name_toList.2, String.ofList_toList,
    Level.longFlag?_name hf, ht]

/-- The word of a setting is read as that setting, if its flag is known and is not set yet. -/
theorem word_word {x : Setting} (hf : x.flag ∈ l.flags) (hr : x.ReadsBack)
    (hu : x.flag ∉ before.map Setting.flag) :
    word ⟨before, none⟩ l x.word = .ok ⟨before ++ [x], none⟩ := by
  have ht := x.takesValue_flag
  unfold word
  rw [x.toList_word]
  unfold Setting.ReadsBack at hr
  cases hv : x.value? with
  | some v =>
    rw [hv] at ht hr
    simp only [Option.elim_some]
    rw [longWord_of_value _ hf ht]
    exact (congrArg (add ⟨before, none⟩ x.flag) hr).trans (add_of_not_mem hu)
  | none =>
    rw [hv] at ht hr
    simp only [Option.elim_none, List.append_nil]
    rw [longWord_of_name _ hf ht]
    exact (congrArg (add ⟨before, none⟩ x.flag) (hr l.verb?)).trans (add_of_not_mem hu)

end Scan

namespace Level

theorem scan_word_cons {l : Level} {before : List Setting} {x : Setting} (hf : x.flag ∈ l.flags)
    (hr : x.ReadsBack) (hu : x.flag ∉ before.map Setting.flag) (ws : List String) :
    l.scan ⟨before, none⟩ (x.word :: ws) = l.scan ⟨before ++ [x], none⟩ ws := by
  have hhelp : (x.word == "help") = false :=
    beq_eq_false_iff_ne.mpr (x.word_ne_of_head? (by decide))
  have hdashes : (x.word == "--") = false := beq_eq_false_iff_ne.mpr x.word_ne_dashes
  have hwaits : (Scan.mk before none).waiting? = none := rfl
  rw [scan, hwaits]
  simp only [enter?_word, hhelp, hdashes, Bool.and_false, Scan.word_word hf hr hu]
  rfl

/-- The words of settings are read as these settings, if their flags are known and not set yet. -/
theorem scan_words {l : Level} (before : List Setting) {settings : List Setting}
    (hs : ∀ x ∈ settings, x.flag ∈ l.flags ∧ x.ReadsBack)
    (hu : ((before ++ settings).map Setting.flag).Nodup) (ws : List String) :
    l.scan ⟨before, none⟩ (settings.map Setting.word ++ ws) =
      l.scan ⟨before ++ settings, none⟩ ws := by
  induction settings generalizing before with
  | nil => rw [List.append_nil]; rfl
  | cons x rest ih =>
    obtain ⟨hf, hr⟩ := hs x (by simp)
    have hx : x.flag ∉ before.map Setting.flag := by
      intro hm
      rw [List.map_append, List.nodup_append] at hu
      exact hu.2.2 _ hm _ (List.mem_map.mpr ⟨x, by simp, rfl⟩) rfl
    rw [List.map_cons, List.cons_append, scan_word_cons hf hr hx,
      ih _ (fun y hy => hs y (List.mem_cons_of_mem x hy)) (by simpa using hu)]
    simp

/-- The words of some settings, the name of a command, and the words of other settings are read as
the settings of the line and the settings of the command. -/
theorem read_line {v : Verb} {outer inner : List Setting}
    (ho : ∀ x ∈ outer, x.flag ∈ flags .line ∧ x.ReadsBack) (hou : (outer.map Setting.flag).Nodup)
    (hi : ∀ x ∈ inner, x.flag ∈ flags (.lineVerb v) ∧ x.ReadsBack)
    (hiu : (inner.map Setting.flag).Nodup) :
    Level.line.read (outer.map Setting.word ++ v.name :: inner.map Setting.word) =
      .ok [(.line, outer), (.lineVerb v, inner)] := by
  have hwaits : (Scan.mk outer none).waiting? = none := rfl
  have hverb : Level.line.enter? v.name = some (.lineVerb v) := by
    simp [enter?, Verb.ofName?_name]
  have hinner : scan (.lineVerb v) {} (inner.map Setting.word) = .ok [(.lineVerb v, inner)] := by
    have h := scan_words [] hi hiu []
    rw [List.append_nil] at h
    rw [h]
    rfl
  rw [read, scan_words [] ho hou, List.nil_append, scan, hwaits]
  simp only [hverb, hinner]
  rfl

end Level

end AgdaConsole
