import AgdaConsole.Proofs.History

namespace AgdaConsole.History

/-- Write some entries at the end of the history at a path, one after the other. -/
def recordAll (d : Disk) (folder : Place) (path : String) (entries : List String) :
    Except SessionError Disk :=
  entries.foldlM (fun d entry => record d folder path entry) d

/-- The part of a text that is whole lines, and what follows the last newline. -/
theorem exists_whole (text : String) :
    ∃ whole tail, EndsLine whole ∧ '\n' ∉ tail.toList ∧ text = whole ++ tail := by
  by_cases hn : '\n' ∈ text.toList.reverse
  · obtain ⟨a, b, hab, ha⟩ := List.eq_append_cons_of_mem hn
    have hlist : text.toList = b.reverse ++ ['\n'] ++ a.reverse := by
      have h := congrArg List.reverse hab
      rw [List.reverse_reverse] at h
      rw [h, List.reverse_append, List.reverse_cons]
    refine ⟨written (String.ofList b.reverse), String.ofList a.reverse, .inr ⟨_, rfl⟩, ?_, ?_⟩
    · rw [String.toList_ofList]
      exact fun hm => ha (List.mem_reverse.mp hm)
    · rw [← String.toList_inj, String.toList_append, toList_written, String.toList_ofList,
        String.toList_ofList, hlist]
  · exact ⟨"", text, .inl rfl, fun hm => hn (List.mem_reverse.mpr hm), (String.empty_append ..).symm⟩

theorem endsLine_append_iff {whole tail : String} (hw : EndsLine whole)
    (ht : '\n' ∉ tail.toList) : EndsLine (whole ++ tail) ↔ tail = "" := by
  constructor
  · intro h
    by_contra hne
    have hlist : tail.toList ≠ [] := fun hnil => hne (String.toList_eq_nil_iff.mp hnil)
    have hlast : (whole ++ tail).toList.getLast? = tail.toList.getLast? := by
      rw [String.toList_append, List.getLast?_append_of_ne_nil _ hlist]
    rcases h with h | ⟨before, h⟩
    · rw [h] at hlast
      exact hlist (List.getLast?_eq_none_iff.mp hlast.symm)
    · rw [h, toList_written, List.getLast?_concat] at hlast
      exact ht (List.mem_of_getLast? hlast.symm)
  · rintro rfl
    rwa [String.append_empty]

/-- An entry stays one behind the beginning of a line. -/
theorem IsEntry.append {tail entry : String} (ht : '\n' ∉ tail.toList) (h : IsEntry entry) :
    IsEntry (tail ++ entry) := by
  have hne : entry.toList ≠ [] := by
    intro hnil
    have hb := h.notBlank
    rw [blankText, hnil] at hb
    exact absurd hb (by decide)
  refine ⟨?_, ?_, ?_⟩
  · rw [String.toList_append, List.mem_append, not_or]
    exact ⟨ht, h.oneLine⟩
  · rw [String.toList_append, List.getLast?_append_of_ne_nil _ hne]
    exact h.noReturn
  · rw [blankText, String.toList_append, Text.allBlank, List.all_append, Bool.and_eq_false_iff]
    exact .inr h.notBlank

/-- An unended line at the end of a history runs on into the first entry that is written. -/
theorem extended_cons (whole tail entry : String) (entries : List String) :
    extended (whole ++ tail) (entry :: entries) = extended whole ((tail ++ entry) :: entries) := by
  simp only [extended, List.foldl_cons, written, String.append_assoc]

/-- The line after the last newline is an entry of its own unless it is blank. -/
theorem entriesOf_tail {tail : String} (ht : '\n' ∉ tail.toList) :
    entriesOf tail = if blankText tail then [] else [tail] := by
  unfold entriesOf
  by_cases hne : tail.toList = []
  · rw [String.toList_eq_nil_iff.mp hne]
    rfl
  · rw [Text.linesOf_of_not_mem hne ht, List.map_singleton, String.ofList_toList]
    cases hb : blankText tail with
    | true => simp [hb]
    | false => simp [hb]

theorem entriesOf_extended_cons {whole tail entry : String} {entries : List String}
    (hw : EndsLine whole) (ht : '\n' ∉ tail.toList) (h : ∀ e ∈ entry :: entries, IsEntry e) :
    entriesOf (extended (whole ++ tail) (entry :: entries)) =
      entriesOf whole ++ (tail ++ entry) :: entries := by
  obtain ⟨hentry, hentries⟩ := List.forall_mem_cons.mp h
  rw [extended_cons, entriesOf_extended hw]
  exact List.forall_mem_cons.mpr ⟨hentry.append ht, hentries⟩

/-- New entries are read back behind the old ones exactly when the last old line has an end. -/
theorem entriesOf_extended_iff {old : String} {entries : List String}
    (h : ∀ e ∈ entries, IsEntry e) :
    entriesOf (extended old entries) = entriesOf old ++ entries ↔ entries = [] ∨ EndsLine old := by
  cases entries with
  | nil => simp [extended]
  | cons entry entries =>
    obtain ⟨whole, tail, hw, ht, rfl⟩ := exists_whole old
    rw [entriesOf_extended_cons hw ht h, entriesOf_append hw, entriesOf_tail ht,
      endsLine_append_iff hw ht, List.append_assoc, List.append_cancel_left_eq]
    constructor
    · intro heq
      cases hb : blankText tail with
      | true =>
        rw [hb, if_pos rfl, List.nil_append] at heq
        have hself := congrArg String.toList (List.cons.inj heq).1
        rw [String.toList_append, List.append_left_eq_self] at hself
        exact .inr (String.toList_eq_nil_iff.mp hself)
      | false =>
        have hlength := congrArg List.length heq
        simp [hb] at hlength
    · rintro (hnil | rfl)
      · exact absurd hnil (List.cons_ne_nil entry entries)
      · rw [String.empty_append, if_pos (by decide), List.nil_append]

variable {d : Disk} {p folder : Place} {path old : String}

theorem recordAll_of_reaches (h : d.Reaches folder path p) (hold : d.Holds p old)
    (entries : List String) (text : String) :
    recordAll (d.put p (.text text)) folder path entries =
      .ok (d.put p (.text (extended text entries))) := by
  induction entries generalizing text with
  | nil => rfl
  | cons entry entries ih =>
    have hstep := record_of_reaches (h.put hold.not_folder (.text text)) (hold.put text) entry
    rw [Disk.put_put] at hstep
    rw [recordAll, List.foldlM_cons, hstep]
    exact ih (text ++ written entry)

/-- A history that is opened has its old entries. More entries can always be written, and are read
back behind the old ones exactly when the text that was there is empty or ends with a newline.
Otherwise all but the first are, and that one is read back with the unended line in front of it. -/
theorem appended_law (h : d.Reaches folder path p) (hold : d.Holds p old) {new : List String}
    (hnew : ∀ e ∈ new, IsEntry e) :
    ∃ opened after, ensure d folder path = .ok opened ∧
      entries opened folder path = .ok (entriesOf old) ∧
      recordAll opened folder path new = .ok after ∧
      (entries after folder path = .ok (entriesOf old ++ new) ↔ new = [] ∨ EndsLine old) ∧
      ∃ whole tail, old = whole ++ tail ∧ EndsLine whole ∧ '\n' ∉ tail.toList ∧
        ∀ e rest, new = e :: rest →
          entries after folder path = .ok (entriesOf whole ++ (tail ++ e) :: rest) := by
  have hread : ∀ text, entries (d.put p (.text text)) folder path = .ok (entriesOf text) :=
    fun text => entries_of_reaches (h.put hold.not_folder _) (Disk.node?_put_self hold.ne_root _)
  refine ⟨_, _, ensure_of_reaches h hold, hread old, recordAll_of_reaches h hold new old, ?_, ?_⟩
  · rw [hread, Except.ok.injEq]
    exact entriesOf_extended_iff hnew
  · obtain ⟨whole, tail, hw, ht, rfl⟩ := exists_whole old
    refine ⟨whole, tail, rfl, hw, ht, ?_⟩
    rintro e rest rfl
    rw [hread, entriesOf_extended_cons hw ht hnew]

theorem appended_law_ended :
    let d : Disk := ⟨[(["h"], .text "a\r\n\n b\n")]⟩
    d.Reaches [] "/h" ["h"] ∧ d.Holds ["h"] "a\r\n\n b\n" ∧
      (∀ e ∈ ["c d", ":load"], IsEntry e) ∧
      ∃ opened after, ensure d [] "/h" = .ok opened ∧
        recordAll opened [] "/h" ["c d", ":load"] = .ok after ∧
        entries after [] "/h" = .ok ["a", " b", "c d", ":load"] := by
  intro d
  have hr : d.Reaches [] "/h" ["h"] := ⟨by rfl, by rfl⟩
  have hold : d.Holds ["h"] "a\r\n\n b\n" := .inl rfl
  have hnew : ∀ e ∈ ["c d", ":load"], IsEntry e := by
    intro e he
    rcases List.mem_pair.mp he with rfl | rfl
    · exact ⟨by decide, by decide, by decide⟩
    · exact ⟨by decide, by decide, by decide⟩
  obtain ⟨opened, after, hopened, -, hafter, hentries, -⟩ := appended_law hr hold hnew
  refine ⟨hr, hold, hnew, opened, after, hopened, hafter, ?_⟩
  exact hentries.mpr (.inr (.inr ⟨"a\r\n\n b", rfl⟩))

/-- An entry that is written behind an unended line is not read back, and neither is the line. -/
theorem unended_line_runs_on :
    let d : Disk := ⟨[(["h"], .text "ab")]⟩
    d.Reaches [] "/h" ["h"] ∧ d.Holds ["h"] "ab" ∧ IsEntry "cd" ∧
      entries d [] "/h" = .ok ["ab"] ∧
      ∃ after, (ensure d [] "/h").bind (fun d => record d [] "/h" "cd") = .ok after ∧
        entries after [] "/h" = .ok ["abcd"] ∧
        entries after [] "/h" ≠ .ok (["ab"] ++ ["cd"]) := by
  intro d
  have hr : d.Reaches [] "/h" ["h"] := ⟨by rfl, by rfl⟩
  have hold : d.Holds ["h"] "ab" := .inl rfl
  have hread : ∀ text, entries (d.put ["h"] (.text text)) [] "/h" = .ok (entriesOf text) :=
    fun text => entries_of_reaches (hr.put hold.not_folder _) (Disk.node?_put_self hold.ne_root _)
  have hafter : (ensure d [] "/h").bind (fun d => record d [] "/h" "cd") =
      .ok (d.put ["h"] (.text "abcd\n")) := by
    rw [ensure_of_reaches hr hold]
    exact (record_of_reaches (hr.put hold.not_folder _) (hold.put _) "cd").trans
      (congrArg Except.ok (Disk.put_put _ _))
  have hentries : entriesOf "abcd\n" = ["abcd"] := by rfl
  refine ⟨hr, hold, ⟨by decide, by decide, by decide⟩, ?_, _, hafter, ?_, ?_⟩
  · rfl
  · rw [hread, hentries]
  · rw [hread, hentries]
    simp

end AgdaConsole.History
