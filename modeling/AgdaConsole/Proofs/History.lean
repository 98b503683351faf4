import AgdaConsole.History
import AgdaConsole.Proofs.Disk
import AgdaConsole.Proofs.Text.Blank
import AgdaConsole.Proofs.Text.Pieces

namespace AgdaConsole.History

/-- A text of whole lines. It is empty, or ends with a newline. -/
def EndsLine (text : String) : Prop := text = "" ∨ ∃ before, text = written before

/-- A text that is one line of a history, and is read back as it was written. -/
structure IsEntry (entry : String) : Prop where
  oneLine : '\n' ∉ entry.toList
  noReturn : entry.toList.getLast? ≠ some '\r'
  notBlank : blankText entry = false

/-- The text of a history after some more entries. -/
def extended (old : String) (entries : List String) : String :=
  entries.foldl (fun text entry => text ++ written entry) old

theorem extended_append (old : String) (entries new : List String) :
    extended old (entries ++ new) = extended (extended old entries) new := by
  rw [extended, List.foldl_append]
  rfl

theorem isEntry_trimmed {line : String} (hn : '\n' ∉ line.toList)
    (hb : blankText line = false) : IsEntry (trimmed line) := by
  have hblank : Text.allBlank (Text.trim line.toList) = false := by
    rw [Text.allBlank_trim]
    exact hb
  have hlist : (trimmed line).toList = Text.trim line.toList := String.toList_ofList
  refine ⟨?_, ?_, ?_⟩
  · rw [hlist]
    exact fun hm => hn (Text.trim_subset _ hm)
  · rw [hlist]
    intro hlast
    have hne : Text.trim line.toList ≠ [] := by
      intro hnil
      rw [hnil] at hlast
      simp at hlast
    have hget := Option.some.inj ((List.getLast?_eq_some_getLast hne).symm.trans hlast)
    have hnot := Text.getLast_trim_not_isBlank hne
    rw [hget] at hnot
    exact absurd hnot (by decide)
  · rw [blankText, hlist]
    exact hblank

theorem toList_written (text : String) : (written text).toList = text.toList ++ ['\n'] := by
  rw [written, String.toList_append]
  rfl

theorem entriesOf_written {entry : String} (h : IsEntry entry) :
    entriesOf (written entry) = [entry] := by
  have hr : Text.dropReturn entry.toList = entry.toList := if_neg h.noReturn
  unfold entriesOf
  rw [toList_written, Text.linesOf_concat_newline, Text.pieces_of_not_mem h.oneLine,
    List.map_singleton, hr, List.map_singleton, String.ofList_toList]
  simp [h.notBlank]

theorem entriesOf_append {old : String} (h : EndsLine old) (new : String) :
    entriesOf (old ++ new) = entriesOf old ++ entriesOf new := by
  rcases h with rfl | ⟨before, rfl⟩
  · rw [String.empty_append]
    rfl
  · have hlines : Text.linesOf (before.toList ++ ['\n'] ++ new.toList) =
        Text.linesOf (before.toList ++ ['\n']) ++ Text.linesOf new.toList := by
      rw [List.append_assoc, List.singleton_append, Text.linesOf_append_newline,
        Text.linesOf_concat_newline]
    unfold entriesOf
    rw [String.toList_append, toList_written, hlines, List.map_append, List.filter_append]

theorem endsLine_append_written (old entry : String) : EndsLine (old ++ written entry) :=
  .inr ⟨old ++ entry, (String.append_assoc ..).symm⟩

theorem endsLine_extended {old : String} (hold : EndsLine old) (entries : List String) :
    EndsLine (extended old entries) := by
  rcases List.eq_nil_or_concat' entries with rfl | ⟨before, entry, rfl⟩
  · exact hold
  · rw [extended, List.foldl_concat]
    exact endsLine_append_written _ entry

theorem entriesOf_extended {old : String} (hold : EndsLine old) {entries : List String}
    (h : ∀ e ∈ entries, IsEntry e) :
    entriesOf (extended old entries) = entriesOf old ++ entries := by
  induction entries using List.reverseRecOn with
  | nil => exact (List.append_nil _).symm
  | append_singleton entries entry ih =>
    have hlast := h entry (by simp)
    have hbefore := ih fun e he => h e (List.mem_append_left _ he)
    have hline := endsLine_extended hold entries
    unfold extended at hbefore hline ⊢
    rw [List.foldl_concat, entriesOf_append hline, entriesOf_written hlast, hbefore,
      List.append_assoc]

variable {d : Disk} {p folder : Place} {path : String}

theorem ensure_of_reaches (h : d.Reaches folder path p) {old : String} (hold : d.Holds p old) :
    ensure d folder path = .ok (d.put p (.text old)) := by
  rw [ensure, h.appendText hold, String.append_empty]
  rfl

theorem record_of_reaches (h : d.Reaches folder path p) {old : String} (hold : d.Holds p old)
    (entry : String) :
    record d folder path entry = .ok (d.put p (.text (old ++ written entry))) := by
  rw [record, h.appendText hold]
  rfl

theorem entries_of_reaches (h : d.Reaches folder path p) {text : String}
    (ht : d.node? p = some (.text text)) : entries d folder path = .ok (entriesOf text) := by
  rw [entries, h.find ht]

end AgdaConsole.History
