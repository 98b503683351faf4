import AgdaConsole.Console
import AgdaConsole.Proofs.History
import AgdaConsole.Proofs.Session.Run
import AgdaConsole.Proofs.Session.Runs

namespace AgdaConsole

namespace Console

/-- The lines that are kept in the history, as they are written there. -/
def entriesFor (lines : List String) : List String :=
  (lines.filter fun line => !blankText line).map trimmed

/-- A session that was asked for some lines and has acted on each. -/
def answered (host : Host) (s : Session) (lines : List String) : Session :=
  lines.foldl (fun s line => ((ask host s).dispatch host line).2) s

theorem not_newline_mem_of_mem_lines {input line : String} (h : line ∈ lines input) :
    '\n' ∉ line.toList := by
  obtain ⟨l, hl, rfl⟩ := List.mem_map.mp h
  rw [String.toList_ofList]
  intro hn
  exact Text.not_newline_mem_of_mem_linesOf hl (Text.typed_subset l hn)

theorem isEntry_of_mem_entriesFor {input entry : String} (h : entry ∈ entriesFor (lines input)) :
    History.IsEntry entry := by
  obtain ⟨line, hline, rfl⟩ := List.mem_map.mp h
  obtain ⟨hmem, hblank⟩ := List.mem_filter.mp hline
  exact History.isEntry_trimmed (not_newline_mem_of_mem_lines hmem) (by simpa using hblank)

section Session

variable {host : Host} {path : String} {prelude : Option String} {invocation : Invocation}
  {before : List String} {s : Session}

theorem dispatch_ok (host : Host) (h : Session.Follows path prelude invocation before s)
    (line : String) :
    (∃ step s', s.dispatch host line = (.ok step, s')) ∧
      Session.Follows path prelude invocation (before ++ [line]) (s.dispatch host line).2 := by
  obtain ⟨kind, hline⟩ := Session.dispatch_follows host path prelude invocation before line
  obtain ⟨step, s', hdispatch, hfollows, -, -⟩ := hline host.backend s h
  have hs : s.dispatch host line = (.ok step, s') := hdispatch
  refine ⟨⟨step, s', hs⟩, ?_⟩
  rw [hs]
  exact hfollows

theorem answered_follows (host : Host)
    (h : Session.Follows path prelude invocation before s) (lines : List String) :
    Session.Follows path prelude invocation (before ++ lines) (answered host s lines) := by
  induction lines generalizing before s with
  | nil =>
    rw [List.append_nil]
    exact h
  | cons line rest ih =>
    have hask : Session.Follows path prelude invocation before (ask host s) := h.note rfl
    have hrest := ih (dispatch_ok host hask line).2
    rw [List.append_assoc] at hrest
    exact hrest

theorem answered_recorded (h : s.Recorded host) (lines : List String) :
    (answered host s lines).Recorded host := by
  induction lines generalizing s with
  | nil => exact h
  | cons line rest ih =>
    have hask : (ask host s).Recorded host := h.note rfl rfl
    exact ih ((Session.Recorded.kept host).dispatch hask line)

theorem start_recorded (host : Host) (config : Config) :
    (start host config).2.Recorded host := by
  have h := Session.Recorded.start host (.create host.scratchPath)
    (config.invocation (Path.folderOf host.scratchPath)) config.repl.prelude
  exact ⟨h.args, h.inputs⟩

end Session

section History

variable {host : Host} {history : String} {d : Disk} {p : Place} {old : String}

theorem openHistory_eq (hr : d.Reaches host.folder history p) (hold : d.Holds p old) :
    openHistory host history d = .ok (d.put p (.text old)) := by
  have hput := hr.put hold.not_folder (.text old)
  have hnode := Disk.node?_put_self (d := d) hold.ne_root (.text old)
  rw [openHistory, History.ensure_of_reaches hr hold]
  change (History.entries _ _ _).map _ = _
  rw [History.entries_of_reaches hput hnode]
  rfl

theorem keep_eq (hr : d.Reaches host.folder history p) (hold : d.Holds p old)
    (text line : String) :
    keep host history (d.put p (.text text)) line =
      .ok (d.put p (.text (History.extended text (entriesFor [line])))) := by
  have hput := hr.put hold.not_folder (.text text)
  unfold keep
  cases hb : blankText line with
  | true =>
    have he : entriesFor [line] = [] := by simp [entriesFor, hb]
    rw [if_pos rfl, he]
    rfl
  | false =>
    have he : entriesFor [line] = [trimmed line] := by simp [entriesFor, hb]
    rw [if_neg Bool.false_ne_true, History.record_of_reaches hput (hold.put text), Disk.put_put, he]
    rfl

variable {path : String} {prelude : Option String} {invocation : Invocation}
  {before : List String} {s : Session}

theorem answer_eq (hr : d.Reaches host.folder history p) (hold : d.Holds p old) (text : String)
    (h : Session.Follows path prelude invocation before s) (line : String) :
    answer host history s (d.put p (.text text)) line =
      (.ok (), (s.dispatch host line).2,
        d.put p (.text (History.extended text (entriesFor [line])))) := by
  obtain ⟨⟨step, s', hdispatch⟩, -⟩ := dispatch_ok host h line
  unfold answer
  rw [keep_eq hr hold, hdispatch]

/-- All lines up to the end of the input are answered, and the history grows by an entry for each
that is not blank. -/
theorem steps_eq (hr : d.Reaches host.folder history p) (hold : d.Holds p old) (text : String)
    (h : Session.Follows path prelude invocation before s) (lines : List String) :
    steps host history s (d.put p (.text text)) lines =
      (.ok (), ask host (answered host s lines),
        d.put p (.text (History.extended text (entriesFor lines)))) := by
  -- The disk stays the first one with another text at one place, so only the text is generalised.
  induction lines generalizing before s text with
  | nil =>
    have hclose : (ask host s).scratch.close = .ok () := by
      change s.scratch.close = .ok ()
      rw [h.scratch]
      rfl
    rw [steps, hclose]
    rfl
  | cons line rest ih =>
    have hask : Session.Follows path prelude invocation before (ask host s) := h.note rfl
    have hanswer := answer_eq hr hold text hask line
    have hsteps := ih (History.extended text (entriesFor [line])) (dispatch_ok host hask line).2
    have hentries : entriesFor (line :: rest) = entriesFor [line] ++ entriesFor rest := by
      rw [entriesFor, entriesFor, entriesFor, ← List.map_append, ← List.filter_append]
      rfl
    rw [hentries, History.extended_append, steps, hanswer]
    exact hsteps

theorem start_eq (host : Host) (config : Config) : ∃ invocation s,
    start host config = (.ok (), s) ∧
      Session.Follows host.scratchPath config.repl.prelude invocation [] s := by
  obtain ⟨included, hstart⟩ := Session.start_follows host host.scratchPath
    (config.invocation (Path.folderOf host.scratchPath)) config.repl.prelude
  obtain ⟨s, hs, hfollows⟩ := hstart host.backend
  -- The banner comes before all other events, and is neither a call nor a run.
  refine ⟨included, { s with log := .shown banner :: s.log }, ?_, ?_⟩
  · unfold start
    rw [hs]
  · exact ⟨hfollows.scratch, hfollows.invocation, hfollows.calls⟩

/-- A run of the console answers every line of its input and ends well. Of the disk it changes
the history only. -/
theorem run_eq {config : Config} (hr : d.Reaches host.folder (config.historyPath host.home) p)
    (hold : d.Holds p old) (input : String) :
    run host config d input =
      ⟨(ask host (answered host (start host config).2 (lines input))).log,
        d.put p (.text (History.extended old (entriesFor (lines input)))), .ok ()⟩ := by
  obtain ⟨invocation, s, hs, hfollows⟩ := start_eq host config
  have hsteps := steps_eq hr hold old hfollows (lines input)
  simp only [run, openHistory_eq hr hold, hs, hsteps]
  rfl

end History

end Console

end AgdaConsole
