import AgdaConsole.Proofs.Console.Run

namespace AgdaConsole.Console

/-- One use of the console: the machine, the configuration, and the text of the input. -/
structure Sitting where
  host : Host
  config : Config
  input : String

namespace Sitting

def lines (v : Sitting) : List String := Console.lines v.input

def history (v : Sitting) : String := v.config.historyPath v.host.home

def entries (v : Sitting) : List String := entriesFor v.lines

def started (v : Sitting) : Session := (start v.host v.config).2

def outcome (v : Sitting) (d : Disk) : Outcome := run v.host v.config d v.input

/-- The backend starts, whenever it is called. -/
def CanStart (v : Sitting) : Prop :=
  ∀ n, ∃ launch, v.host.backend.start n v.started.invocation = .ok launch

/-- The disk after some sittings, one after the other. -/
def diskAfter (d : Disk) (sittings : List Sitting) : Disk :=
  sittings.foldl (fun d v => (v.outcome d).disk) d

variable {d : Disk} {p : Place} {old : String}

theorem outcome_eq {v : Sitting} (hr : d.Reaches v.host.folder v.history p)
    (hold : d.Holds p old) :
    v.outcome d = ⟨(ask v.host (answered v.host v.started v.lines)).log,
      d.put p (.text (History.extended old v.entries)), .ok ()⟩ :=
  run_eq hr hold v.input

/-- Sittings on one history leave it where it is, and write their entries at its end. -/
theorem diskAfter_holds (sittings : List Sitting) (hold : d.Holds p old)
    (hr : ∀ v ∈ sittings, d.Reaches v.host.folder v.history p) :
    (diskAfter d sittings).Holds p (History.extended old (sittings.flatMap entries)) ∧
      ∀ folder path, d.Reaches folder path p → (diskAfter d sittings).Reaches folder path p := by
  -- Each sitting is one more text at the place, and every path to it still leads there.
  induction sittings generalizing d old with
  | nil => exact ⟨hold, fun _ _ h => h⟩
  | cons v rest ih =>
    have hv := outcome_eq (hr v List.mem_cons_self) hold
    have hdisk : (v.outcome d).disk = d.put p (.text (History.extended old v.entries)) := by
      rw [hv]
    have hkept : ∀ folder path, d.Reaches folder path p →
        (d.put p (.text (History.extended old v.entries))).Reaches folder path p :=
      fun _ _ h => h.put hold.not_folder _
    obtain ⟨hholds, hreaches⟩ := ih (hold.put (History.extended old v.entries))
      fun w hw => hkept _ _ (hr w (List.mem_cons_of_mem v hw))
    rw [List.flatMap_cons, History.extended_append]
    unfold diskAfter at hholds hreaches ⊢
    rw [List.foldl_cons, hdisk]
    exact ⟨hholds, fun folder path h => hreaches folder path (hkept folder path h)⟩

theorem follows_answered (v : Sitting) (before : List String) :
    Session.Follows v.host.scratchPath v.config.repl.prelude v.started.invocation before
      (answered v.host v.started before) := by
  obtain ⟨invocation, s, hs, hfollows⟩ := start_eq v.host v.config
  have hstarted : v.started = s := by rw [started, hs]
  have hinvocation := hfollows.invocation
  subst hinvocation
  rw [hstarted]
  exact answered_follows v.host hfollows before

theorem disk_answered (v : Sitting) (before : List String) :
    (answered v.host v.started before).scratch.disk =
      some (Session.textAfter v.host.scratchPath v.config.repl.prelude before) := by
  rw [(follows_answered v before).scratch]
  rfl

/-- If the backend starts, it is run once on each text that it is called on. -/
theorem inputs_eq (v : Sitting) (h : v.CanStart) :
    (Event.runs (ask v.host (answered v.host v.started v.lines)).log).map Run.input =
      Session.callsAfter v.host.scratchPath v.config.repl.prelude v.lines := by
  have hrecorded : (ask v.host (answered v.host v.started v.lines)).Recorded v.host :=
    (answered_recorded (start_recorded v.host v.config) v.lines).note rfl rfl
  have hlast : Session.Follows v.host.scratchPath v.config.repl.prelude v.started.invocation
      v.lines (ask v.host (answered v.host v.started v.lines)) :=
    (follows_answered v v.lines).note rfl
  have hstart : ∀ n, ∃ launch, v.host.backend.start n
      (ask v.host (answered v.host v.started v.lines)).invocation = .ok launch := by
    rw [hlast.invocation]
    exact h
  rw [hrecorded.inputs hstart, hlast.calls]

end Sitting

theorem lines_of_not_mem {input : String} (h : '\x08' ∉ input.toList) :
    lines input = (Text.linesOf input.toList).map String.ofList := by
  refine List.map_congr_left fun l hl => ?_
  have hl : '\x08' ∉ l := fun hm => h (Text.subset_of_mem_linesOf hl hm)
  rw [Text.typed_eq_self hl]

theorem getElem?_lines {input : String} {i : Nat} {l : List Char}
    (hi : (Text.linesOf input.toList)[i]? = some l)
    (h : Text.ErasesSmall [] (Text.clusters l)) :
    (lines input)[i]? = some (String.ofList (Text.keptClusters l).flatten) := by
  rw [lines, List.getElem?_map, hi, Option.map_some, Text.typed_eq_flatten h]

/-- Any number of sittings on one history, of which the last is looked at. It acts on every line of
its input and ends well, whatever the backend answers. If the backend starts, it is run once at
the start and once for each line of source, on the text of the scratch file from before the line
with the line appended. The history has the entries it had before all sittings, and then those of
all sittings in their order. Without backspaces in the input the lines are those of its text, and
of a line with backspaces the clusters are left that none of them takes away. -/
theorem sittings_law {d : Disk} {p : Place} {old : String} (hold : d.Holds p old)
    (hlines : History.EndsLine old) (earlier : List Sitting) (v : Sitting)
    (hr : ∀ w ∈ earlier ++ [v], d.Reaches w.host.folder w.history p) :
    let o := v.outcome (Sitting.diskAfter d earlier)
    let text := Session.textAfter v.host.scratchPath v.config.repl.prelude
    o.result = .ok () ∧
    o.log = (ask v.host (answered v.host v.started v.lines)).log ∧
    (v.CanStart →
      (Event.runs o.log).length = v.lines.countP Session.isSource + 1 ∧
      (Event.runs o.log).head?.map Run.input = some (text []) ∧
      ∀ before line, before ++ [line] <+: v.lines → Session.isSource line = true →
        (answered v.host v.started before).scratch.disk = some (text before) ∧
        (Event.runs o.log)[before.countP Session.isSource + 1]?.map Run.input =
          some (text before ++ Session.fragment line)) ∧
    History.entries o.disk v.host.folder v.history =
      .ok (History.entriesOf old ++ (earlier ++ [v]).flatMap Sitting.entries) ∧
    ('\x08' ∉ v.input.toList → v.lines = (Text.linesOf v.input.toList).map String.ofList) ∧
    ∀ (i : Nat) (l : List Char), (Text.linesOf v.input.toList)[i]? = some l →
      Text.ErasesSmall [] (Text.clusters l) →
      v.lines[i]? = some (String.ofList (Text.keptClusters l).flatten) := by
  intro o text
  have hearlier := Sitting.diskAfter_holds earlier hold fun w hw => hr w (List.mem_append_left _ hw)
  obtain ⟨hholds, hreaches⟩ := hearlier
  have hv := hreaches _ _ (hr v (by simp))
  have ho := Sitting.outcome_eq hv hholds
  have hlog : o.log = (ask v.host (answered v.host v.started v.lines)).log :=
    congrArg Outcome.log ho
  have hdisk : o.disk = (Sitting.diskAfter d earlier).put p
      (.text (History.extended old ((earlier ++ [v]).flatMap Sitting.entries))) := by
    rw [List.flatMap_append, List.flatMap_singleton, History.extended_append]
    exact congrArg Outcome.disk ho
  have hresult := congrArg Outcome.result ho
  refine ⟨hresult, hlog, fun hcan => ?_, ?_, fun h => lines_of_not_mem h,
    fun i l hi h => getElem?_lines hi h⟩
  · have hinputs := Sitting.inputs_eq v hcan
    rw [← hlog] at hinputs
    refine ⟨?_, ?_, fun before line hp hs => ⟨Sitting.disk_answered v before, ?_⟩⟩
    · have hlength := congrArg List.length hinputs
      rw [List.length_map, Session.length_callsAfter] at hlength
      exact hlength
    · rw [← List.head?_map, hinputs]
      exact Session.head?_callsAfter _ _ _
    · rw [← List.getElem?_map, hinputs]
      exact Session.getElem?_callsAfter _ _ hp hs
  · have hentries : ∀ e ∈ (earlier ++ [v]).flatMap Sitting.entries, History.IsEntry e := by
      intro e he
      obtain ⟨w, -, hw⟩ := List.mem_flatMap.mp he
      exact isEntry_of_mem_entriesFor hw
    rw [hdisk, History.entries_of_reaches (hv.put hholds.not_folder _)
      (Disk.node?_put_self hholds.ne_root _), History.entriesOf_extended hlines hentries]

/-- Two sittings on a history that is not there yet, with a backend that never succeeds. -/
theorem sittings_law_two :
    let host : Host := ⟨["work"], "/home", "/scratch/refl.agda",
      { launch := fun i => .ok ⟨i.executable, i.workingDir⟩
        reply := fun n => ⟨"", if n = 0 then .ofSignal 9 else .ofCode 42, true⟩ }, fun _ => ""⟩
    let config : Config := { repl := ⟨none, some "/h"⟩ }
    let first : Sitting := ⟨host, config, "x = 1\r\n\n :abort"⟩
    let second : Sitting := ⟨host, config, "!ls\ny = 2\n"⟩
    let d : Disk := ⟨[]⟩
    let o := second.outcome (Sitting.diskAfter d [first])
    d.Holds ["h"] "" ∧ History.EndsLine "" ∧
      (∀ w ∈ [first] ++ [second], d.Reaches w.host.folder w.history ["h"]) ∧
      second.CanStart ∧ o.result = .ok () ∧ (Event.runs o.log).length = 2 ∧
      History.entries o.disk host.folder "/h" = .ok ["x = 1", ":abort", "!ls", "y = 2"] := by
  intro host config first second d o
  have hold : d.Holds ["h"] "" := .inr ⟨rfl, rfl⟩
  have hlines : History.EndsLine "" := .inl rfl
  have hr : ∀ w ∈ [first] ++ [second], d.Reaches w.host.folder w.history ["h"] := by
    have hreach : d.Reaches host.folder "/h" ["h"] := ⟨by rfl, by rfl⟩
    intro w hw
    rcases List.mem_pair.mp hw with rfl | rfl
    · exact hreach
    · exact hreach
  have hcan : second.CanStart := fun n => ⟨_, rfl⟩
  obtain ⟨hresult, -, hruns, hentries, -⟩ := sittings_law hold hlines [first] second hr
  refine ⟨hold, hlines, hr, hcan, hresult, (hruns hcan).1.trans ?_, hentries.trans ?_⟩
  · decide
  · decide

/-- A line with a backspace is kept as the backspace leaves it, and not as it stands in the text. -/
theorem entries_backspace :
    let host : Host := ⟨["work"], "/home", "/scratch/refl.agda",
      { launch := fun i => .ok ⟨i.executable, i.workingDir⟩
        reply := fun _ => ⟨"", .ofCode 0, true⟩ }, fun _ => ""⟩
    let config : Config := { repl := ⟨none, some "/h"⟩ }
    let v : Sitting := ⟨host, config, "ab\x08\n"⟩
    let d : Disk := ⟨[]⟩
    config.validate = .ok () ∧ v.CanStart ∧ d.Holds ["h"] "" ∧
      d.Reaches host.folder v.history ["h"] ∧
      History.entries (v.outcome d).disk host.folder v.history = .ok ["a"] ∧
      History.entries (v.outcome d).disk host.folder v.history ≠
        .ok (entriesFor ((Text.linesOf v.input.toList).map String.ofList)) := by
  intro host config v d
  refine ⟨rfl, fun n => ⟨_, rfl⟩, .inr ⟨rfl, rfl⟩, ⟨?_, ?_⟩, ?_, ?_⟩
  · decide
  · decide
  · decide
  · decide

end AgdaConsole.Console
