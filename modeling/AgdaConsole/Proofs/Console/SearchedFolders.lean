import AgdaConsole.Proofs.Console.Run
import AgdaConsole.Proofs.Installation
import AgdaConsole.Proofs.Program
import AgdaConsole.Proofs.Session.Includes

namespace AgdaConsole

namespace Console

variable {host : Host} {P : Session → Prop} {s : Session}

theorem answer_keeps (hk : Session.Kept host P) (h : P s) (history : String) (d : Disk)
    (line : String) : P (answer host history s d line).2.1 := by
  have hdispatch := hk.dispatch h
  unfold answer
  split
  · exact h
  · have hline := hdispatch line
    split
    · next hs => rwa [hs] at hline
    · next hs => rwa [hs] at hline

/-- What is kept by a session is kept by the console, however far it gets with its lines. -/
theorem steps_keeps (hk : Session.Kept host P) (h : P s) (history : String) (d : Disk)
    (lines : List String) : P (steps host history s d lines).2.1 := by
  induction lines generalizing s d with
  | nil => exact hk.note h rfl rfl
  | cons line rest ih =>
    have hask := hk.note (e := .shown (prompt host.folder)) h rfl rfl
    have hline := answer_keeps hk hask history d line
    unfold steps ask
    split
    · next hs => rwa [hs] at hline
    · next hs =>
      rw [hs] at hline
      exact ih hline _

theorem start_launched (host : Host) (config : Config) : ∃ s invocation,
    start host config = (.ok (), s) ∧ s.Launched host host.scratchPath invocation ∧
      invocation.workingDir = config.backend.workingDir.getD (Path.folderOf host.scratchPath) ∧
      invocation.includes = Path.firsts
        (config.backend.includes ++ (Session.preludeFolder host config.repl.prelude).toList) := by
  obtain ⟨s, included, hs, hlaunched, hworks, hincludes⟩ := Session.start_launched host
    host.scratchPath (config.invocation (Path.folderOf host.scratchPath)) config.repl.prelude
  refine ⟨{ s with log := .shown banner :: s.log }, included, ?_, ?_, ?_, ?_⟩
  · unfold start
    rw [hs]
  · exact ⟨hlaunched.folders, hlaunched.path, hlaunched.invocation⟩
  · rw [hworks, Config.workingDir_invocation]
  · rw [hincludes, Config.includes_invocation]
    exact Path.foldl_addPath _ _

/-- Every run of the backend in a run of the console is a check of the scratch file by one
invocation, and happens in the folder in which the backend was started for it. -/
theorem exists_invocation (host : Host) (config : Config) : ∃ invocation : Invocation,
    invocation.workingDir = config.backend.workingDir.getD (Path.folderOf host.scratchPath) ∧
    invocation.includes = Path.firsts
      (config.backend.includes ++ (Session.preludeFolder host config.repl.prelude).toList) ∧
    ∀ d input, ∀ r ∈ Event.runs (run host config d input).log,
      r.args = invocation.checkArgs host.scratchPath ∧
        ∃ n launch, host.backend.start n invocation = .ok launch ∧ r.folder = launch.folder := by
  obtain ⟨s, invocation, hs, hlaunched, hworks, hincludes⟩ := start_launched host config
  have hrecorded : s.Recorded host := by
    have hstart := start_recorded host config
    rwa [hs] at hstart
  refine ⟨invocation, hworks, hincludes, fun d input r hr => ?_⟩
  unfold run at hr
  dsimp only at hr
  split at hr
  · exact absurd hr List.not_mem_nil
  next opened _ =>
    rw [hs] at hr
    have hend := steps_keeps (Session.Launched.kept host host.scratchPath invocation) hlaunched
      (config.historyPath host.home) opened (lines input)
    have hargs := (steps_keeps (Session.Recorded.kept host) hrecorded
      (config.historyPath host.home) opened (lines input)).args r hr
    rw [hend.invocation, hend.path] at hargs
    exact ⟨hargs, hend.folders r hr⟩

end Console

theorem Session.isAbsolute_preludeFolder {host : Host} {prelude : Option String} {dir : String}
    (h : preludeFolder host prelude = some dir) : Path.isAbsolute dir.toList = true := by
  obtain ⟨p, -, hdir⟩ := Option.bind_eq_some_iff.mp h
  exact Path.isAbsolute_of_absolute? host.folder.isAbsolute_path hdir

namespace Console

/-- Every check of the console searches the folders that the user has named and the folder of the
prelude. It is run in the folder that is configured, or else in the one of the scratch file. There
a path of the user leads where it leads the user exactly if it starts at the root, or the check is
run where the user is. The folder of the prelude is always the one that is meant. -/
theorem searched_folders_law {host : Host} {i : Installation} (hi : i.Serves host) {d : Disk}
    {standard : String} {words : List String} {request : Request} {c : Config}
    {settings : List Setting}
    (hprepare : Program.prepare host d standard words = .ok (request, c))
    (htask : request.task = .repl settings) (input : String) :
    let config := c.apply settings
    let user := c.backend.includes ++ settings.filterMap Setting.includePath?
    let prelude := Session.preludeFolder host config.repl.prelude
    let searched := Path.firsts (user ++ prelude.toList)
    ∀ r ∈ Event.runs (Program.run host d standard words input).log,
      ∃ place, i.enter (config.backend.workingDir.getD (Path.folderOf host.scratchPath)) =
          .ok place ∧ r.folder = place.path ∧
        r.args = ["--no-main", "--compile"] ++
          (searched.map fun p => ["--include-path", p]).flatten ++ [host.scratchPath] ∧
        (∀ p ∈ searched, p ∈ user ∨ prelude = some p) ∧
        (∀ p, Path.MeansSame r.folder host.folder.path p ↔
          p ≠ "" ∧ (Path.isAbsolute p.toList = true ∨ place = host.folder)) ∧
        ∀ dir, prelude = some dir → Path.MeansSame r.folder host.folder.path dir := by
  intro config user prelude searched r hr
  -- no line of the input changes the invocation, so its folders are known from the start
  obtain ⟨invocation, hworks, hincludes, hruns⟩ := exists_invocation host config
  have hsearched : invocation.includes = searched :=
    hincludes.trans (Config.firsts_includes_apply c settings _)
  rw [Program.run_of_repl hprepare htask] at hr
  split at hr
  · exact absurd hr List.not_mem_nil
  obtain ⟨hargs, n, launch, hlaunch, hfolder⟩ := hruns d input r hr
  obtain ⟨place, hplace, hnamed, hpath⟩ := hi.exists_place hlaunch
  rw [hworks] at hplace
  have hmeans : ∀ p, Path.MeansSame r.folder host.folder.path p ↔
      p ≠ "" ∧ (Path.isAbsolute p.toList = true ∨ place = host.folder) := by
    rw [hfolder, hpath]
    exact Place.meansSame_iff hnamed hi.named
  refine ⟨place, hplace, hfolder.trans hpath, ?_, fun p hp => ?_, hmeans, fun dir hdir => ?_⟩
  · exact hargs.trans (Invocation.checkArgs_eq hsearched _)
  · have hp := (Path.firsts_sublist _).mem hp
    exact (List.mem_append.mp hp).imp_right fun hp => Option.mem_toList.mp hp
  · have hroot := Session.isAbsolute_preludeFolder hdir
    refine (hmeans dir).mpr ⟨?_, .inl hroot⟩
    rintro rfl
    exact absurd hroot (by decide)

theorem searched_folders_law_prelude :
    let i : Installation := ⟨⟨[(["w"], .folder), (["s"], .folder)]⟩, ["w"], ["bin", "agda"]⟩
    let backend := i.backend fun _ => ⟨"", .ofCode 0, true⟩
    let host : Host := ⟨["w"], "/h", "/s/A.agda", backend, fun _ => ""⟩
    let words := ["repl", "--history=/log", "-i/lib", "-ilib", "--prelude=src/P.agda"]
    let settings : List Setting :=
      [.history "/log", .includePath "/lib", .includePath "lib", .prelude "src/P.agda"]
    i.Serves host ∧
      Program.prepare host ⟨[]⟩ "/c" words = .ok (⟨none, 0, .repl settings⟩, {}) ∧
      ∃ r ∈ Event.runs (Program.run host ⟨[]⟩ "/c" words "").log,
        r.folder = "/s" ∧ r.args = ["--no-main", "--compile", "--include-path", "/lib",
          "--include-path", "lib", "--include-path", "/w/src", "/s/A.agda"] ∧
        Path.MeansSame r.folder host.folder.path "/lib" ∧
        Path.MeansSame r.folder host.folder.path "/w/src" := by
  intro i backend host words settings
  have hi : i.Serves host := ⟨rfl, rfl, by decide⟩
  have hprepare : Program.prepare host ⟨[]⟩ "/c" words =
      .ok (⟨none, 0, .repl settings⟩, {}) := by rfl
  have hruns : Event.runs (Program.run host ⟨[]⟩ "/c" words "").log ≠ [] := by decide
  obtain ⟨r, hr⟩ := List.exists_mem_of_ne_nil _ hruns
  obtain ⟨place, hplace, hfolder, hargs, -, hmeans, hprelude⟩ :=
    searched_folders_law hi hprepare rfl "" r hr
  have hplace : place = ["s"] := by
    have hs : Path.folderOf "/s/A.agda" = "/s" := by rfl
    have hworks : (({} : Config).apply settings).backend.workingDir = none := by rfl
    have hpath : Place.path ["s"] = "/s" := by rfl
    rw [hworks, Option.getD_none, hs, ← hpath] at hplace
    exact Installation.eq_of_enter_path (by decide) hplace
  have hdir : Session.preludeFolder host (some "src/P.agda") = some "/w/src" := by decide
  have hasked : (({} : Config).apply settings).repl.prelude = some "src/P.agda" := by rfl
  have huser : settings.filterMap Setting.includePath? = ["/lib", "lib"] := by rfl
  have hsearched : Path.firsts (({} : Config).backend.includes ++ ["/lib", "lib"] ++
      (some "/w/src").toList) = ["/lib", "lib", "/w/src"] := by rfl
  subst hplace
  refine ⟨hi, hprepare, r, hr, hfolder, ?_, ?_, hprelude _ hdir⟩
  · rw [hargs, huser, hasked, hdir, hsearched]
    rfl
  · exact (hmeans "/lib").mpr ⟨by decide, .inl (by decide)⟩

/-- A relative folder to search is looked for beside the scratch file, and not where the user is. -/
theorem relative_folder_moves :
    let i : Installation := ⟨⟨[(["w"], .folder), (["s"], .folder)]⟩, ["w"], ["bin", "agda"]⟩
    let backend := i.backend fun _ => ⟨"", .ofCode 0, true⟩
    let host : Host := ⟨["w"], "/h", "/s/A.agda", backend, fun _ => ""⟩
    let words := ["repl", "--history=/log", "-ilib"]
    i.Serves host ∧
      ∃ r ∈ Event.runs (Program.run host ⟨[]⟩ "/c" words "").log,
        r.args = ["--no-main", "--compile", "--include-path", "lib", "/s/A.agda"] ∧
        r.folder = "/s" ∧ Path.absolute? r.folder "lib" = some "/s/lib" ∧
        Path.absolute? host.folder.path "lib" = some "/w/lib" := by
  intro i backend host words
  refine ⟨⟨rfl, rfl, by decide⟩, ?_⟩
  decide

end Console

end AgdaConsole
