import AgdaConsole.Proofs.Installation
import AgdaConsole.Proofs.Interaction.Delivery
import AgdaConsole.Proofs.Program

namespace AgdaConsole

theorem Choices.range_of_goal? {c : Choices} {l : List Slot} {g : Goal}
    (h : (c.arguments l).goal? = some g) : g.range = c.range := by
  induction l with
  | nil => exact absurd h (by simp [arguments, Arguments.goal?])
  | cons s l ih =>
    cases s with
    | goal => rw [← Option.some.inj h]; rfl
    | _ => exact ih h

namespace Envelope

/-- The ranges of an envelope that is made are in the absolute path of its file. -/
theorem range_of_envelopeFor {folder file : String} {verb : Verb} {settings : List Setting}
    {e : Envelope} (h : envelopeFor folder file verb settings = .ok e) {g : Goal}
    {f : Option String} {is : List Interval} (hg : e.command.arguments.goal? = some g)
    (hr : g.range = .span f is) :
    ∃ full, f = some full ∧ Path.absolute? folder e.file = some full := by
  obtain ⟨full, c, hfull, hc, hfile, hcommand⟩ := choices_of_envelopeFor h
  have hrange : g.range = c.range := by
    rw [hcommand] at hg
    exact Choices.range_of_goal? hg
  rw [hr] at hrange
  rcases Setting.range_of_choices hc with hn | ⟨js, -, hs⟩
  · exact absurd (hrange.trans hn) (by simp)
  · refine ⟨full, ?_, hfile ▸ hfull⟩
    exact (Range.span.inj (hrange.trans hs)).1

end Envelope

namespace Interaction

theorem of_mem_runs_send {host : Host} {invocation : Invocation} {es : List Envelope} {r : Run}
    (hr : r ∈ Event.runs (send host invocation es).1) :
    ∃ launch, host.backend.start 0 invocation = .ok launch ∧
      r = ⟨invocation.interactionArgs, launch.folder, input es⟩ := by
  unfold send at hr
  split at hr
  · exact absurd hr List.not_mem_nil
  next launch hlaunch => exact ⟨launch, hlaunch, List.mem_singleton.mp hr⟩

/-- The backend is run only to send the envelope that is asked for. -/
theorem of_mem_runs {host : Host} {config : Config} {outer inner : List Setting} {verb : Verb}
    {r : Run} (hr : r ∈ Event.runs (run host config outer verb inner).1) :
    ∃ e launch, envelope host outer verb inner = .ok e ∧
      host.backend.start 0 (invocation host config (outer ++ inner)) = .ok launch ∧
      r = ⟨(invocation host config (outer ++ inner)).interactionArgs, launch.folder,
        input e.loadedFirst⟩ := by
  unfold run at hr
  split at hr
  · exact absurd hr List.not_mem_nil
  next e he =>
    dsimp only at hr
    split at hr
    · have hr : r ∈ Event.runs
          (send host (invocation host config (outer ++ inner)) e.loadedFirst).1 := by
        split at hr
        · next hsend => rwa [hsend]
        · next hsend => rwa [hsend]
      obtain ⟨launch, hlaunch, hr⟩ := of_mem_runs_send hr
      exact ⟨e, launch, he, hlaunch, hr⟩
    · exact absurd hr List.not_mem_nil

theorem envelopeFor_of_envelope {host : Host} {outer inner : List Setting} {verb : Verb}
    {e : Envelope} (h : envelope host outer verb inner = .ok e) :
    Setting.last? Setting.file? (outer ++ inner) = some e.file ∧
      envelopeFor host.folder.path e.file verb inner = .ok e := by
  unfold envelope at h
  split at h
  · exact absurd h (by simp)
  next file hfile =>
    have hmade := mapError_eq_ok.mp h
    obtain ⟨_, _, _, _, hnamed, _⟩ := choices_of_envelopeFor hmade
    rw [hnamed]
    exact ⟨hfile, hmade⟩

/-- The command that is asked for is the only one that has a goal. -/
theorem eq_of_goal? {e x : Envelope} (hx : x ∈ e.loadedFirst) {g : Goal}
    (hg : x.command.arguments.goal? = some g) : x = e := by
  unfold Envelope.loadedFirst at hx
  split at hx
  · exact List.mem_singleton.mp hx
  · rcases List.mem_cons.mp hx with rfl | hx
    · have hload : Envelope.loadCommand.arguments.goal? = none := by rfl
      exact absurd (hload.symm.trans hg) (by simp)
    · exact List.mem_singleton.mp hx

theorem workingDir_invocation (host : Host) (config : Config) (settings : List Setting) :
    (invocation host config settings).workingDir =
      config.backend.workingDir.getD host.folder.path :=
  Config.workingDir_invocation config host.folder.path

/-- Where the program runs the backend to send a command, all lines name the file that is asked for,
as it is given. A range is in the absolute path of the file for the user. The backend finds that
path for the file exactly if the file is given from the root or the backend is run where the user
is, as it is unless another folder is configured. -/
theorem named_file_law {host : Host} {i : Installation} (hi : i.Serves host) {d : Disk}
    {standard : String} {words : List String} {request : Request} {config : Config}
    {outer inner : List Setting} {verb : Verb}
    (hprepare : Program.prepare host d standard words = .ok (request, config))
    (htask : request.task = .agda outer verb inner) (text : String) :
    ∀ r ∈ Event.runs (Program.run host d standard words text).log,
      ∃ file e place, Setting.last? Setting.file? (outer ++ inner) = some file ∧
        envelope host outer verb inner = .ok e ∧
        cutLines r.input = (e.loadedFirst.map Envelope.encode, "") ∧
        i.enter (config.backend.workingDir.getD host.folder.path) = .ok place ∧
        r.folder = place.path ∧ (config.backend.workingDir = none → place = host.folder) ∧
        ∀ x ∈ e.loadedFirst, x.file = file ∧
          ∀ g f is, x.command.arguments.goal? = some g → g.range = .span f is →
            ∃ full, f = some full ∧ Path.absolute? host.folder.path file = some full ∧
              (Path.absolute? r.folder file = some full ↔
                Path.isAbsolute file.toList = true ∨ place = host.folder) := by
  intro r hr
  rw [Program.run_of_agda hprepare htask] at hr
  obtain ⟨e, launch, he, hlaunch, rfl⟩ := of_mem_runs hr
  obtain ⟨hfile, hfor⟩ := envelopeFor_of_envelope he
  obtain ⟨place, hplace, hnamed, hpath⟩ := hi.exists_place hlaunch
  rw [workingDir_invocation] at hplace
  refine ⟨e.file, e, place, hfile, he, cutLines_input e.loadedFirst, hplace, hpath, fun hw => ?_,
    fun x hx => ⟨Envelope.file_of_mem_loadedFirst hx, fun g f is hg hrange => ?_⟩⟩
  · rw [hw, Option.getD_none] at hplace
    exact Installation.eq_of_enter_path hi.named hplace
  · -- the line that loads the file has no range, so this one is the command that is asked for
    obtain rfl := eq_of_goal? hx hg
    obtain ⟨full, hf, hfull⟩ := Envelope.range_of_envelopeFor hfor hg hrange
    have hmeans := Place.meansSame_iff hnamed hi.named x.file
    rw [Path.meansSame_iff_of_absolute? hfull, ← hpath] at hmeans
    refine ⟨full, hf, hfull, hmeans.trans (and_iff_right ?_)⟩
    exact Path.ne_empty_of_absolute? hfull

theorem named_file_law_from_root :
    let i : Installation := ⟨⟨[(["w"], .folder), (["u"], .folder)]⟩, ["w"], ["bin", "agda"]⟩
    let backend := i.backend fun _ => ⟨"", .ofCode 0, true⟩
    let host : Host := ⟨["w"], "/h", "/s/A.agda", backend, fun _ => ""⟩
    let d : Disk := ⟨[(["c"], .text "[backend]\nworking_dir = \"/u\"\n")]⟩
    let config : Config := { backend := { workingDir := some "/u" } }
    let words := ["agda", "infer", "--exec", "-f/w/A", "-w1:2:3-4:5:6"]
    let inner : List Setting := [.exec, .file "/w/A", .place "1:2:3-4:5:6"]
    let e : Envelope := ⟨"/w/A", .choose .infer
      { range := .span (some "/w/A") [⟨⟨1, 2, 3⟩, ⟨4, 5, 6⟩⟩] }, by decide, by decide⟩
    i.Serves host ∧
      Program.prepare host d "/c" words = .ok (⟨none, 0, .agda [] .infer inner⟩, config) ∧
      envelope host [] .infer inner = .ok e ∧
      ∃ r ∈ Event.runs (Program.run host d "/c" words "").log,
        cutLines r.input = (e.loadedFirst.map Envelope.encode, "") ∧ r.folder = "/u" ∧
        Path.absolute? r.folder e.file = some "/w/A" := by
  intro i backend host d config words inner e
  have hi : i.Serves host := ⟨rfl, rfl, by decide⟩
  have hwords : Request.ofWords words = .ok ⟨none, 0, .agda [] .infer inner⟩ := by rfl
  have htext : Config.ofText? "[backend]\nworking_dir = \"/u\"\n" = some config := by decide +kernel
  have hfile : d.find host.folder "/c" =
      .ok (.text "[backend]\nworking_dir = \"/u\"\n") := by rfl
  have hprepare : Program.prepare host d "/c" words =
      .ok (⟨none, 0, .agda [] .infer inner⟩, config) :=
    (Program.prepare_of_text hwords hfile htext).trans rfl
  have he : envelope host [] .infer inner = .ok e := by rfl
  have hruns : Event.runs (Program.run host d "/c" words "").log ≠ [] := by
    rw [Program.run_of_agda hprepare rfl]
    decide
  obtain ⟨r, hr⟩ := List.exists_mem_of_ne_nil _ hruns
  obtain ⟨file, e', place, hfile, he', hlines, hplace, hfolder, -, hnamed⟩ :=
    named_file_law hi hprepare rfl "" r hr
  obtain rfl : e = e' := Except.ok.inj (he.symm.trans he')
  obtain rfl : "/w/A" = file := Option.some.inj hfile
  have hsent : e ∈ e.loadedFirst := List.mem_of_getLast? e.getLast?_loadedFirst
  obtain ⟨full, hf, -, hsame⟩ := (hnamed e hsent).2 _ _ _ rfl rfl
  obtain rfl : "/w/A" = full := Option.some.inj hf
  have hplace : place = ["u"] := by
    have hpath : Place.path ["u"] = "/u" := by rfl
    have hworks : config.backend.workingDir.getD host.folder.path = "/u" := by rfl
    rw [hworks, ← hpath] at hplace
    exact Installation.eq_of_enter_path (by decide) hplace
  subst hplace
  refine ⟨hi, hprepare, he, r, hr, hlines, ?_, hsame.mpr (.inl (by decide))⟩
  rw [hfolder]
  rfl

/-- A relative file of a command is another file for the backend in a folder that is configured
than the one its range is in. -/
theorem relative_file_differs :
    let i : Installation := ⟨⟨[(["w"], .folder), (["u"], .folder)]⟩, ["w"], ["bin", "agda"]⟩
    let backend := i.backend fun _ => ⟨"", .ofCode 0, true⟩
    let host : Host := ⟨["w"], "/h", "/s/A.agda", backend, fun _ => ""⟩
    let d : Disk := ⟨[(["c"], .text "[backend]\nworking_dir = \"/u\"\n")]⟩
    let config : Config := { backend := { workingDir := some "/u" } }
    let words := ["agda", "infer", "--exec", "-fA", "-w1:2:3-4:5:6"]
    let inner : List Setting := [.exec, .file "A", .place "1:2:3-4:5:6"]
    let e : Envelope := ⟨"A", .choose .infer
      { range := .span (some "/w/A") [⟨⟨1, 2, 3⟩, ⟨4, 5, 6⟩⟩] }, by decide, by decide⟩
    i.Serves host ∧
      Program.prepare host d "/c" words = .ok (⟨none, 0, .agda [] .infer inner⟩, config) ∧
      ∃ r ∈ Event.runs (Program.run host d "/c" words "").log,
        cutLines r.input = (e.loadedFirst.map Envelope.encode, "") ∧ r.folder = "/u" ∧
        Path.absolute? r.folder e.file = some "/u/A" ∧
        Path.absolute? host.folder.path e.file = some "/w/A" := by
  intro i backend host d config words inner e
  have hwords : Request.ofWords words = .ok ⟨none, 0, .agda [] .infer inner⟩ := by rfl
  have hfile : d.find host.folder "/c" =
      .ok (.text "[backend]\nworking_dir = \"/u\"\n") := by rfl
  have htext : Config.ofText? "[backend]\nworking_dir = \"/u\"\n" = some config := by decide +kernel
  have hprepare : Program.prepare host d "/c" words =
      .ok (⟨none, 0, .agda [] .infer inner⟩, config) :=
    (Program.prepare_of_text hwords hfile htext).trans rfl
  have hfull : Path.absolute? host.folder.path "A" = some "/w/A" := by decide
  have he : envelope host [] .infer inner = .ok e := by
    have hfor : envelopeFor host.folder.path "A" .infer inner = .ok e := by
      rw [envelopeFor, hfull]
      rfl
    exact congrArg (Except.mapError ProgramError.line) hfor
  rw [Program.run_of_agda hprepare rfl]
  obtain ⟨r, hr, hfolder⟩ :
      ∃ r ∈ Event.runs (run host config [] .infer inner).1, r.folder = "/u" := by
    decide
  refine ⟨⟨rfl, rfl, by decide⟩, hprepare, r, hr, ?_, hfolder, ?_, hfull⟩
  · obtain ⟨e', launch, he', -, rfl⟩ := of_mem_runs hr
    obtain rfl : e = e' := Except.ok.inj (he.symm.trans he')
    exact cutLines_input e.loadedFirst
  · rw [hfolder]
    decide

end Interaction

end AgdaConsole
