import AgdaConsole.Proofs.Console.Run
import AgdaConsole.Proofs.ModuleName
import AgdaConsole.Proofs.Prelude

namespace AgdaConsole

/-- The file of a prelude of a valid configuration has the name of a module and an ending. -/
theorem Config.exists_module {config : Config} {prelude : String}
    (hvalid : config.validate = .ok ()) (hprelude : config.repl.prelude = some prelude) :
    ∃ name, ∃ ending ∈ ModuleName.suffixes, Path.fileName? prelude = some (name ++ ending) := by
  obtain ⟨file, hfile⟩ := exists_fileName hvalid hprelude
  have hsuffix := ((validate_eq_ok_iff config).mp hvalid).2 prelude hprelude
  rw [Path.fileName, hfile, Option.getD_some] at hsuffix
  obtain ⟨name, ending, hending, rfl⟩ := ModuleName.hasSuffix_iff.mp hsuffix
  exact ⟨name, ending, hending, hfile⟩

theorem Scratch.importLine_eq {prelude name ending : String}
    (hending : ending ∈ ModuleName.suffixes)
    (hfile : Path.fileName? prelude = some (name ++ ending)) :
    importLine prelude = "import " ++ name := by
  rw [importLine, Path.fileName, hfile, Option.getD_some, ModuleName.ofFileName_append hending]

namespace Console

/-- The console starts with the import of its prelude in the scratch file, and has the backend check
that. -/
theorem start_of_prelude (host : Host) {config : Config} {prelude : String}
    (hprelude : config.repl.prelude = some prelude) : ∃ s, start host config = (.ok (), s) ∧
      s.scratch = .holding host.scratchPath (Scratch.importLine prelude ++ "\n\n") ∧
      Event.asks s.log = s.scratch.disk.toList := by
  obtain ⟨invocation, s, hs, hfollows⟩ := start_eq host config
  have hbody : Session.bodyAfter config.repl.prelude [] = Scratch.importLine prelude ++ "\n\n" := by
    rw [hprelude]
    exact String.append_empty
  have hscratch := hfollows.scratch
  have hcalls := hfollows.calls
  rw [hbody] at hscratch
  refine ⟨s, hs, hscratch, ?_⟩
  rw [hcalls, hscratch, ← hbody]
  rfl

/-- The import that is written for the prelude of a valid configuration names the module of the
prelude, and the name of its file is that of the module and one ending. The import is written when
the console starts, and the first check has it. The module has a name exactly if the name of the
file is more than an ending. -/
theorem prelude_import_law {config : Config} {prelude : String}
    (hvalid : config.validate = .ok ()) (hprelude : config.repl.prelude = some prelude)
    (host : Host) : ∃ name ending s,
      ending ∈ ModuleName.suffixes ∧ Path.fileName? prelude = some (name ++ ending) ∧
      start host config = (.ok (), s) ∧
      s.scratch.body = "import " ++ name ++ "\n\n" ∧
      s.scratch.disk = some (s.scratch.header ++ "\n\n" ++ s.scratch.body) ∧
      Event.asks s.log = [s.scratch.header ++ "\n\n" ++ s.scratch.body] ∧
      (∀ m, ∀ e ∈ ModuleName.suffixes, Path.fileName? prelude = some (m ++ e) →
        m = name ∧ e = ending) ∧
      (name ≠ "" ↔ name ++ ending ∉ ModuleName.suffixes) := by
  obtain ⟨name, ending, hending, hfile⟩ := Config.exists_module hvalid hprelude
  obtain ⟨s, hs, hscratch, hasks⟩ := start_of_prelude host hprelude
  rw [Scratch.importLine_eq hending hfile] at hscratch
  rw [hscratch] at hasks
  refine ⟨name, ending, s, hending, hfile, hs, ?_, ?_, ?_, fun m e he h => ?_, not_congr ?_⟩
  · rw [hscratch]
    rfl
  · rw [hscratch]
    rfl
  · rw [hscratch]
    exact hasks
  · exact ModuleName.append_inj he hending (Option.some.inj (h.symm.trans hfile))
  · constructor
    · rintro rfl
      rwa [String.empty_append]
    · intro hmem
      -- A name that is an ending has nothing before it, as it comes apart in one way only.
      have hempty : name ++ ending = "" ++ (name ++ ending) := by rw [String.empty_append]
      exact (ModuleName.append_inj hending hmem hempty).1

theorem prelude_import_law_two_endings :
    let backend : Backend :=
      { launch := fun i => .error (.notFound i.executable), reply := fun _ => ⟨"", ⟨0⟩, true⟩ }
    let host : Host := ⟨["w"], "/h", "/s/B.agda", backend, fun _ => ""⟩
    let config : Config := { repl := { prelude := some "lib//A.agda.lagda.md/." } }
    config.validate = .ok () ∧ config.repl.prelude = some "lib//A.agda.lagda.md/." ∧
      ∃ s, start host config = (.ok (), s) ∧ s.scratch.body = "import A.agda\n\n" ∧
        Event.asks s.log = [s.scratch.header ++ "\n\nimport A.agda\n\n"] := by
  intro backend host config
  have hvalid : config.validate = .ok () := by rfl
  have hfile : Path.fileName? "lib//A.agda.lagda.md/." = some ("A.agda" ++ ".lagda.md") := by
    rfl
  obtain ⟨name, ending, s, -, -, hs, hbody, -, hasks, hunique, -⟩ :=
    prelude_import_law hvalid rfl host
  obtain ⟨rfl, -⟩ := hunique "A.agda" ".lagda.md" (by decide) hfile
  rw [hbody, String.append_assoc] at hasks
  exact ⟨hvalid, rfl, s, hs, hbody, hasks⟩

/-- A prelude whose file has nothing but an ending for a name is accepted, and what is written for
it imports no module. -/
theorem nameless_prelude_imported :
    let backend : Backend :=
      { launch := fun i => .error (.notFound i.executable), reply := fun _ => ⟨"", ⟨0⟩, true⟩ }
    let host : Host := ⟨["w"], "/h", "/s/B.agda", backend, fun _ => ""⟩
    let config : Config := { repl := { prelude := some ".agda" } }
    config.validate = .ok () ∧ ∃ s, start host config = (.ok (), s) ∧
      s.scratch.body = "import \n\n" ∧
      ¬ ∃ name ending, name ≠ "" ∧ ending ∈ ModuleName.suffixes ∧
        s.scratch.body = "import " ++ name ++ "\n\n" ∧
        Path.fileName? ".agda" = some (name ++ ending) := by
  intro backend host config
  have hvalid : config.validate = .ok () := by rfl
  have hfile : Path.fileName? ".agda" = some ("" ++ ".agda") := by rfl
  have hending : ".agda" ∈ ModuleName.suffixes := by decide
  have hprelude : config.repl.prelude = some ".agda" := rfl
  obtain ⟨s, hs, hscratch, -⟩ := start_of_prelude host hprelude
  rw [Scratch.importLine_eq hending hfile] at hscratch
  refine ⟨hvalid, s, hs, ?_, ?_⟩
  · rw [hscratch]
    rfl
  · rintro ⟨name, ending, hne, hmem, -, hname⟩
    have happend := Option.some.inj (hname.symm.trans hfile)
    exact hne (ModuleName.append_inj hmem hending happend).1

end Console

end AgdaConsole
