import AgdaConsole.Program
import AgdaConsole.Proofs.CommandLine.Line

namespace AgdaConsole

namespace Level

/-- The level of the program's arguments that reads what a level of a line reads. -/
def onProgram : Level → Level
  | .line => .agda
  | .lineVerb v => .agdaVerb v
  | l => l

theorem enter?_onProgram (l : Level) (w : String) :
    l.onProgram.enter? w = (l.enter? w).map onProgram := by
  cases l with
  | line => simp [onProgram, enter?, Function.comp_def]
  | agda => simp [onProgram, enter?, Function.comp_def]
  | program =>
    by_cases hr : w = "repl"
    · simp [onProgram, enter?, hr]
    · by_cases ha : w = "agda"
      · simp [onProgram, enter?, ha]
      · simp [onProgram, enter?, hr, ha]
  | lineVerb v | repl | agdaVerb v => rfl

theorem needsCommand_onProgram (l : Level) : l.onProgram.needsCommand = l.needsCommand := by
  cases l <;> rfl

theorem verb?_onProgram (l : Level) : l.onProgram.verb? = l.verb? := by
  cases l <;> rfl

theorem mem_flags_onProgram {l : Level} {f : Flag} (h : f ∈ l.flags) :
    f ∈ l.onProgram.flags := by
  cases l with
  | line =>
    have hsub : flags .line ⊆ flags .agda := by decide
    exact hsub h
  | lineVerb v =>
    have hsub : [Flag.file, .help] ⊆ [.file, .exec, .agda, .config, .verbose, .help] := by decide
    rcases List.mem_append.mp h with h | h
    · exact List.mem_append_left _ h
    · exact List.mem_append_right _ (hsub h)
  | program | repl | agda | agdaVerb v => exact h

theorem longFlag?_onProgram {l : Level} {name : String} {f : Flag}
    (h : l.longFlag? name = some f) : l.onProgram.longFlag? name = some f := by
  have hf : f ∈ l.flags := List.mem_of_find?_eq_some h
  have hn := List.find?_some h
  exact longFlag?_of_mem (mem_flags_onProgram hf) (List.contains_iff_mem.mp hn)

theorem find?_letter {c : Char} {f : Flag}
    (h : [Flag.file, .help].find? (fun g => g.letter? == some c) = some f) :
    [Flag.file, .exec, .agda, .config, .verbose, .help].find? (fun g => g.letter? == some c) =
      some f := by
  have hm := List.mem_of_find?_eq_some h
  have hc := List.find?_some h
  rcases List.mem_cons.mp hm with rfl | hm
  · obtain rfl : 'f' = c := Option.some.inj (beq_iff_eq.mp hc)
    decide
  · rw [List.mem_singleton.mp hm] at hc ⊢
    obtain rfl : 'h' = c := Option.some.inj (beq_iff_eq.mp hc)
    decide

theorem letterFlag?_onProgram {l : Level} {c : Char} {f : Flag}
    (h : l.letterFlag? c = some f) : l.onProgram.letterFlag? c = some f := by
  cases l with
  | line => exact find?_letter h
  | lineVerb v =>
    unfold letterFlag? at h ⊢
    simp only [onProgram, flags, List.find?_append] at h ⊢
    cases hv : v.flags.find? fun g => g.letter? == some c with
    | some g =>
      rw [hv] at h
      exact h
    | none =>
      rw [hv, Option.none_or] at h
      rw [Option.none_or]
      exact find?_letter h
  | program | repl | agda | agdaVerb v => exact h

end Level

namespace Scan

variable {s t : Scan} {l : Level}

theorem switch_onProgram (s : Scan) (l : Level) (f : Flag) :
    s.switch l.onProgram f = s.switch l f := by
  simp only [switch, Level.verb?_onProgram]

theorem longWord_onProgram {w : List Char} (h : s.longWord l w = .ok t) :
    s.longWord l.onProgram w = .ok t := by
  unfold longWord at h ⊢
  dsimp only at h ⊢
  split at h
  · exact absurd h (by simp)
  · next g hg =>
    rw [Level.longFlag?_onProgram hg]
    simp only [switch_onProgram]
    exact h

theorem letters_onProgram {w : List Char} (h : s.letters l w = .ok t) :
    s.letters l.onProgram w = .ok t := by
  induction w generalizing s with
  | nil => exact h
  | cons c r ih =>
    unfold letters at h ⊢
    split at h
    · exact absurd h (by simp)
    · next g hg =>
      simp only [Level.letterFlag?_onProgram hg]
      split at h
      · next ht =>
        rw [if_pos ht]
        exact h
      · next ht =>
        obtain ⟨u, hu, h⟩ := bind_eq_ok.mp h
        rw [if_neg ht, switch_onProgram, hu]
        exact ih h

theorem word_onProgram {w : String} (h : s.word l w = .ok t) : s.word l.onProgram w = .ok t := by
  unfold word at h ⊢
  split at h
  · exact longWord_onProgram h
  · exact letters_onProgram h
  · split at h
    · exact h
    · exact absurd h (by simp)

theorem finish_onProgram {settings : List Setting} (h : s.finish l = .ok settings) :
    s.finish l.onProgram = .ok settings := by
  obtain ⟨u, hu, h⟩ := bind_eq_ok.mp h
  refine bind_eq_ok.mpr ⟨u, hu, ?_⟩
  rw [Level.needsCommand_onProgram]
  split at h
  · exact absurd h (by simp)
  · next hn =>
    rw [if_neg hn]
    exact h

theorem afterDashes_onProgram {ws : List String} {settings : List Setting}
    (h : s.afterDashes l ws = .ok settings) : s.afterDashes l.onProgram ws = .ok settings := by
  unfold afterDashes at h ⊢
  split at h
  · exact finish_onProgram h
  · split at h
    · exact absurd h (by simp)
    · exact absurd h (by simp)

end Scan

/-- A reading of the words of a line, as one of the program's arguments. -/
def Reading.onProgram (r : Reading) : Reading := r.map fun p => (p.1.onProgram, p.2)

namespace Level

theorem Keeps.onProgram {l : Level} {s : Scan} {w : String} (h : l.Keeps s w) :
    l.onProgram.Keeps s w := by
  unfold Keeps at h ⊢
  split at h
  · exact h
  · obtain ⟨hm, hhelp⟩ := h
    rw [enter?_onProgram, needsCommand_onProgram, hm]
    exact ⟨rfl, hhelp⟩

/-- What a level of a line reads the program reads alike, though it knows more flags. -/
theorem Scans.onProgram {l : Level} {s : Scan} {ws : List String} {reading : Reading}
    (h : l.Scans s ws reading) : l.onProgram.Scans s ws reading.onProgram := by
  induction h with
  | finish h => exact .finish (Scan.finish_onProgram h)
  | value hf hany _ ih => exact .value hf hany ih
  | enter hf hm _ ht ih =>
    refine .enter hf ?_ ih ht
    rw [enter?_onProgram, hm]
    rfl
  | dashes hk h => exact .dashes hk.onProgram (Scan.afterDashes_onProgram h)
  | word hk hd hw _ ih => exact .word hk.onProgram hd (Scan.word_onProgram hw) ih

theorem finish_line (s : Scan) (settings : List Setting) : s.finish .line ≠ .ok settings := by
  intro h
  obtain ⟨u, -, h⟩ := bind_eq_ok.mp h
  exact absurd h (by simp [needsCommand])

theorem afterDashes_line (s : Scan) (ws : List String) (settings : List Setting) :
    s.afterDashes .line ws ≠ .ok settings := by
  intro h
  unfold Scan.afterDashes at h
  split at h
  · exact finish_line s settings h
  · split at h
    · exact absurd h (by simp)
    · exact absurd h (by simp)

theorem Scans.eq_singleton {l : Level} {s : Scan} {ws : List String} {reading : Reading}
    (h : l.Scans s ws reading) (hl : ∀ w, l.enter? w = none) :
    ∃ settings, reading = [(l, settings)] := by
  induction h with
  | finish h => exact ⟨_, rfl⟩
  | value _ _ _ ih => exact ih hl
  | enter _ hm _ _ _ => exact absurd ((hl _).symm.trans hm) (by simp)
  | dashes _ _ => exact ⟨_, rfl⟩
  | word _ _ _ _ ih => exact ih hl

theorem Scans.eq_pair {l : Level} {s : Scan} {ws : List String} {reading : Reading}
    (h : l.Scans s ws reading) (hl : l = .line) :
    ∃ outer v inner, reading = [(.line, outer), (.lineVerb v, inner)] := by
  induction h with
  | finish h =>
    subst hl
    exact absurd h (finish_line _ _)
  | value _ _ _ ih => exact ih hl
  | enter _ hm h _ _ =>
    subst hl
    obtain ⟨v, -, rfl⟩ := Option.map_eq_some_iff.mp hm
    obtain ⟨inner, rfl⟩ := h.eq_singleton fun _ => rfl
    exact ⟨_, v, inner, rfl⟩
  | dashes _ h =>
    subst hl
    exact absurd h (afterDashes_line _ _ _)
  | word _ _ _ _ ih => exact ih hl

/-- A line has no flags that are the program's alone. -/
theorem mem_flags_of_gives_line {v : Verb} {x : Setting}
    (h : Level.line.Gives x ∨ (Level.lineVerb v).Gives x) :
    x.flag ≠ .exec ∧ x.flag ≠ .config := by
  have hline : ∀ f ∈ flags .line, f ≠ .exec ∧ f ≠ .config := by decide
  have hverb : ∀ f ∈ flags (.lineVerb v), f ≠ .exec ∧ f ≠ .config := by
    cases v <;> decide
  rcases h with h | h
  · exact hline _ h.flag_mem
  · exact hverb _ h.flag_mem

end Level

/-- The words of a line, after the name of the task, ask the program for the same command. -/
theorem Request.ofWords_of_line {ws : List String} {outer inner : List Setting} {v : Verb}
    (h : Level.line.read ws = .ok [(.line, outer), (.lineVerb v, inner)]) :
    .exec ∉ outer ++ inner ∧
      ∃ n, ofWords ("agda" :: ws) = .ok ⟨none, n, .agda outer v inner⟩ := by
  have hflags : ∀ x ∈ outer ++ inner, x.flag ≠ .exec ∧ x.flag ≠ .config := by
    intro x hx
    refine Level.mem_flags_of_gives_line (v := v) ?_
    rcases List.mem_append.mp hx with hx | hx
    · exact .inl (Level.gives_of_read h _ List.mem_cons_self x hx)
    · exact .inr (Level.gives_of_read h _ (List.mem_cons_of_mem _ List.mem_cons_self) x hx)
  have hconfig : Setting.last? Setting.config? (outer ++ inner) = none := by
    refine ({} : Setting.Picks Setting.config? .config).last?_eq_none fun b hb => ?_
    exact (hflags _ hb).2 rfl
  have hagda : Level.agda.scan {} ws = .ok [(.agda, outer), (.agdaVerb v, inner)] :=
    Level.scan_of_scans (Level.scans_of_scan h).onProgram
  have hread : Level.program.read ("agda" :: ws) =
      .ok [(.program, []), (.agda, outer), (.agdaVerb v, inner)] := by
    have henter : Level.program.enter? "agda" = some .agda := by decide
    have hwaits : ({} : Scan).waiting? = none := rfl
    rw [Level.read, Level.scan, hwaits]
    simp only [henter, hagda]
    rfl
  let reading : Reading := [(.program, []), (.agda, outer), (.agdaVerb v, inner)]
  have hsettings : reading.settings = outer ++ inner := by simp [reading, Reading.settings]
  refine ⟨fun hexec => (hflags _ hexec).1 rfl, reading.verbosity, ?_⟩
  unfold ofWords
  rw [hread]
  change Except.ok (Request.mk (Setting.last? Setting.config? reading.settings) _ _) = _
  rw [hsettings, hconfig]

/-- The options of a line name a file. -/
def lineNamesFile (line : String) : Prop :=
  ∃ reading file, Level.line.read (splitWords line) = .ok reading ∧ .file file ∈ reading.settings

/-- The program run on the words of a line that names a file agrees with the line in a session,
whatever the file of the session is. It shows the envelope that the line asks for, and nothing
else happens. Where the line asks for none, the program fails for the same reason and shows
nothing. -/
theorem program_agrees_with_line (host : Host) (d : Disk) (standard text line default : String)
    (config : Config) (hconfig : Config.load d host.folder standard = .ok config)
    (hfile : lineNamesFile line) :
    Program.run host d standard ("agda" :: splitWords line) text =
      match envelopeOfLine host.folder.path default line with
      | .ok e => ⟨[.shown (e.encode ++ "\n")], d, .ok ()⟩
      | .error fault => ⟨[], d, .error (.line fault)⟩ := by
  obtain ⟨reading, file, hread, hmem⟩ := hfile
  obtain ⟨outer, v, inner, rfl⟩ := (Level.scans_of_scan hread).eq_pair rfl
  obtain ⟨hexec, n, hwords⟩ := Request.ofWords_of_line hread
  have hsettings : Reading.settings [(.line, outer), (.lineVerb v, inner)] = outer ++ inner := by
    simp [Reading.settings]
  rw [hsettings] at hmem
  have hprepare : Program.prepare host d standard ("agda" :: splitWords line) =
      .ok (⟨none, n, .agda outer v inner⟩, config) := by
    simp only [Program.prepare, hwords, Option.getD_none, hconfig]
  have hlast : ∃ last, Setting.last? Setting.file? (outer ++ inner) = some last := by
    cases h : Setting.last? Setting.file? (outer ++ inner) with
    | some last => exact ⟨last, rfl⟩
    | none =>
      rw [Setting.last?, List.getLast?_eq_none_iff, List.filterMap_eq_nil_iff] at h
      exact absurd (h _ hmem) (by simp [Setting.file?])
  obtain ⟨last, hlast⟩ := hlast
  have hline : envelopeOfLine host.folder.path default line =
      envelopeFor host.folder.path last v inner := by
    simp only [envelopeOfLine, envelopeOfWords, hread, hsettings, hlast]
    rfl
  have henvelope : Interaction.envelope host outer v inner =
      (envelopeFor host.folder.path last v inner).mapError .line := by
    simp only [Interaction.envelope, hlast]
  have hasked : (outer ++ inner).contains Setting.exec = false := by
    rw [← Bool.not_eq_true, List.contains_iff_mem]
    exact hexec
  simp only [Program.run, hprepare, Program.perform, Interaction.run, henvelope, hline]
  cases envelopeFor host.folder.path last v inner with
  | error fault => rfl
  | ok e =>
    simp only [Except.mapError, hasked]
    rfl

theorem program_agrees_with_line_dashes :
    let backend : Backend :=
      { launch := fun i => .error (.notFound i.executable), reply := fun _ => ⟨"", ⟨0⟩, true⟩ }
    let host : Host := ⟨["w"], "/h", "/s/A.agda", backend, fun _ => ""⟩
    let line := "why_in_scope_toplevel -fA -e --exec"
    let bare := "-f A why_in_scope"
    let shown := "IOTCM \"A\" NonInteractive Indirect (Cmd_why_in_scope_toplevel \"--exec\")\n"
    Config.load ⟨[]⟩ ["w"] "/c" = .ok {} ∧ lineNamesFile line ∧ lineNamesFile bare ∧
      Program.run host ⟨[]⟩ "/c" ("agda" :: splitWords line) "" =
        ⟨[.shown shown], ⟨[]⟩, .ok ()⟩ ∧
      Program.run host ⟨[]⟩ "/c" ("agda" :: splitWords bare) "" =
        ⟨[], ⟨[]⟩, .error (.line (.envelope (.noTarget .whyInScope)))⟩ := by
  intro backend host line bare shown
  have hconfig : Config.load ⟨[]⟩ ["w"] "/c" = .ok {} := by rfl
  have hwords : splitWords line = ["why_in_scope_toplevel", "-fA", "-e", "--exec"] := by
    decide
  have hbareWords : splitWords bare = ["-f", "A", "why_in_scope"] := by decide
  have hline : lineNamesFile line := by
    refine ⟨[(.line, []), (.lineVerb .whyInScopeToplevel, [.file "A", .expr "--exec"])], "A", ?_,
      by decide⟩
    rw [hwords]
    rfl
  have hbare : lineNamesFile bare := by
    refine ⟨[(.line, [.file "A"]), (.lineVerb .whyInScope, [])], "A", ?_, by decide⟩
    rw [hbareWords]
    rfl
  let e : Envelope :=
    ⟨"A", .choose .whyInScopeToplevel { expr := "--exec" }, by decide, by decide⟩
  have hmade : envelopeOfLine "/w" "B" line = .ok e := by
    rw [envelopeOfLine, hwords]
    rfl
  have hfault : envelopeOfLine "/w" "B" bare = .error (.envelope (.noTarget .whyInScope)) := by
    rw [envelopeOfLine, hbareWords]
    rfl
  have hshown : e.encode ++ "\n" = shown := by decide
  have hruns := program_agrees_with_line host ⟨[]⟩ "/c" "" line "B" {} hconfig hline
  have hfails := program_agrees_with_line host ⟨[]⟩ "/c" "" bare "B" {} hconfig hbare
  have hpath : host.folder.path = "/w" := by rfl
  rw [hpath, hmade] at hruns
  rw [hpath, hfault] at hfails
  refine ⟨hconfig, hline, hbare, ?_, hfails⟩
  rw [← hshown]
  exact hruns

end AgdaConsole
