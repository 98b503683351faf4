import AgdaConsole.Proofs.CommandLine.CommandWord
import AgdaConsole.Session

namespace AgdaConsole

namespace Event

/-- A message about an error shows as what it says after the word for errors. -/
theorem plainText_errorMark (message : String) :
    plainText (errorMark ++ message) = "error: " ++ plainText message := by
  have hmark : Text.plain (errorMark.toList ++ message.toList) =
      "error: ".toList ++ Text.plain message.toList := rfl
  rw [plainText, String.toList_append, hmark, String.ofList_append, String.ofList_toList, plainText]

end Event

namespace Session

/-- A session takes a line to name a command where its first word is the name of one, so it does
not find a command behind a file. -/
theorem namesCommand_iff (line : String) :
    namesCommand line = true ↔ lineNamesCommand line ∧ ¬ fileStandsFirst line := by
  unfold namesCommand lineNamesCommand fileStandsFirst
  cases splitWords line with
  | nil => simp [commandWord?, commandWordFrom]
  | cons w ws =>
    cases hw : isFileWord w with
    | true =>
      have hnot : w ∉ Verb.names := by
        intro hm
        obtain ⟨v, -, rfl⟩ := List.mem_map.mp hm
        exact absurd (v.isFileWord_name.symm.trans hw) (by decide)
      simp [hw, hnot]
    | false => simp [commandWord?, commandWordFrom, hw]

/-- A line after a colon shows its echo, after what is said about it, and does nothing else. -/
theorem dispatch_protocol (host : Host) (s : Session) {line text : String}
    (h : Input.ofLine line = .protocol text) :
    s.dispatch host line = (.ok (.echoed (s.echo host text).1),
      { s with log := s.log ++ ((s.echo host text).2.toList.map .reported ++
        [.shown ((s.echo host text).1 ++ "\n")]) }) := by
  cases hc : (s.echo host text).2 with
  | none => simp [dispatch, h, hc, note]
  | some m => simp [dispatch, h, hc, note]

theorem echo_of_ok {host : Host} {s : Session} {text : String} {e : Envelope}
    (h : envelopeOfLine host.folder.path s.scratch.path text = .ok e) :
    s.echo host text = (e.encode, none) := by
  simp only [echo, h]

theorem echo_of_error {host : Host} {s : Session} {text : String} {fault : LineFault}
    (h : envelopeOfLine host.folder.path s.scratch.path text = .error fault) :
    s.echo host text = (text, if namesCommand text then some fault.report else none) := by
  simp only [echo, h]

/-- A line after a colon is answered with the envelope that it asks for, or else with itself. A line
that asks for none is complained about, once and after the word for errors, exactly if it names a
command and gives no file before it: a file that stands first hides the command from the session,
though not from the reader of the line. A line that this reader does not refuse names a command,
with a file before it or not. -/
theorem echo_law (host : Host) (s : Session) {text answer : String} {complaint : Option String}
    (hecho : s.echo host text = (answer, complaint)) :
    (∀ e, envelopeOfLine host.folder.path s.scratch.path text = .ok e →
      lineNamesCommand text ∧ answer = e.encode ∧ complaint = none) ∧
    (∀ fault, envelopeOfLine host.folder.path s.scratch.path text = .error fault →
      (lineNamesCommand text ∨ ∃ r, fault = .refusal r) ∧ answer = text ∧
        ∀ message, complaint = some message ↔
          message = fault.report ∧ lineNamesCommand text ∧ ¬ fileStandsFirst text) ∧
    ∀ line, Input.ofLine line = .protocol text → ∃ said : List Event,
      s.dispatch host line = (.ok (.echoed answer),
        { s with log := s.log ++ (said ++ [.shown (answer ++ "\n")]) }) ∧
      said = complaint.toList.map .reported ∧
      (Event.complaints said).map plainText =
        complaint.toList.map fun message => "error: " ++ plainText message := by
  have hnames := lineNamesCommand_or_refusal host.folder.path s.scratch.path text
  refine ⟨fun e h => ?_, fun fault h => ?_, fun line h => ⟨_, ?_, rfl, ?_⟩⟩
  · obtain ⟨rfl, rfl⟩ := Prod.mk.inj (hecho.symm.trans (echo_of_ok h))
    refine ⟨hnames.resolve_right ?_, rfl, rfl⟩
    rintro ⟨r, hr⟩
    exact absurd (h.symm.trans hr) (by simp)
  · obtain ⟨rfl, rfl⟩ := Prod.mk.inj (hecho.symm.trans (echo_of_error h))
    refine ⟨hnames.imp_right ?_, rfl, fun message => ?_⟩
    · rintro ⟨r, hr⟩
      exact ⟨r, Except.error.inj (h.symm.trans hr)⟩
    · rw [← namesCommand_iff]
      cases namesCommand answer with
      | true => simp [eq_comm]
      | false => simp
  · rw [dispatch_protocol host s h, hecho]
  · cases complaint with
    | none => rfl
    | some message => exact congrArg (fun t => [t]) (Event.plainText_errorMark message)

theorem echo_law_file_behind :
    let backend : Backend :=
      { launch := fun i => .error (.notFound i.executable), reply := fun _ => ⟨"", ⟨0⟩, true⟩ }
    let host : Host := ⟨["w"], "/h", "/s/A.agda", backend, fun _ => ""⟩
    let s : Session := ⟨.create "/s/A.agda", ⟨"agda", [], "/s"⟩, []⟩
    let report := "infer: needs a range (--where) or an expression (--expr)"
    s.echo host "infer -f A" = ("infer -f A", some report) ∧
      envelopeOfLine host.folder.path s.scratch.path "infer -f A" =
        .error (.envelope (.noTarget .infer)) ∧
      lineNamesCommand "infer -f A" ∧ ¬ fileStandsFirst "infer -f A" ∧
      Input.ofLine ":infer -f A\n" = .protocol "infer -f A" ∧
      s.dispatch host ":infer -f A\n" = (.ok (.echoed "infer -f A"),
        { s with log := [.reported report, .shown "infer -f A\n"] }) := by
  intro backend host s report
  have hpath : host.folder.path = "/w" := by decide
  have hscratch : s.scratch.path = "/s/A.agda" := rfl
  have hwords : splitWords "infer -f A" = ["infer", "-f", "A"] := by decide
  have hfault : envelopeOfLine host.folder.path s.scratch.path "infer -f A" =
      .error (.envelope (.noTarget .infer)) := by
    rw [envelopeOfLine, hwords, hpath, hscratch]
    rfl
  have hecho : s.echo host "infer -f A" = ("infer -f A", some report) := by
    rw [echo_of_error hfault]
    decide
  have hinput : Input.ofLine ":infer -f A\n" = .protocol "infer -f A" := by decide
  obtain ⟨-, herror, hline⟩ := echo_law host s hecho
  obtain ⟨-, hreported, hfirst⟩ := ((herror _ hfault).2.2 report).mp rfl
  obtain ⟨said, hdispatch, rfl, -⟩ := hline _ hinput
  exact ⟨hecho, hfault, hreported, hfirst, hinput, hdispatch⟩

/-- A malformed command behind a file is answered with the line and no message. -/
theorem file_in_front_unreported :
    let backend : Backend :=
      { launch := fun i => .error (.notFound i.executable), reply := fun _ => ⟨"", ⟨0⟩, true⟩ }
    let host : Host := ⟨["w"], "/h", "/s/A.agda", backend, fun _ => ""⟩
    let s : Session := ⟨.create "/s/A.agda", ⟨"agda", [], "/s"⟩, []⟩
    Input.ofLine ":-f A infer" = .protocol "-f A infer" ∧
      envelopeOfLine host.folder.path s.scratch.path "-f A infer" =
        .error (.envelope (.noTarget .infer)) ∧
      lineNamesCommand "-f A infer" ∧
      s.echo host "-f A infer" = ("-f A infer", none) ∧
      Event.complaints (s.dispatch host ":-f A infer").2.log = [] := by
  intro backend host s
  have hpath : host.folder.path = "/w" := by decide
  have hscratch : s.scratch.path = "/s/A.agda" := rfl
  have hwords : splitWords "-f A infer" = ["-f", "A", "infer"] := by decide
  have hfault : envelopeOfLine host.folder.path s.scratch.path "-f A infer" =
      .error (.envelope (.noTarget .infer)) := by
    rw [envelopeOfLine, hwords, hpath, hscratch]
    rfl
  have hnames : lineNamesCommand "-f A infer" := by
    refine ⟨"infer", by decide, ?_⟩
    rw [hwords]
    decide
  have hecho : s.echo host "-f A infer" = ("-f A infer", none) := by
    rw [echo_of_error hfault]
    decide
  have hinput : Input.ofLine ":-f A infer" = .protocol "-f A infer" := by decide
  refine ⟨hinput, hfault, hnames, hecho, ?_⟩
  rw [dispatch_protocol host s hinput, hecho]
  rfl

end Session

end AgdaConsole
