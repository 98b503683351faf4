import AgdaConsole.Session

namespace AgdaConsole

/-- A line of input that changes the scratch file: it is source, or starts the file over. -/
def Input.writes : Input → Bool
  | .source _ | .reset => true
  | .nothing | .protocol _ | .shell _ | .clear => false

/-- The answer of the backend in a step. -/
def Step.answer? : Step → Option Bool
  | .checked ok => some ok
  | _ => none

/-- A step without the answer of the backend. -/
def Step.kind : Step → Step
  | .checked _ => .checked true
  | s => s

namespace Event

theorem asks_append (log new : List Event) : asks (log ++ new) = asks log ++ asks new :=
  List.filterMap_append

end Event

namespace Session

/-- Calling the backend leaves its answer and the call. The rest of the session stays. -/
theorem check_eq (host : Host) (s : Session) :
    ∃ new, Event.asks new = [s.scratch.disk.getD ""] ∧ s.check host =
      (host.backend.accepts (Event.asks s.log).length s.invocation,
        { s with log := s.log ++ new }) := by
  cases hl : host.backend.start (Event.asks s.log).length s.invocation with
  | error e =>
    refine ⟨[.asked (s.scratch.disk.getD ""), .reported e.message], rfl, ?_⟩
    simp [check, note, Backend.accepts, hl]
  | ok launch =>
    cases hr : (host.backend.reply (Event.asks s.log).length).status.isSuccess with
    | true =>
      refine ⟨[.asked (s.scratch.disk.getD ""), .ran ⟨s.invocation.checkArgs s.scratch.path,
        launch.folder, s.scratch.disk.getD ""⟩,
        .shown (host.backend.reply (Event.asks s.log).length).output], rfl, ?_⟩
      simp [check, note, Backend.accepts, hl, hr]
    | false =>
      refine ⟨[.asked (s.scratch.disk.getD ""), .ran ⟨s.invocation.checkArgs s.scratch.path,
        launch.folder, s.scratch.disk.getD ""⟩,
        .shown (host.backend.reply (Event.asks s.log).length).output,
        .reported (BackendError.failed launch.executable s.scratch.path
          (host.backend.reply (Event.asks s.log).length).status).message], rfl, ?_⟩
      simp [check, note, Backend.accepts, hl, hr]

/-- What a line does that leaves the scratch file alone depends neither on the backend nor on
the session, apart from the path of the file. -/
theorem dispatch_of_not_writes (host : Host) (path : String) {line : String}
    (h : (Input.ofLine line).writes = false) :
    ∃ step new, Event.asks new = [] ∧ step.answer? = none ∧
      ∀ (b : Backend) (s : Session), s.scratch.path = path →
        s.dispatch { host with backend := b } line =
          (.ok step, { s with log := s.log ++ new }) := by
  cases hi : Input.ofLine line with
  | source t => simp [hi, Input.writes] at h
  | reset => simp [hi, Input.writes] at h
  | nothing =>
    refine ⟨.skipped, [], rfl, rfl, fun b s _ => ?_⟩
    simp [dispatch, hi]
  | clear =>
    refine ⟨.cleared, [.shown clearScreen], rfl, rfl, fun b s _ => ?_⟩
    simp [dispatch, hi, note]
  | shell command =>
    by_cases he : command.isEmpty = true
    · refine ⟨.shell, [], rfl, rfl, fun b s _ => ?_⟩
      simp [dispatch, hi, he]
    by_cases hn : hasNul command = true
    · refine ⟨.shell, [.reported (command ++ ": " ++ OsError.nulInData.message)], rfl, rfl,
        fun b s _ => ?_⟩
      simp [dispatch, hi, he, hn, note]
    · refine ⟨.shell, [.shown (host.shell command)], rfl, rfl, fun b s _ => ?_⟩
      simp [dispatch, hi, he, hn, note]
  | protocol text =>
    cases he : envelopeOfLine host.folder.path path text with
    | ok e =>
      refine ⟨.echoed e.encode, [.shown (e.encode ++ "\n")], rfl, rfl, fun b s hs => ?_⟩
      simp [dispatch, hi, echo, hs, he, note]
    | error f =>
      cases hn : namesCommand text with
      | true =>
        refine ⟨.echoed text, [.reported f.report, .shown (text ++ "\n")], rfl, rfl,
          fun b s hs => ?_⟩
        simp [dispatch, hi, echo, hs, he, hn, note]
      | false =>
        refine ⟨.echoed text, [.shown (text ++ "\n")], rfl, rfl, fun b s hs => ?_⟩
        simp [dispatch, hi, echo, hs, he, hn, note]

theorem dispatch_source (host : Host) (s : Session) {line text : String}
    (h : Input.ofLine line = .source text) {scratch : Scratch}
    (ha : s.scratch.append text = (.ok (), scratch)) :
    s.dispatch host line =
      (.ok (.checked ({ s with scratch }.check host).1), ({ s with scratch }.check host).2) := by
  simp only [dispatch, h, ha]

theorem dispatch_reset (host : Host) (s : Session) {line : String}
    (h : Input.ofLine line = .reset) {scratch : Scratch}
    (hr : s.scratch.reset = (.ok (), scratch)) :
    s.dispatch host line = (.ok .reset, { s with scratch }) := by
  simp only [dispatch, h, hr]

/-- A line that cannot be written to the scratch file changes nothing. -/
theorem dispatch_of_lost (host : Host) (s : Session) {line : String}
    (h : (Input.ofLine line).writes = true) (hd : s.scratch.disk = none) :
    s.dispatch host line = (.error (.writeScratch s.scratch.path .notFound), s) := by
  cases hi : Input.ofLine line with
  | source t => simp [dispatch, hi, Scratch.append, Scratch.write, hd]
  | reset => simp [dispatch, hi, Scratch.reset, Scratch.write, hd]
  | nothing | protocol t | shell t | clear => simp [hi, Input.writes] at h

/-- The session after some lines of input. -/
def after (host : Host) (s : Session) (lines : List String) : Session :=
  lines.foldl (fun s line => (s.dispatch host line).2) s

/-- What each of some lines of input does. -/
def steps (host : Host) (s : Session) : List String → List (Except SessionError Step)
  | [] => []
  | line :: rest => (s.dispatch host line).1 :: (s.dispatch host line).2.steps host rest

theorem after_cons (host : Host) (s : Session) (line : String) (rest : List String) :
    s.after host (line :: rest) = (s.dispatch host line).2.after host rest := rfl

theorem after_concat (host : Host) (s : Session) (lines : List String) (line : String) :
    s.after host (lines ++ [line]) = ((s.after host lines).dispatch host line).2 := by
  simp [after]

end Session

end AgdaConsole
