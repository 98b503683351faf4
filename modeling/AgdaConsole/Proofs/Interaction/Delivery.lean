import AgdaConsole.Program
import AgdaConsole.Proofs.CommandLine.Line
import AgdaConsole.Proofs.Wire.Decodable

namespace AgdaConsole

namespace Envelope

/-- What the line of an envelope gives back: the file and the command. -/
def content (e : Envelope) : String × Command := (e.file, e.command.collapse)

theorem newline_not_mem_wire (e : Envelope) : '\n' ∉ e.wire := by
  intro hn
  exact absurd (Text.Clean.envelope e _ hn) (by decide)

theorem file_of_mem_loadedFirst {e x : Envelope} (hx : x ∈ e.loadedFirst) : x.file = e.file := by
  unfold loadedFirst at hx
  split at hx
  · rw [List.mem_singleton.mp hx]
  · rcases List.mem_cons.mp hx with rfl | hx
    · rfl
    · rw [List.mem_singleton.mp hx]

theorem getLast?_loadedFirst (e : Envelope) : e.loadedFirst.getLast? = some e := by
  unfold loadedFirst
  split
  · rfl
  · rfl

/-- The file of an envelope can be loaded, and it is loaded before anything else is done to it. -/
theorem exists_loadedFirst (e : Envelope) : ∃ load,
    make e.file (.choose .load { options := [] }) = .ok load ∧
      load.file = e.file ∧ load.command = .choose .load { options := [] } ∧
      e.loadedFirst = if e.command.verb = .load then [e] else [load, e] := by
  have hmet : loadCommand.isMet = true := rfl
  have hmake := make_eq ⟨e.file, loadCommand, e.file_named, hmet⟩
  exact ⟨_, hmake, rfl, rfl, rfl⟩

end Envelope

namespace Interaction

/-- The lines that newlines end in a text, and what follows the last newline. -/
def cutLines (text : String) : List String × String :=
  let ps := (Text.pieces '\n' text.toList).map String.ofList
  (ps.dropLast, ps.getLastD "")

theorem pieces_input (es : List Envelope) :
    Text.pieces '\n' (input es).toList = es.map Envelope.wire ++ [[]] := by
  induction es with
  | nil => rfl
  | cons e rest ih =>
    have hline : (input (e :: rest)).toList = e.wire ++ '\n' :: (input rest).toList := by
      simp [input, Envelope.toList_encode]
    rw [hline, Text.pieces_append_cons e.newline_not_mem_wire, ih]
    rfl

theorem cutLines_input (es : List Envelope) :
    cutLines (input es) = (es.map Envelope.encode, "") := by
  have hencode : (es.map Envelope.wire).map String.ofList = es.map Envelope.encode :=
    List.map_map
  unfold cutLines
  rw [pieces_input, List.map_append, hencode]
  simp

theorem map_decode_encode (es : List Envelope) :
    (es.map Envelope.encode).map Envelope.decode = es.map fun e => some e.content := by
  rw [List.map_map]
  exact List.map_congr_left fun e _ => Envelope.decode_encode e

/-- The backend starts and takes all that it is sent. -/
def Delivers (host : Host) (invocation : Invocation) : Prop :=
  (∃ launch, host.backend.start 0 invocation = .ok launch) ∧
    (host.backend.reply 0).takesInput = true

theorem send_of_delivers {host : Host} {invocation : Invocation} (h : Delivers host invocation)
    (es : List Envelope) : ∃ r : Run, r.args = invocation.interactionArgs ∧ r.input = input es ∧
      send host invocation es =
        ([.ran r, .shown (host.backend.reply 0).output], .ok (host.backend.reply 0).status) := by
  obtain ⟨⟨launch, hstart⟩, htakes⟩ := h
  refine ⟨⟨invocation.interactionArgs, launch.folder, input es⟩, rfl, rfl, ?_⟩
  simp only [send, hstart, htakes, if_true]

theorem run_of_delivers {host : Host} {config : Config} {outer inner : List Setting} {verb : Verb}
    {e : Envelope} (he : envelope host outer verb inner = .ok e) (hexec : .exec ∈ outer ++ inner)
    (h : Delivers host (invocation host config (outer ++ inner))) :
    ∃ r : Run, r.args = (invocation host config (outer ++ inner)).interactionArgs ∧
      r.input = input e.loadedFirst ∧ (run host config outer verb inner).1 =
        [.shown (e.encode ++ "\n"), .ran r, .shown (host.backend.reply 0).output] := by
  obtain ⟨r, hargs, hinput, hsend⟩ := send_of_delivers h e.loadedFirst
  have hasked : (outer ++ inner).contains .exec = true := List.contains_iff_mem.mpr hexec
  refine ⟨r, hargs, hinput, ?_⟩
  simp only [run, he, hasked, hsend, if_true]

/-- An envelope is sent after one that loads its file, or alone if it loads the file itself, and
the one that loads can always be made. Where all of some envelopes is taken, the lines that are
taken are theirs in their order, with nothing before, between or after, and they read back as
these envelopes. So where the program sends a command, the last line is the one that is shown, and
all lines name the same file. -/
theorem delivery_law (host : Host) :
    (∀ e : Envelope, ∃ load, Envelope.make e.file (.choose .load { options := [] }) = .ok load ∧
      load.file = e.file ∧ load.command = .choose .load { options := [] } ∧
      e.loadedFirst = if e.command.verb = .load then [e] else [load, e]) ∧
    (∀ (invocation : Invocation) (es : List Envelope), Delivers host invocation →
      ∃ r : Run, r.args = invocation.interactionArgs ∧
        send host invocation es = ([.ran r, .shown (host.backend.reply 0).output],
          .ok (host.backend.reply 0).status) ∧
        cutLines r.input = (es.map Envelope.encode, "") ∧
        (cutLines r.input).1.map Envelope.decode = es.map fun e => some e.content) ∧
    ∀ (d : Disk) (standard : String) (words : List String) (text : String) (request : Request)
      (config : Config) (outer inner : List Setting) (verb : Verb) (e : Envelope),
      Program.prepare host d standard words = .ok (request, config) →
      request.task = .agda outer verb inner → .exec ∈ outer ++ inner →
      envelope host outer verb inner = .ok e →
      Delivers host (invocation host config (outer ++ inner)) →
      ∃ r : Run, (Program.run host d standard words text).log =
          [.shown (e.encode ++ "\n"), .ran r, .shown (host.backend.reply 0).output] ∧
        cutLines r.input = (e.loadedFirst.map Envelope.encode, "") ∧
        (cutLines r.input).1.getLast? = some e.encode ∧
        ∀ line ∈ (cutLines r.input).1, ∃ c, Envelope.decode line = some (e.file, c) := by
  refine ⟨Envelope.exists_loadedFirst, fun invocation es h => ?_, ?_⟩
  · obtain ⟨r, hargs, hinput, hsend⟩ := send_of_delivers h es
    have hlines : cutLines r.input = (es.map Envelope.encode, "") := by
      rw [hinput]
      exact cutLines_input es
    refine ⟨r, hargs, hsend, hlines, ?_⟩
    rw [hlines]
    exact map_decode_encode es
  · intro d standard words text request config outer inner verb e hprepare htask hexec he h
    obtain ⟨r, -, hinput, hlog⟩ := run_of_delivers he hexec h
    have hlines : cutLines r.input = (e.loadedFirst.map Envelope.encode, "") := by
      rw [hinput]
      exact cutLines_input e.loadedFirst
    refine ⟨r, ?_, hlines, ?_, ?_⟩
    · simp only [Program.run, hprepare, Program.perform, htask]
      exact hlog
    · rw [hlines, List.getLast?_map, e.getLast?_loadedFirst]
      rfl
    · rw [hlines]
      intro line hline
      obtain ⟨x, hx, rfl⟩ := List.mem_map.mp hline
      refine ⟨x.command.collapse, ?_⟩
      rw [Envelope.decode_encode, Envelope.file_of_mem_loadedFirst hx]

theorem delivery_law_metas :
    let reply : Reply := ⟨"", ⟨0⟩, true⟩
    let backend : Backend := { launch := fun _ => .ok ⟨"/bin/agda", "/w"⟩, reply := fun _ => reply }
    let host : Host := ⟨["w"], "/h", "/s/A.agda", backend, fun _ => ""⟩
    let words := ["agda", "metas", "--exec", "--file=A"]
    let outer : List Setting := []
    let inner : List Setting := [.exec, .file "A"]
    let e : Envelope := ⟨"A", .choose .metas {}, by decide, by decide⟩
    let load := "IOTCM \"A\" NonInteractive Indirect (Cmd_load \"A\" [])"
    let metas := "IOTCM \"A\" NonInteractive Indirect (Cmd_metas)"
    Program.prepare host ⟨[]⟩ "/c" words = .ok (⟨none, 0, .agda outer .metas inner⟩, {}) ∧
      .exec ∈ outer ++ inner ∧ envelope host outer .metas inner = .ok e ∧
      Delivers host (invocation host {} (outer ++ inner)) ∧
      ∃ r : Run, (Program.run host ⟨[]⟩ "/c" words "").log =
          [.shown (metas ++ "\n"), .ran r, .shown ""] ∧
        cutLines r.input = ([load, metas], "") := by
  intro reply backend host words outer inner e load metas
  have hprepare : Program.prepare host ⟨[]⟩ "/c" words =
      .ok (⟨none, 0, .agda outer .metas inner⟩, {}) := by rfl
  have hexec : .exec ∈ outer ++ inner := by decide
  have he : envelope host outer .metas inner = .ok e := by rfl
  have hd : Delivers host (invocation host {} (outer ++ inner)) := ⟨⟨_, rfl⟩, rfl⟩
  have hmetas : e.encode = metas := by decide
  have hload : e.loadedFirst.map Envelope.encode = [load, metas] := by decide
  obtain ⟨r, hlog, hlines, -⟩ := (delivery_law host).2.2 ⟨[]⟩ "/c" words "" _ _ outer inner .metas e
    hprepare rfl hexec he hd
  rw [hmetas] at hlog
  rw [hload] at hlines
  exact ⟨hprepare, hexec, he, hd, r, hlog, hlines⟩

end Interaction

end AgdaConsole
