import AgdaConsole.Proofs.Session.Run
import AgdaConsole.Proofs.Session.Runs

namespace AgdaConsole.Session

/-- A session with one invocation of the backend on one scratch file, which has started the backend
for every run in its log. -/
structure Launched (host : Host) (path : String) (invocation : Invocation) (s : Session) :
    Prop where
  folders : ∀ r ∈ Event.runs s.log, ∃ n launch, host.backend.start n invocation = .ok launch ∧
    r.folder = launch.folder
  path : s.scratch.path = path
  invocation : s.invocation = invocation

namespace Launched

variable {host : Host} {path : String} {invocation : Invocation} {s : Session}

theorem of_fresh (host : Host) (scratch : Scratch) (invocation : Invocation) :
    Launched host scratch.path invocation ⟨scratch, invocation, []⟩ :=
  ⟨fun _ hr => absurd hr List.not_mem_nil, rfl, rfl⟩

theorem note (h : s.Launched host path invocation) {e : Event} (hr : e.run? = none) :
    (s.note e).Launched host path invocation := by
  refine ⟨fun r hm => h.folders r ?_, h.path, h.invocation⟩
  rw [Session.note, Event.runs_concat, hr] at hm
  simpa using hm

theorem write (h : s.Launched host path invocation) (body : String) :
    Launched host path invocation { s with scratch := (s.scratch.write body).2 } :=
  ⟨h.folders, (s.scratch.path_write body).trans h.path, h.invocation⟩

theorem ran (h : s.Launched host path invocation) {n : Nat} {launch : Launch}
    (hl : host.backend.start n invocation = .ok launch) (args : List String) (text : String) :
    (s.note (.ran ⟨args, launch.folder, text⟩)).Launched host path invocation := by
  refine ⟨fun r hm => ?_, h.path, h.invocation⟩
  rw [Session.note, Event.runs_concat] at hm
  rcases List.mem_append.mp hm with hm | hm
  · exact h.folders r hm
  · rw [List.mem_singleton.mp hm]
    exact ⟨n, launch, hl, rfl⟩

theorem check (h : s.Launched host path invocation) :
    (s.check host).2.Launched host path invocation := by
  have hasked := h.note (e := .asked (s.scratch.disk.getD "")) rfl
  obtain rfl := h.invocation
  unfold Session.check
  dsimp only
  split
  · exact hasked.note rfl
  · next launch hl =>
    have hran := hasked.ran hl (s.invocation.checkArgs s.scratch.path) (s.scratch.disk.getD "")
    have hshown := hran.note
      (e := .shown (host.backend.reply (Event.asks s.log).length).output) rfl
    split
    · exact hshown
    · exact hshown.note rfl

theorem kept (host : Host) (path : String) (invocation : Invocation) :
    Kept host (Launched host path invocation) :=
  ⟨fun h hr _ => h.note hr, fun body h => h.write body, fun h => h.check⟩

end Launched

/-- The folder that a prelude adds to those that are searched. -/
def preludeFolder (host : Host) (prelude : Option String) : Option String :=
  prelude.bind fun p => Path.absolute? host.folder.path (Path.folderOf p)

/-- A prelude adds its folder to those that are searched, and changes nothing else of how the
backend is started. -/
theorem start_launched (host : Host) (path : String) (invocation : Invocation)
    (prelude : Option String) : ∃ s included,
      start host (.create path) invocation prelude = (.ok (), s) ∧
        s.Launched host path included ∧ included.workingDir = invocation.workingDir ∧
        included.includes =
          (preludeFolder host prelude).toList.foldl addPath invocation.includes := by
  cases prelude with
  | none =>
    have hfresh := Launched.of_fresh host (.create path) invocation
    exact ⟨_, invocation, rfl, hfresh.check, rfl, rfl⟩
  | some p =>
    obtain ⟨dir, hdir⟩ := Path.exists_absolute?_folderOf host.folder.path p
    have himport := importPrelude_create path _ p dir hdir
    have hfolder : preludeFolder host (some p) = some dir := hdir
    have hfresh := Launched.of_fresh host (.holding path (bodyAfter (some p) []))
      (invocation.addInclude dir)
    refine ⟨_, invocation.addInclude dir, ?_, hfresh.check, rfl, ?_⟩
    · simp only [start, himport]
    · rw [hfolder]
      rfl

end AgdaConsole.Session
