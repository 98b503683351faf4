import AgdaConsole.Config
import AgdaConsole.Installation
import AgdaConsole.Proofs.Path.Absolute
import AgdaConsole.Session

namespace AgdaConsole

theorem Invocation.workingDir_addIncludes (i : Invocation) (paths : List String) :
    (i.addIncludes paths).workingDir = i.workingDir := by
  unfold addIncludes
  induction paths generalizing i with
  | nil => rfl
  | cons p paths ih => exact ih (i.addInclude p)

theorem Config.workingDir_invocation (c : Config) (folder : String) :
    (c.invocation folder).workingDir = c.backend.workingDir.getD folder :=
  Invocation.workingDir_addIncludes _ c.backend.includes

namespace Installation

variable {i : Installation}

theorem enter_named (hf : i.folder.Named) {path : String} {p : Place} (h : i.enter path = .ok p) :
    p.Named := by
  unfold enter at h
  split at h
  · exact absurd h (by simp)
  next q hq =>
    split at h
    · exact Except.ok.inj h ▸ Disk.locate_named hf hq
    · exact absurd h (by simp)
    · exact absurd h (by simp)

/-- The path of a place leads to that place if it can be entered. -/
theorem eq_of_enter_path {p q : Place} (hp : p.Named) (h : i.enter p.path = .ok q) : q = p := by
  unfold enter at h
  split at h
  · exact absurd h (by simp)
  next hq =>
    split at h
    · exact Except.ok.inj h ▸ Disk.eq_of_locate_path hp hq
    · exact absurd h (by simp)
    · exact absurd h (by simp)

theorem exists_enter_of_launch {invocation : Invocation} {launch : Launch}
    (h : i.launch invocation = .ok launch) :
    ∃ place, i.enter invocation.workingDir = .ok place ∧ launch.folder = place.path := by
  unfold Installation.launch at h
  split at h
  · exact absurd h (by simp)
  · split at h
    · exact absurd h (by simp)
    · split at h
      · exact absurd h (by simp)
      next place hplace => exact ⟨place, hplace, congrArg Launch.folder (Except.ok.inj h).symm⟩

/-- The backend of a machine is a program on a disk, and the user of the machine starts it. -/
structure Serves (i : Installation) (host : Host) : Prop where
  launch : host.backend.launch = i.launch
  folder : i.folder = host.folder
  named : host.folder.Named

/-- The backend runs in the folder that the working directory of the invocation leads to. -/
theorem Serves.exists_place {host : Host} (h : i.Serves host) {n : Nat} {invocation : Invocation}
    {launch : Launch} (hs : host.backend.start n invocation = .ok launch) :
    ∃ place, i.enter invocation.workingDir = .ok place ∧ place.Named ∧
      launch.folder = place.path := by
  have hlaunch : i.launch invocation = .ok launch := by
    unfold Backend.start at hs
    cases hfail : host.backend.failure n with
    | some e => exact absurd (hfail ▸ hs) (by simp)
    | none => rwa [hfail, Option.elim_none, h.launch] at hs
  obtain ⟨place, hplace, hfolder⟩ := exists_enter_of_launch hlaunch
  exact ⟨place, hplace, enter_named (h.folder ▸ h.named) hplace, hfolder⟩

end Installation

end AgdaConsole
