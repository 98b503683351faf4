import AgdaConsole.Proofs.Session.Step
import Mathlib.Data.List.Induction

namespace AgdaConsole.Session

/-- What holds of a session stays when the scratch file is written, when the backend is called, and
when anything is noted that is neither a call nor a run. -/
structure Kept (host : Host) (P : Session → Prop) : Prop where
  note : ∀ {s : Session} {e : Event}, P s → e.run? = none → e.asked? = none → P (s.note e)
  write : ∀ {s : Session} (body : String), P s → P { s with scratch := (s.scratch.write body).2 }
  check : ∀ {s : Session}, P s → P (s.check host).2

namespace Kept

variable {host : Host} {P : Session → Prop} {s : Session}

theorem of_write (hk : Kept host P) (h : P s) {body : String} {result : Except SessionError Unit}
    {scratch : Scratch} (hw : s.scratch.write body = (result, scratch)) :
    P { s with scratch } := by
  have hscratch : scratch = (s.scratch.write body).2 := (congrArg Prod.snd hw).symm
  rw [hscratch]
  exact hk.write body h

theorem dispatch (hk : Kept host P) (h : P s) (line : String) :
    P (s.dispatch host line).2 := by
  unfold Session.dispatch
  split
  · exact h
  · next text _ =>
    dsimp only
    cases (s.echo host text).2 with
    | none => exact hk.note h rfl rfl
    | some m => exact hk.note (hk.note (e := .reported m) h rfl rfl) rfl rfl
  · dsimp only
    split
    · exact h
    · split
      · exact hk.note h rfl rfl
      · exact hk.note h rfl rfl
  · exact hk.note h rfl rfl
  · split
    · next hw => exact hk.of_write h hw
    · next hw => exact hk.of_write h hw
  · split
    · next hw => exact hk.of_write h hw
    · next hw => exact hk.check (hk.of_write h hw)

theorem after (hk : Kept host P) (h : P s) (lines : List String) : P (s.after host lines) := by
  induction lines using List.reverseRecOn with
  | nil => exact h
  | append_singleton lines line ih =>
    rw [after_concat]
    exact hk.dispatch ih line

end Kept

end AgdaConsole.Session
