import AgdaConsole.Program

namespace AgdaConsole.Program

variable {host : Host} {d : Disk} {standard : String} {words : List String} {request : Request}
  {c : Config}

/-- A configuration that a file describes is used if it is valid. -/
theorem prepare_of_text {t : String} (hwords : Request.ofWords words = .ok request)
    (hfile : d.find host.folder (request.config.getD standard) = .ok (.text t))
    (hc : Config.ofText? t = some c) :
    prepare host d standard words = match c.validate with
      | .error fault => .error (.config (.useless fault))
      | .ok _ => .ok (request, c) := by
  simp only [prepare, hwords, Config.load, hfile, hc]
  cases c.validate with
  | error fault => rfl
  | ok _ => rfl

theorem run_of_error {e : ProgramError} (h : prepare host d standard words = .error e)
    (input : String) : run host d standard words input = ⟨[], d, .error e⟩ := by
  simp only [run, h]

theorem run_of_agda {outer inner : List Setting} {verb : Verb}
    (hprepare : prepare host d standard words = .ok (request, c))
    (htask : request.task = .agda outer verb inner) (input : String) :
    run host d standard words input = ⟨(Interaction.run host c outer verb inner).1, d,
      (Interaction.run host c outer verb inner).2⟩ := by
  simp only [run, hprepare, perform, htask]

/-- The console is run if the configuration is valid with the settings, too. -/
theorem run_of_repl {settings : List Setting}
    (hprepare : prepare host d standard words = .ok (request, c))
    (htask : request.task = .repl settings) (input : String) :
    run host d standard words input = match (c.apply settings).validate with
      | .error fault => ⟨[], d, .error (.config (.useless fault))⟩
      | .ok _ => Console.run host (c.apply settings) d input := by
  simp only [run, hprepare, perform, htask, configure]
  cases (c.apply settings).validate with
  | error fault => rfl
  | ok _ => rfl

/-- The console is run if the configuration that a file describes is valid, by itself and with the
settings. Else the program ends with the first fault. -/
theorem run_of_text {settings : List Setting} {t : String}
    (hwords : Request.ofWords words = .ok request) (htask : request.task = .repl settings)
    (hfile : d.find host.folder (request.config.getD standard) = .ok (.text t))
    (hc : Config.ofText? t = some c) (input : String) :
    run host d standard words input = match c.validate with
      | .error fault => ⟨[], d, .error (.config (.useless fault))⟩
      | .ok _ => match (c.apply settings).validate with
        | .error fault => ⟨[], d, .error (.config (.useless fault))⟩
        | .ok _ => Console.run host (c.apply settings) d input := by
  have hprepare := prepare_of_text hwords hfile hc
  cases hvalid : c.validate with
  | error fault =>
    rw [hvalid] at hprepare
    exact run_of_error hprepare input
  | ok _ =>
    rw [hvalid] at hprepare
    exact run_of_repl hprepare htask input

end AgdaConsole.Program
