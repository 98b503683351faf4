import AgdaConsole.Installation
import AgdaConsole.Proofs.Program

namespace AgdaConsole

namespace Setting

def prelude? : Setting → Option String
  | .prelude p => some p
  | _ => none

theorem last?_cons {α : Type} (pick : Setting → Option α) (x : Setting) (settings : List Setting) :
    last? pick (x :: settings) = (last? pick settings).or (pick x) := by
  unfold last?
  cases h : pick x with
  | none => rw [List.filterMap_cons_none h, Option.or_none]
  | some a =>
    rw [List.filterMap_cons_some h, List.getLast?_cons]
    cases (settings.filterMap pick).getLast? with
    | none => rfl
    | some _ => rfl

end Setting

namespace Config

/-- A value that each setting of its kind replaces is in the end that of the last one. -/
theorem apply_eq_or {α : Type} (value : Config → Option α) (pick : Setting → Option α)
    (hset : ∀ c x, value (set c x) = (pick x).or (value c)) (c : Config)
    (settings : List Setting) :
    value (c.apply settings) = (Setting.last? pick settings).or (value c) := by
  unfold apply
  induction settings generalizing c with
  | nil => rfl
  | cons x settings ih => rw [List.foldl_cons, ih, hset, Setting.last?_cons, Option.or_assoc]

theorem executable_apply (c : Config) (settings : List Setting) :
    (c.apply settings).backend.executable =
      (Setting.last? Setting.agda? settings).getD c.backend.executable := by
  have h := apply_eq_or (fun c => some c.backend.executable) Setting.agda?
    (fun _ x => by cases x <;> rfl) c settings
  rwa [Option.or_some, Option.some_inj] at h

theorem prelude_apply (c : Config) (settings : List Setting) :
    (c.apply settings).repl.prelude =
      (Setting.last? Setting.prelude? settings).or c.repl.prelude :=
  apply_eq_or (fun c => c.repl.prelude) Setting.prelude? (fun _ x => by cases x <;> rfl) c settings

theorem validate_eq_ok_iff (c : Config) : c.validate = .ok () ↔ c.backend.executable ≠ "" ∧
    ∀ p, c.repl.prelude = some p → ModuleName.hasSuffix (Path.fileName p) = true := by
  unfold validate
  split
  next h =>
    refine iff_of_false (by simp) fun hv => hv.1 ?_
    exact String.isEmpty_iff.mp h
  next h =>
    have hne : c.backend.executable ≠ "" := fun he => h (String.isEmpty_iff.mpr he)
    rw [and_iff_right hne]
    split
    next hp => exact iff_of_true rfl fun p hq => absurd (hp.symm.trans hq) (by simp)
    next p hp =>
      rw [hp]
      split
      next hs => exact iff_of_true rfl fun q hq => Option.some.inj hq ▸ hs
      next hs => exact iff_of_false (by simp) fun hv => hs (hv p rfl)

end Config

/-- The console never fails for its configuration. -/
theorem Console.result_run_ne (host : Host) (config : Config) (d : Disk) (input : String)
    (e : ConfigError) : (run host config d input).result ≠ .error (.config e) := by
  have hsession : ∀ r : Except SessionError Unit,
      r.mapError ProgramError.session ≠ .error (.config e) := by
    rintro (_ | _) h
    · exact ProgramError.noConfusion (Except.error.inj h)
    · nomatch h
  unfold run
  dsimp only
  split
  · exact hsession (.error _)
  · split
    · exact hsession (.error _)
    · exact hsession _

/-- What fails for the configuration is no run of the console. -/
theorem Console.ne_run_of_config {o : Outcome} {e : ConfigError}
    (ho : o.result = .error (.config e)) (host : Host) (config : Config) (d : Disk)
    (input : String) : o ≠ run host config d input := by
  rintro rfl
  exact result_run_ne host config d input e ho

namespace Config

/-- The configuration that a file describes must be of use as it stands, and must still be of use
with the settings of the console, which win. Exactly then the program gets to the console. The
first fault that is found ends it before it has done anything: nothing is run, the disk with the
history on it is as it was, and no scratch file is made. Only the console makes one, and it never
ends like this, on whatever machine and with whatever configuration it is run. -/
theorem validity_law {host : Host} {d : Disk} {standard : String} {words : List String}
    {request : Request} {settings : List Setting} {t : String} {c : Config}
    (hwords : Request.ofWords words = .ok request) (htask : request.task = .repl settings)
    (hfile : d.find host.folder (request.config.getD standard) = .ok (.text t))
    (hc : ofText? t = some c) (input : String) :
    let effective := c.apply settings
    let o := Program.run host d standard words input
    ((∀ e, o.result ≠ .error (.config e)) ↔
      c.validate = .ok () ∧ effective.validate = .ok ()) ∧
    (c.validate = .ok () → effective.validate = .ok () →
      o = Console.run host effective d input) ∧
    (∀ fault, c.validate = .error fault ∨
        c.validate = .ok () ∧ effective.validate = .error fault →
      o = ⟨[], d, .error (.config (.useless fault))⟩ ∧
        ∀ host' config d' input', o ≠ Console.run host' config d' input') ∧
    (effective.validate = .ok () ↔
      (Setting.last? Setting.agda? settings).getD c.backend.executable ≠ "" ∧
      ∀ p, (Setting.last? Setting.prelude? settings).or c.repl.prelude = some p →
        ModuleName.hasSuffix (Path.fileName p) = true) := by
  intro effective o
  have hrun := Program.run_of_text hwords htask hfile hc input
  have huseful (hfirst : c.validate = .ok ()) (hsecond : effective.validate = .ok ()) :
      o = Console.run host effective d input := by
    rwa [hfirst, hsecond] at hrun
  have huseless (fault : ConfigFault) (h : c.validate = .error fault ∨
      c.validate = .ok () ∧ effective.validate = .error fault) :
      o = ⟨[], d, .error (.config (.useless fault))⟩ := by
    rcases h with hfirst | ⟨hfirst, hsecond⟩
    · rwa [hfirst] at hrun
    · rwa [hfirst, hsecond] at hrun
  have hvalid := validate_eq_ok_iff effective
  rw [executable_apply, prelude_apply] at hvalid
  refine ⟨⟨fun h => ?_, fun h e => ?_⟩, huseful, fun fault h => ?_, hvalid⟩
  · cases hfirst : c.validate with
    | error fault =>
      exact absurd (congrArg Outcome.result (huseless fault (.inl hfirst))) (h _)
    | ok _ =>
      cases hsecond : effective.validate with
      | error fault =>
        exact absurd (congrArg Outcome.result (huseless fault (.inr ⟨hfirst, hsecond⟩))) (h _)
      | ok _ => exact ⟨rfl, rfl⟩
  · rw [huseful h.1 h.2]
    exact Console.result_run_ne host effective d input e
  · have ho := huseless fault h
    exact ⟨ho, Console.ne_run_of_config (congrArg Outcome.result ho)⟩

theorem validity_law_prelude :
    let i : Installation := ⟨⟨[(["w"], .folder), (["s"], .folder)]⟩, ["w"], ["bin", "agda"]⟩
    let backend := i.backend fun _ => ⟨"", .ofCode 0, true⟩
    let host : Host := ⟨["w"], "/h", "/s/A.agda", backend, fun _ => ""⟩
    let d : Disk := ⟨[(["c"], .text "[repl]\nprelude = \"P.agda\"\n")]⟩
    let c : Config := { repl := { prelude := some "P.agda" } }
    let words := ["repl", "--prelude=Q.agda"]
    let settings : List Setting := [.prelude "Q.agda"]
    Request.ofWords words = .ok ⟨none, 0, .repl settings⟩ ∧
      d.find host.folder "/c" = .ok (.text "[repl]\nprelude = \"P.agda\"\n") ∧
      ofText? "[repl]\nprelude = \"P.agda\"\n" = some c ∧
      (∀ e, (Program.run host d "/c" words "").result ≠ .error (.config e)) ∧
      Program.run host d "/c" words "" = Console.run host (c.apply settings) d "" := by
  intro i backend host d c words settings
  have hwords : Request.ofWords words = .ok ⟨none, 0, .repl settings⟩ := by rfl
  have hfile : d.find host.folder "/c" =
      .ok (.text "[repl]\nprelude = \"P.agda\"\n") := by rfl
  have hc : ofText? "[repl]\nprelude = \"P.agda\"\n" = some c := by decide +kernel
  have hfirst : c.validate = .ok () := by rfl
  have hsecond : (c.apply settings).validate = .ok () := by rfl
  obtain ⟨hgets, hruns, -⟩ := validity_law hwords rfl hfile hc ""
  exact ⟨hwords, hfile, hc, hgets.mpr ⟨hfirst, hsecond⟩, hruns hfirst hsecond⟩

/-- A setting cannot make up for what the file lacks. -/
theorem executable_not_repaired :
    let i : Installation := ⟨⟨[(["w"], .folder), (["s"], .folder)]⟩, ["w"], ["bin", "agda"]⟩
    let backend := i.backend fun _ => ⟨"", .ofCode 0, true⟩
    let host : Host := ⟨["w"], "/h", "/s/A.agda", backend, fun _ => ""⟩
    let d : Disk := ⟨[(["c"], .text "[backend]\nexecutable = \"\"\n")]⟩
    let c : Config := { backend := { executable := "" } }
    let words := ["repl", "--agda=agda"]
    let settings : List Setting := [.agda "agda"]
    Request.ofWords words = .ok ⟨none, 0, .repl settings⟩ ∧
      d.find host.folder "/c" = .ok (.text "[backend]\nexecutable = \"\"\n") ∧
      ofText? "[backend]\nexecutable = \"\"\n" = some c ∧
      (c.apply settings).validate = .ok () ∧
      Program.run host d "/c" words "" = ⟨[], d, .error (.config (.useless .noExecutable))⟩ := by
  intro i backend host d c words settings
  have hwords : Request.ofWords words = .ok ⟨none, 0, .repl settings⟩ := by rfl
  have hfile : d.find host.folder "/c" =
      .ok (.text "[backend]\nexecutable = \"\"\n") := by rfl
  have hc : ofText? "[backend]\nexecutable = \"\"\n" = some c := by decide +kernel
  have hprepare : Program.prepare host d "/c" words = .error (.config (.useless .noExecutable)) :=
    (Program.prepare_of_text hwords hfile hc).trans rfl
  exact ⟨hwords, hfile, hc, rfl, Program.run_of_error hprepare ""⟩

end Config

end AgdaConsole
