import AgdaConsole.Proofs.Session.Run

namespace AgdaConsole

namespace Scratch

/-- What a session does to its scratch file. -/
inductive Edit
  | append (text : String)
  | reset
  | importPrelude (folder prelude : String)
  deriving DecidableEq, Repr

/-- What happens to a scratch file: an edit, or the removal of its folder from outside. -/
inductive Change
  | edit (e : Edit)
  | folderLost
  deriving DecidableEq, Repr

def perform (s : Scratch) : Edit → Except SessionError Unit × Scratch
  | .append text => s.append text
  | .reset => s.reset
  | .importPrelude folder prelude =>
    let (result, s) := s.importPrelude folder prelude
    (result.map fun _ => (), s)

def change (s : Scratch) : Change → Scratch
  | .edit e => (s.perform e).2
  | .folderLost => s.loseFolder

theorem write_of_lost {s : Scratch} (body : String) (hd : s.disk = none) :
    s.write body = (.error (.writeScratch s.path .notFound), s) := by
  simp only [write, hd]

theorem write_of_present {s : Scratch} {old : String} (body : String) (hd : s.disk = some old) :
    s.write body = (.ok (), { s with body, disk := some (render s.header body) }) := by
  simp only [write, hd]

/-- Without its folder an edit fails and changes nothing. -/
theorem perform_of_lost {s : Scratch} (e : Edit) (hd : s.disk = none) :
    s.perform e = (.error (.writeScratch s.path .notFound), s) := by
  cases e with
  | append text => exact write_of_lost _ hd
  | reset => exact write_of_lost _ hd
  | importPrelude folder prelude =>
    have hw : s.append (importLine prelude) = (.error (.writeScratch s.path .notFound), s) :=
      write_of_lost _ hd
    simp only [perform, importPrelude, hw]
    rfl

theorem perform_of_present {s : Scratch} {old : String} (e : Edit) (hd : s.disk = some old) :
    ∃ body, s.perform e = (.ok (), { s with body, disk := some (render s.header body) }) := by
  cases e with
  | append text => exact ⟨_, write_of_present _ hd⟩
  | reset => exact ⟨_, write_of_present _ hd⟩
  | importPrelude folder prelude =>
    obtain ⟨dir, hdir⟩ := Path.exists_absolute?_folderOf folder prelude
    have hw := write_of_present (s.body ++ importLine prelude ++ "\n\n") hd
    refine ⟨s.body ++ importLine prelude ++ "\n\n", ?_⟩
    simp only [perform, importPrelude, append, hw, hdir]
    rfl

/-- After any changes a file is missing when its folder was lost on the way, and is else what is
in memory. -/
theorem disk_foldl_change {s : Scratch} (changes : List Change) (hd : s.disk = some s.contents) :
    let t := changes.foldl change s
    t.path = s.path ∧ t.disk = if .folderLost ∈ changes then none else some t.contents := by
  induction changes using List.reverseRecOn with
  | nil => exact ⟨rfl, hd⟩
  | append_singleton changes c ih =>
    obtain ⟨hpath, hdisk⟩ := ih
    rw [List.foldl_append, List.foldl_cons, List.foldl_nil]
    cases c with
    | folderLost => exact ⟨hpath, by simp [change, loseFolder]⟩
    | edit e =>
      by_cases hl : Change.folderLost ∈ changes
      · rw [if_pos hl] at hdisk
        have he := perform_of_lost e hdisk
        simp only [change, he]
        exact ⟨hpath, by simp [hl, hdisk]⟩
      · rw [if_neg hl] at hdisk
        obtain ⟨body, he⟩ := perform_of_present e hdisk
        simp only [change, he]
        exact ⟨hpath, by simp [hl, contents]⟩

/-- A scratch file after any edits, with its folder removed or not: an edit fails and changes
nothing once the folder is gone, and else it leaves the text in memory on disk. -/
theorem perform_foldl_change (path : String) (changes : List Change) (e : Edit) :
    let s := changes.foldl change (.create path)
    if .folderLost ∈ changes then s.perform e = (.error (.writeScratch path .notFound), s)
    else ∃ s', s.perform e = (.ok (), s') ∧ s'.disk = some s'.contents := by
  intro s
  obtain ⟨hpath, hdisk⟩ := disk_foldl_change changes (s := .create path) rfl
  change s.path = path at hpath
  change s.disk = _ at hdisk
  by_cases hl : Change.folderLost ∈ changes
  · rw [if_pos hl] at hdisk ⊢
    rw [← hpath]
    exact perform_of_lost e hdisk
  · rw [if_neg hl] at hdisk ⊢
    obtain ⟨body, he⟩ := perform_of_present e hdisk
    exact ⟨_, he, rfl⟩

end Scratch

namespace Session

/-- Without the folder of its scratch file a session is left as it was by any line, apart from
what is shown. The backend is not called. -/
theorem dispatch_keeps_lost (host : Host) {s : Session} (line : String)
    (hd : s.scratch.disk = none) :
    ∃ new, Event.asks new = [] ∧ (s.dispatch host line).2 = { s with log := s.log ++ new } := by
  cases hw : (Input.ofLine line).writes with
  | true =>
    refine ⟨[], rfl, ?_⟩
    rw [dispatch_of_lost host s hw hd, List.append_nil]
  | false =>
    obtain ⟨step, new, hnew, -, hdispatch⟩ := dispatch_of_not_writes host s.scratch.path hw
    refine ⟨new, hnew, ?_⟩
    have hs := hdispatch host.backend s rfl
    exact congrArg Prod.snd hs

theorem after_keeps_lost (host : Host) {s : Session} (lines : List String)
    (hd : s.scratch.disk = none) :
    ∃ new, Event.asks new = [] ∧ s.after host lines = { s with log := s.log ++ new } := by
  induction lines using List.reverseRecOn with
  | nil => exact ⟨[], rfl, by rw [List.append_nil]; rfl⟩
  | append_singleton lines line ih =>
    obtain ⟨new, hnew, hafter⟩ := ih
    obtain ⟨more, hmore, hline⟩ :=
      dispatch_keeps_lost host (s := { s with log := s.log ++ new }) line hd
    refine ⟨new ++ more, ?_, ?_⟩
    · rw [Event.asks_append, hnew, hmore]; rfl
    · rw [after_concat, hafter, hline, List.append_assoc]

/-- A session whose scratch file has lost its folder after some lines, and that has had any other
lines since: nothing that it holds has changed since, it has not called the backend, a line that
would write fails, and any other line does what it would with the folder in place. -/
theorem dispatch_since_folder_loss (host : Host) (path : String) (invocation : Invocation)
    (prelude : Option String) (before rest : List String) (line : String) :
    ∃ s₀ : Session, start host (.create path) invocation prelude = (.ok (), s₀) ∧
      let s := s₀.after host before
      let t := { s with scratch := s.scratch.loseFolder }.after host rest
      t.scratch = s.scratch.loseFolder ∧ t.invocation = s.invocation ∧
      Event.asks t.log = Event.asks s.log ∧
      if (Input.ofLine line).writes then
        t.dispatch host line = (.error (.writeScratch path .notFound), t)
      else
        ∃ step new, Event.asks new = [] ∧
          t.dispatch host line = (.ok step, { t with log := t.log ++ new }) ∧
          let u := s.after host rest
          u.dispatch host line = (.ok step, { u with log := u.log ++ new }) := by
  obtain ⟨included, hstart⟩ := start_follows host path invocation prelude
  obtain ⟨s₀, hs₀, h₀⟩ := hstart host.backend
  have hpath : ∀ lines, (s₀.after host lines).scratch.path = path := fun lines =>
    congrArg Scratch.path (h₀.after host lines).scratch
  refine ⟨s₀, hs₀, ?_⟩
  intro s t
  obtain ⟨new, hnew, ht⟩ := after_keeps_lost host
    (s := { s with scratch := s.scratch.loseFolder }) rest rfl
  have htpath : t.scratch.path = path := by
    rw [show t = _ from ht]
    exact hpath before
  refine ⟨?_, ?_, ?_, ?_⟩
  · rw [show t = _ from ht]
  · rw [show t = _ from ht]
  · rw [show t = _ from ht]
    simp [Event.asks_append, hnew]
  · cases hw : (Input.ofLine line).writes with
    | true =>
      have htdisk : t.scratch.disk = none := by
        rw [show t = _ from ht]
        rfl
      rw [if_pos rfl, ← htpath]
      exact dispatch_of_lost host t hw htdisk
    | false =>
      rw [if_neg (by decide)]
      obtain ⟨step, shown, hshown, -, hdispatch⟩ := dispatch_of_not_writes host path hw
      refine ⟨step, shown, hshown, hdispatch host.backend t htpath, ?_⟩
      refine hdispatch host.backend _ ?_
      rw [show s.after host rest = s₀.after host (before ++ rest) from List.foldl_append.symm]
      exact hpath (before ++ rest)

/-- A session whose scratch file has lost its folder after some lines, and that has had any other
lines since. The scratch file, in memory and on disk, and the include paths are as they were when
the folder was lost, and the backend has not been called since. A line that would write fails and
changes nothing. Any other line does and shows what it would with the folder in place.

Likewise a scratch file after any edits, with its folder removed or not: an edit fails once the
folder is gone and then changes nothing, and else it succeeds and leaves the text in memory on
disk. -/
theorem folder_loss_law (host : Host) (path : String) (invocation : Invocation)
    (prelude : Option String) (before rest : List String) (line : String)
    (changes : List Scratch.Change) (e : Scratch.Edit) :
    (∃ s₀ : Session, start host (.create path) invocation prelude = (.ok (), s₀) ∧
      let s := s₀.after host before
      let t := { s with scratch := s.scratch.loseFolder }.after host rest
      t.scratch = s.scratch.loseFolder ∧ t.invocation = s.invocation ∧
      Event.asks t.log = Event.asks s.log ∧
      if (Input.ofLine line).writes then
        t.dispatch host line = (.error (.writeScratch path .notFound), t)
      else
        ∃ step new, Event.asks new = [] ∧
          t.dispatch host line = (.ok step, { t with log := t.log ++ new }) ∧
          let u := s.after host rest
          u.dispatch host line = (.ok step, { u with log := u.log ++ new })) ∧
    let s := changes.foldl Scratch.change (.create path)
    if .folderLost ∈ changes then s.perform e = (.error (.writeScratch path .notFound), s)
    else ∃ s', s.perform e = (.ok (), s') ∧ s'.disk = some s'.contents :=
  ⟨dispatch_since_folder_loss host path invocation prelude before rest line,
    Scratch.perform_foldl_change path changes e⟩

end Session

end AgdaConsole
