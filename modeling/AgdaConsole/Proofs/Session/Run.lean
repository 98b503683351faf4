import AgdaConsole.Proofs.Path.Folder
import AgdaConsole.Proofs.Session.Step
import Mathlib.Data.List.DropRight
import Mathlib.Data.List.Infix

namespace AgdaConsole

theorem Input.eq_trimmed_of_source {line text : String} (h : Input.ofLine line = .source text) :
    text = trimmed line := by
  unfold Input.ofLine at h
  split at h
  · simp at h
  · simp at h
  · simp at h
  · split at h
    · simp at h
    · split at h
      · simp at h
      · exact (Input.source.inj h).symm

/-- The scratch file at a path that holds a body, in memory and on disk. -/
def Scratch.holding (path body : String) : Scratch :=
  let header := (Scratch.create path).header
  ⟨path, header, body, some (render header body)⟩

namespace Session

def isSource (line : String) : Bool :=
  match Input.ofLine line with
  | .source _ => true
  | _ => false

def isReset (line : String) : Bool := Input.ofLine line == .reset

/-- What a line of source adds to the scratch file. -/
def fragment (line : String) : String := trimmed line ++ "\n\n"

/-- What the import of a prelude adds to the scratch file. -/
def preamble (prelude : Option String) : String :=
  prelude.elim "" fun p => Scratch.importLine p ++ "\n\n"

/-- The lines after the last one that starts the scratch file over. -/
def sinceReset (lines : List String) : List String := lines.rtakeWhile fun l => !isReset l

/-- The body of the scratch file after some lines: what the lines of source add since the file
was started over, and the import of the prelude in front as long as it was not. -/
def bodyAfter (prelude : Option String) (lines : List String) : String :=
  (if lines.any isReset then "" else preamble prelude) ++
    String.join (((sinceReset lines).filter isSource).map fragment)

/-- The text of the scratch file after some lines. -/
def textAfter (path : String) (prelude : Option String) (lines : List String) : String :=
  (Scratch.create path).header ++ "\n\n" ++ bodyAfter prelude lines

/-- The texts that the backend is called on: the one at the start, and the one after each line
of source. -/
def callsAfter (path : String) (prelude : Option String) (lines : List String) : List String :=
  (lines.inits.filter fun before => before.getLast?.all isSource).map (textAfter path prelude)

theorem bodyAfter_concat_source (prelude : Option String) (lines : List String) {line : String}
    (hs : isSource line = true) (hr : isReset line = false) :
    bodyAfter prelude (lines ++ [line]) = bodyAfter prelude lines ++ fragment line := by
  simp [bodyAfter, sinceReset, hs, hr, String.append_assoc]

theorem bodyAfter_concat_reset (prelude : Option String) (lines : List String) {line : String}
    (hr : isReset line = true) : bodyAfter prelude (lines ++ [line]) = "" := by
  simp [bodyAfter, sinceReset, hr]

theorem bodyAfter_concat_other (prelude : Option String) (lines : List String) {line : String}
    (hs : isSource line = false) (hr : isReset line = false) :
    bodyAfter prelude (lines ++ [line]) = bodyAfter prelude lines := by
  simp [bodyAfter, sinceReset, hs, hr]

theorem callsAfter_concat (path : String) (prelude : Option String) (lines : List String)
    (line : String) : callsAfter path prelude (lines ++ [line]) =
      callsAfter path prelude lines ++
        if isSource line then [textAfter path prelude (lines ++ [line])] else [] := by
  cases hs : isSource line <;> simp [callsAfter, List.inits_append, hs]

theorem length_callsAfter (path : String) (prelude : Option String) (lines : List String) :
    (callsAfter path prelude lines).length = lines.countP isSource + 1 := by
  induction lines using List.reverseRecOn with
  | nil => rfl
  | append_singleton lines line ih =>
    rw [callsAfter_concat, List.length_append, ih, List.countP_append]
    cases hs : isSource line <;> simp [hs]

theorem isReset_of_isSource {line : String} (h : isSource line = true) : isReset line = false := by
  unfold isSource at h
  split at h
  · next hi => simp [isReset, hi]
  · simp at h

theorem callsAfter_prefix (path : String) (prelude : Option String) {before lines : List String}
    (h : before <+: lines) : callsAfter path prelude before <+: callsAfter path prelude lines := by
  obtain ⟨rest, rfl⟩ := h
  rw [callsAfter, callsAfter, List.inits_append, List.filter_append, List.map_append]
  exact List.prefix_append _ _

theorem head?_callsAfter (path : String) (prelude : Option String) (lines : List String) :
    (callsAfter path prelude lines).head? = some (textAfter path prelude []) := by
  obtain ⟨later, hlater⟩ := callsAfter_prefix path prelude (List.nil_prefix : [] <+: lines)
  rw [← hlater]
  rfl

theorem getElem?_callsAfter (path : String) (prelude : Option String) {before lines : List String}
    {line : String} (hp : before ++ [line] <+: lines) (hs : isSource line = true) :
    (callsAfter path prelude lines)[before.countP isSource + 1]? =
      some (textAfter path prelude before ++ fragment line) := by
  have hbody := bodyAfter_concat_source prelude before hs (isReset_of_isSource hs)
  have htext : textAfter path prelude (before ++ [line]) =
      textAfter path prelude before ++ fragment line := by
    rw [textAfter, textAfter, hbody, String.append_assoc, String.append_assoc, String.append_assoc]
  have hcalls : (callsAfter path prelude (before ++ [line]))[before.countP isSource + 1]? =
      some (textAfter path prelude before ++ fragment line) := by
    rw [callsAfter_concat, if_pos hs, htext, ← length_callsAfter path prelude before,
      List.getElem?_concat_length]
  have hlt := (List.getElem?_eq_some_iff.mp hcalls).1
  obtain ⟨later, hlater⟩ := callsAfter_prefix path prelude hp
  rw [← hlater, List.getElem?_append_left hlt, hcalls]

/-- A session that has had some lines: its scratch file holds what they left, and the backend was
called on the texts it should be called on. -/
structure Follows (path : String) (prelude : Option String) (invocation : Invocation)
    (before : List String) (s : Session) : Prop where
  scratch : s.scratch = .holding path (bodyAfter prelude before)
  invocation : s.invocation = invocation
  calls : Event.asks s.log = callsAfter path prelude before

theorem Follows.note {path : String} {prelude : Option String} {invocation : Invocation}
    {before : List String} {s : Session} (h : Follows path prelude invocation before s) {e : Event}
    (ha : e.asked? = none) : Follows path prelude invocation before (s.note e) := by
  have hnone : Event.asks [e] = [] := List.filterMap_cons_none ha
  refine ⟨h.scratch, h.invocation, ?_⟩
  rw [Session.note, Event.asks_append, hnone, List.append_nil]
  exact h.calls

theorem check_follows (host : Host) {path : String} {prelude : Option String}
    (invocation : Invocation) {scratch : Scratch}
    (h : scratch = .holding path (bodyAfter prelude [])) :
    Follows path prelude invocation [] ((Session.mk scratch invocation []).check host).2 := by
  obtain ⟨new, hnew, hcheck⟩ := check_eq host ⟨scratch, invocation, []⟩
  rw [hcheck]
  subst h
  exact ⟨rfl, rfl, hnew⟩

theorem importPrelude_create (path folder p dir : String)
    (hdir : Path.absolute? folder (Path.folderOf p) = some dir) :
    (Scratch.create path).importPrelude folder p =
      (.ok dir, .holding path (bodyAfter (some p) [])) := by
  have hbody : bodyAfter (some p) [] = "" ++ Scratch.importLine p ++ "\n\n" := by
    simp [bodyAfter, preamble, sinceReset]
  rw [hbody]
  unfold Scratch.importPrelude
  simp only [Scratch.append, Scratch.write, Scratch.create, hdir]
  rfl

/-- A session starts with the import of the prelude in the scratch file and one call of the
backend. -/
theorem start_follows (host : Host) (path : String) (invocation : Invocation)
    (prelude : Option String) : ∃ included, ∀ b : Backend, ∃ s,
      start { host with backend := b } (.create path) invocation prelude = (.ok (), s) ∧
        Follows path prelude included [] s := by
  cases prelude with
  | none => exact ⟨invocation, fun b => ⟨_, rfl, check_follows _ invocation rfl⟩⟩
  | some p =>
    obtain ⟨dir, hdir⟩ := Path.exists_absolute?_folderOf host.folder.path p
    have himport := importPrelude_create path _ p dir hdir
    refine ⟨invocation.addInclude dir, fun b =>
      ⟨_, ?_, check_follows { host with backend := b } (invocation.addInclude dir) rfl⟩⟩
    simp only [start, himport]

/-- A line of input leads from the session after some lines to the session after one more. What
it does depends on the backend in nothing but the answer. -/
theorem dispatch_follows (host : Host) (path : String) (prelude : Option String)
    (invocation : Invocation) (before : List String) (line : String) :
    ∃ kind : Step, ∀ (b : Backend) (s : Session), Follows path prelude invocation before s →
      ∃ step s', s.dispatch { host with backend := b } line = (.ok step, s') ∧
        Follows path prelude invocation (before ++ [line]) s' ∧ step.kind = kind ∧
        step.answer? = if isSource line then
          some (b.accepts (before.countP isSource + 1) invocation) else none := by
  cases hw : (Input.ofLine line).writes with
  | false =>
    have hs : isSource line = false := by
      unfold isSource; split
      · next h => simp [h, Input.writes] at hw
      · rfl
    have hr : isReset line = false := by
      cases h : Input.ofLine line <;> simp_all [isReset, Input.writes]
    obtain ⟨step, new, hnew, hanswer, hdispatch⟩ := dispatch_of_not_writes host path hw
    refine ⟨step.kind, fun b s h => ⟨step, _, hdispatch b s (by rw [h.scratch]; rfl), ?_, rfl, ?_⟩⟩
    · refine ⟨?_, h.invocation, ?_⟩
      · rw [bodyAfter_concat_other prelude before hs hr]
        exact h.scratch
      · simp [Event.asks_append, hnew, h.calls, callsAfter_concat, hs]
    · simp [hanswer, hs]
  | true =>
    cases hi : Input.ofLine line with
    | nothing | protocol t | shell t | clear => simp [hi, Input.writes] at hw
    | reset =>
      have hs : isSource line = false := by simp [isSource, hi]
      have hr : isReset line = true := by simp [isReset, hi]
      refine ⟨.reset, fun b s h =>
        ⟨.reset, { s with scratch := .holding path "" }, ?_, ?_, rfl, ?_⟩⟩
      · refine dispatch_reset _ s hi ?_
        rw [h.scratch]
        rfl
      · refine ⟨?_, h.invocation, ?_⟩
        · rw [bodyAfter_concat_reset prelude before hr]
        · simp [h.calls, callsAfter_concat, hs]
      · simp [Step.answer?, hs]
    | source text =>
      have hs : isSource line = true := by simp [isSource, hi]
      have hr : isReset line = false := by simp [isReset, hi]
      have hbody := bodyAfter_concat_source prelude before hs hr
      refine ⟨.checked true, fun b s h => ?_⟩
      have happend : s.scratch.append text =
          (.ok (), .holding path (bodyAfter prelude (before ++ [line]))) := by
        rw [h.scratch, hbody, fragment, Input.eq_trimmed_of_source hi, ← String.append_assoc]
        rfl
      have hdispatch := dispatch_source { host with backend := b } s hi happend
      obtain ⟨new, hnew, hcheck⟩ := check_eq { host with backend := b }
        { s with scratch := .holding path (bodyAfter prelude (before ++ [line])) }
      rw [hcheck] at hdispatch
      refine ⟨_, _, hdispatch, ⟨rfl, h.invocation, ?_⟩, rfl, ?_⟩
      · simp only [Event.asks_append, h.calls, hnew, callsAfter_concat, hs, if_true]
        rfl
      · simp [Step.answer?, hs, h.calls, length_callsAfter, h.invocation]

/-- The answers to `n` calls of the backend, the first of them the one after `done` calls. -/
def answers (b : Backend) (invocation : Invocation) (done n : Nat) : List Bool :=
  (List.range' done n).map fun i => b.accepts i invocation

/-- Lines of input lead from the session after some lines to the session after all of them. What
they do depends on the backend in nothing but its answers. -/
theorem steps_follows (host : Host) (path : String) (prelude : Option String)
    (invocation : Invocation) (before lines : List String) :
    ∃ kinds : List Step, ∀ (b : Backend) (s : Session), Follows path prelude invocation before s →
      ∃ steps : List Step, s.steps { host with backend := b } lines = steps.map .ok ∧
        Follows path prelude invocation (before ++ lines)
          (s.after { host with backend := b } lines) ∧
        steps.map Step.kind = kinds ∧
        steps.filterMap Step.answer? =
          answers b invocation (before.countP isSource + 1) (lines.countP isSource) := by
  induction lines generalizing before with
  | nil =>
    refine ⟨[], fun b s h => ⟨[], rfl, ?_, rfl, rfl⟩⟩
    rw [List.append_nil]
    exact h
  | cons line rest ih =>
    obtain ⟨kind, hline⟩ := dispatch_follows host path prelude invocation before line
    obtain ⟨kinds, hrest⟩ := ih (before ++ [line])
    refine ⟨kind :: kinds, fun b s h => ?_⟩
    obtain ⟨step, s', hdispatch, hfollows, hkind, hanswer⟩ := hline b s h
    obtain ⟨steps, hsteps, hafter, hkinds, hanswers⟩ := hrest b s' hfollows
    refine ⟨step :: steps, ?_, ?_, ?_, ?_⟩
    · rw [Session.steps, hdispatch, hsteps, List.map_cons]
    · rw [after_cons, hdispatch]
      rw [List.append_assoc] at hafter
      exact hafter
    · rw [List.map_cons, hkind, hkinds]
    · rw [List.countP_append] at hanswers
      cases hs : isSource line with
      | true =>
        simp only [hs, if_true] at hanswer
        simp [answers, hanswer, hanswers, hs, List.range'_succ]
      | false =>
        simp only [hs] at hanswer
        simp [hanswer, hanswers, hs]

theorem Follows.after {path : String} {prelude : Option String} {invocation : Invocation}
    {before : List String} {s : Session} (h : Follows path prelude invocation before s)
    (host : Host) (lines : List String) :
    Follows path prelude invocation (before ++ lines) (s.after host lines) := by
  obtain ⟨_, hrun⟩ := steps_follows host path prelude invocation before lines
  obtain ⟨_, _, hfollows, _⟩ := hrun host.backend s h
  exact hfollows

/-- A session from its start on, with any prelude, on any lines and with any backend. After each
step the scratch file holds what the lines have left, in memory and on disk, and the backend was
called once at the start and once for each line of source, on the text of that moment. Each step
succeeds, the steps that check have the answers to these calls, and with another backend nothing
else is different. -/
theorem run_law (host : Host) (path : String) (invocation : Invocation) (prelude : Option String)
    (lines : List String) :
    ∃ (s₀ : Session) (steps : List Step),
      start host (.create path) invocation prelude = (.ok (), s₀) ∧
      s₀.steps host lines = steps.map .ok ∧
      (∀ k, let s := s₀.after host (lines.take k)
        s.scratch.header = (Scratch.create path).header ∧
        s.scratch.body = bodyAfter prelude (lines.take k) ∧
        s.scratch.disk = some (s.scratch.header ++ "\n\n" ++ s.scratch.body) ∧
        s.invocation = s₀.invocation ∧
        Event.asks s.log = callsAfter path prelude (lines.take k) ∧
        (Event.asks s.log).length = (lines.take k).countP isSource + 1) ∧
      steps.filterMap Step.answer? =
        answers host.backend s₀.invocation 1 (lines.countP isSource) ∧
      ∀ b : Backend, let other := { host with backend := b }
        ∃ (s₁ : Session) (steps' : List Step),
          start other (.create path) invocation prelude = (.ok (), s₁) ∧
          s₁.steps other lines = steps'.map .ok ∧
          steps'.map Step.kind = steps.map Step.kind ∧
          ∀ k, let s := s₀.after host (lines.take k)
            let s' := s₁.after other (lines.take k)
            s'.scratch = s.scratch ∧ s'.invocation = s.invocation ∧
              Event.asks s'.log = Event.asks s.log := by
  obtain ⟨included, hstart⟩ := start_follows host path invocation prelude
  obtain ⟨s₀, hs₀, h₀⟩ := hstart host.backend
  obtain ⟨kinds, hrun⟩ := steps_follows host path prelude included [] lines
  obtain ⟨steps, hsteps, -, hkinds, hanswers⟩ := hrun host.backend s₀ h₀
  refine ⟨s₀, steps, hs₀, hsteps, fun k => ?_, ?_, fun b => ?_⟩
  · have hk : Follows path prelude included (lines.take k) _ := h₀.after host _
    refine ⟨?_, ?_, ?_, hk.invocation.trans h₀.invocation.symm, hk.calls, ?_⟩
    · rw [hk.scratch]; rfl
    · rw [hk.scratch]; rfl
    · rw [hk.scratch]; rfl
    · rw [hk.calls, length_callsAfter]
  · rw [h₀.invocation]
    exact hanswers
  · obtain ⟨s₁, hs₁, h₁⟩ := hstart b
    obtain ⟨steps', hsteps', -, hkinds', -⟩ := hrun b s₁ h₁
    refine ⟨s₁, steps', hs₁, hsteps', hkinds'.trans hkinds.symm, fun k => ?_⟩
    have hk := h₀.after host (lines.take k)
    have hk' := h₁.after { host with backend := b } (lines.take k)
    exact ⟨hk'.scratch.trans hk.scratch.symm, hk'.invocation.trans hk.invocation.symm,
      hk'.calls.trans hk.calls.symm⟩

end Session

end AgdaConsole
