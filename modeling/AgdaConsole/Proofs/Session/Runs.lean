import AgdaConsole.Proofs.Session.Kept

namespace AgdaConsole

namespace Event

theorem runs_concat (log : List Event) (e : Event) :
    runs (log ++ [e]) = runs log ++ e.run?.toList := by
  cases e <;> simp [runs, run?]

theorem asks_concat (log : List Event) (e : Event) :
    asks (log ++ [e]) = asks log ++ e.asked?.toList := by
  cases e <;> simp [asks, asked?]

end Event

theorem Scratch.path_write (s : Scratch) (body : String) : (s.write body).2.path = s.path := by
  unfold write
  split
  · rfl
  · rfl

namespace Session

/-- Every run of the backend in a session is a check of its scratch file. If the backend always
starts, each call has led to a run, which has read the text of the call. -/
structure Recorded (host : Host) (s : Session) : Prop where
  args : ∀ r ∈ Event.runs s.log, r.args = s.invocation.checkArgs s.scratch.path
  inputs : (∀ n, ∃ launch, host.backend.start n s.invocation = .ok launch) →
    (Event.runs s.log).map Run.input = Event.asks s.log

namespace Recorded

variable {host : Host} {s : Session}

theorem of_fresh (scratch : Scratch) (invocation : Invocation) :
    Recorded host ⟨scratch, invocation, []⟩ :=
  ⟨fun _ hr => absurd hr List.not_mem_nil, fun _ => rfl⟩

theorem note (h : s.Recorded host) {e : Event} (hr : e.run? = none) (ha : e.asked? = none) :
    (s.note e).Recorded host := by
  have hruns : Event.runs (s.note e).log = Event.runs s.log := by
    rw [Session.note, Event.runs_concat, hr]
    exact List.append_nil _
  have hasks : Event.asks (s.note e).log = Event.asks s.log := by
    rw [Session.note, Event.asks_concat, ha]
    exact List.append_nil _
  refine ⟨fun r hm => ?_, fun hstart => ?_⟩
  · rw [hruns] at hm
    exact h.args r hm
  · rw [hruns, hasks]
    exact h.inputs hstart

theorem write (h : s.Recorded host) (body : String) :
    Recorded host { s with scratch := (s.scratch.write body).2 } := by
  refine ⟨fun r hm => ?_, h.inputs⟩
  change r.args = s.invocation.checkArgs (s.scratch.write body).2.path
  rw [s.scratch.path_write body]
  exact h.args r hm

/-- A call that leads to a run of the backend on the text of the call. -/
theorem asked_ran (h : s.Recorded host) (text folder : String) :
    let r : Run := ⟨s.invocation.checkArgs s.scratch.path, folder, text⟩
    ((s.note (.asked text)).note (.ran r)).Recorded host := by
  intro r
  have hruns : Event.runs ((s.note (.asked text)).note (.ran r)).log = Event.runs s.log ++ [r] := by
    rw [Session.note, Session.note, Event.runs_concat, Event.runs_concat]
    simp [Event.run?]
  have hasks : Event.asks ((s.note (.asked text)).note (.ran r)).log =
      Event.asks s.log ++ [text] := by
    rw [Session.note, Session.note, Event.asks_concat, Event.asks_concat]
    simp [Event.asked?]
  refine ⟨fun x hm => ?_, fun hstart => ?_⟩
  · rw [hruns] at hm
    rcases List.mem_append.mp hm with hm | hm
    · exact h.args x hm
    · rw [List.mem_singleton.mp hm]
      rfl
  · rw [hruns, hasks, List.map_append, h.inputs hstart]
    rfl

/-- A call on which the backend does not start. -/
theorem asked_of_error (h : s.Recorded host) (text : String) {n : Nat} {e : BackendError}
    (he : host.backend.start n s.invocation = .error e) :
    (s.note (.asked text)).Recorded host := by
  refine ⟨fun r hm => ?_, fun hstart => ?_⟩
  · rw [Session.note, Event.runs_concat] at hm
    exact h.args r (by simpa [Event.run?] using hm)
  · obtain ⟨launch, hl⟩ := hstart n
    exact absurd (he.symm.trans hl) (by simp)

theorem check (h : s.Recorded host) : (s.check host).2.Recorded host := by
  unfold Session.check
  dsimp only
  split
  · next e he => exact (h.asked_of_error _ he).note rfl rfl
  · next launch hl =>
    have hran := (h.asked_ran (s.scratch.disk.getD "") launch.folder).note
      (e := .shown (host.backend.reply (Event.asks s.log).length).output) rfl rfl
    split
    · exact hran
    · exact hran.note rfl rfl

theorem kept (host : Host) : Kept host (Recorded host) :=
  ⟨fun h hr ha => h.note hr ha, fun body h => h.write body, fun h => h.check⟩

theorem start (host : Host) (scratch : Scratch) (invocation : Invocation)
    (prelude : Option String) :
    (Session.start host scratch invocation prelude).2.Recorded host := by
  unfold Session.start
  split
  · exact (of_fresh scratch invocation).check
  · split
    · exact of_fresh _ _
    · exact (of_fresh _ _).check

end Recorded

end Session

end AgdaConsole
