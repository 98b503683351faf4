import AgdaConsole.Proofs.CommandLine.Choices
import AgdaConsole.Proofs.CommandLine.Given
import AgdaConsole.Proofs.CommandLine.Scan
import AgdaConsole.Proofs.Text.Word

namespace AgdaConsole

/-- An envelope that a line after a colon can ask for, for a user who works in `folder`. -/
def Envelope.Expressible (folder : String) (e : Envelope) : Prop :=
  ∃ full, Path.absolute? folder e.file = some full ∧ e.command.arguments.Fits full

/-- The line that gives some settings before the name of a command and others after it, every word
in quotes. -/
def writtenLine (outer : List Setting) (verb : Verb) (inner : List Setting) : String :=
  quotedLine (outer.map Setting.word ++ verb.name :: inner.map Setting.word)

theorem Envelope.make_eq (e : Envelope) : make e.file e.command = .ok e := by
  simp [make, e.file_named, e.command_met]

theorem Envelope.of_make {file : String} {c : Command} {e : Envelope} (h : make file c = .ok e) :
    e.file = file ∧ e.command = c := by
  unfold make at h
  split at h
  · split at h
    · rw [← Except.ok.inj h]
      exact ⟨rfl, rfl⟩
    · split at h
      · exact absurd h (by simp)
      · exact absurd h (by simp)
  · exact absurd h (by simp)

/-- A line that gives the file and the arguments of an envelope in any order asks for it. The file
may stand on either side of the name of the command, and the arguments stand after it. -/
theorem envelopeOfLine_writtenLine {folder : String} {e : Envelope} (h : e.Expressible folder)
    (default : String) {outer inner : List Setting} (ho : ∀ x ∈ outer, x.flag = .file)
    (hperm : (outer ++ inner).Perm (.file e.file :: e.command.settings)) :
    envelopeOfLine folder default (writtenLine outer e.command.verb inner) = .ok e := by
  obtain ⟨full, hfull, hfits⟩ := h
  have hsub : ((Setting.file e.file :: e.command.settings).map Setting.flag).Sublist
      (.file :: e.command.verb.flags) := (Arguments.sublist_flags _).cons_cons _
  have hfile : Flag.file ∉ e.command.settings.map Setting.flag :=
    (List.nodup_cons.mp (hsub.nodup e.command.verb.nodup_flags)).1
  have hu : ((outer ++ inner).map Setting.flag).Nodup :=
    (hperm.map Setting.flag).nodup_iff.mpr (hsub.nodup e.command.verb.nodup_flags)
  obtain ⟨houter, hinner, -⟩ := List.nodup_append.mp (by rwa [List.map_append] at hu)
  have hreads : ∀ x ∈ outer ++ inner, x.ReadsBack := by
    intro x hx
    rcases List.mem_cons.mp (hperm.mem_iff.mp hx) with rfl | hx
    · exact Setting.ReadsBack.file e.file_named
    · exact Arguments.readsBack_of_fits hfits hx
  have hknown : ∀ x ∈ inner, x.flag ∈ Level.flags (.lineVerb e.command.verb) := by
    intro x hx
    have hm := hperm.mem_iff.mp (List.mem_append_right outer hx)
    rcases List.mem_cons.mp (hsub.subset (List.mem_map.mpr ⟨x, hm, rfl⟩)) with hf | hf
    · rw [hf]
      exact List.mem_append_right _ List.mem_cons_self
    · exact List.mem_append_left _ hf
  have hreading : Level.line.read
      (outer.map Setting.word ++ e.command.verb.name :: inner.map Setting.word) =
        .ok [(.line, outer), (.lineVerb e.command.verb, inner)] :=
    Level.read_line
      (fun x hx => ⟨ho x hx ▸ List.mem_cons_self, hreads x (List.mem_append_left _ hx)⟩) houter
      (fun x hx => ⟨hknown x hx, hreads x (List.mem_append_right _ hx)⟩) hinner
  have hlast : Setting.last? Setting.file? (outer ++ inner) = some e.file := by
    refine ({} : Setting.Picks Setting.file? .file).last?_eq_some fun b => ?_
    rw [hperm.mem_iff, List.mem_cons]
    refine ⟨fun hb => hb.elim Setting.file.inj fun hm => ?_, fun hb => .inl (congrArg _ hb)⟩
    exact absurd (List.mem_map.mpr ⟨_, hm, rfl⟩) hfile
  have hsame : ∀ x : Setting, x.flag ≠ .file → (x ∈ inner ↔ x ∈ e.command.settings) := by
    intro x hx
    have hm : x ∈ outer ++ inner ↔ x ∈ Setting.file e.file :: e.command.settings := hperm.mem_iff
    rw [List.mem_append, List.mem_cons] at hm
    have hout : x ∉ outer := fun hm => hx (ho x hm)
    have hne : x ≠ .file e.file := fun he => hx (by rw [he]; rfl)
    simpa [hout, hne] using hm
  obtain ⟨c, hc, hargs⟩ :=
    Setting.exists_choices e.command.verb.nodup_flags hfits hinner hsame
  have hchoose : Command.choose e.command.verb c = e.command := congrArg (Command.mk _) hargs
  have hsettings : Reading.settings [(.line, outer), (.lineVerb e.command.verb, inner)] =
      outer ++ inner := by simp [Reading.settings]
  simp only [envelopeOfLine, writtenLine, splitWords_quotedLine, envelopeOfWords, hreading,
    hsettings, hlast, Option.getD_some]
  change envelopeFor folder e.file e.command.verb inner = .ok e
  simp only [envelopeFor, hfull, hc, hchoose, e.make_eq]
  rfl

theorem Choices.fits_arguments {c : Choices} {full : String}
    (ho : ∀ o ∈ c.options, ',' ∉ o.toList)
    (hr : c.range = .noRange ∨ ∃ is, is ≠ [] ∧ c.range = .span (some full) is) (l : List Slot) :
    (c.arguments l).Fits full := by
  induction l with
  | nil => trivial
  | cons s l ih =>
    refine ⟨?_, ih⟩
    cases s with
    | options => exact ho
    | goal => exact hr
    | _ => trivial

/-- The range that is chosen is none, or has intervals in the file. -/
theorem Setting.range_of_choices {full : String} {settings : List Setting} {c : Choices}
    (h : choices full settings = .ok c) :
    c.range = .noRange ∨ ∃ is, is ≠ [] ∧ c.range = .span (some full) is := by
  obtain ⟨r, hr, rfl⟩ := map_eq_ok.mp h
  split at hr
  · exact .inl (Except.ok.inj hr).symm
  · exact Range.of_read hr

theorem Setting.fits_of_choices {full : String} {settings : List Setting} {c : Choices}
    (hs : ∀ x ∈ settings, x.Given) (h : choices full settings = .ok c) (l : List Slot) :
    (c.arguments l).Fits full := by
  refine Choices.fits_arguments (fun o ho => ?_) (range_of_choices h) l
  obtain ⟨r, hr, rfl⟩ := map_eq_ok.mp h
  obtain ⟨values, hvalues, ho⟩ := List.mem_flatten.mp ho
  obtain ⟨x, hx, rfl⟩ := List.mem_map.mp hvalues
  cases x with
  | cmds values => exact (hs _ hx).not_mem_of_cmds ho
  | _ => exact absurd ho List.not_mem_nil

/-- An envelope that is made has the file it is made for, and the command with the values that the
settings choose. -/
theorem choices_of_envelopeFor {folder file : String} {verb : Verb} {settings : List Setting}
    {e : Envelope} (h : envelopeFor folder file verb settings = .ok e) :
    ∃ full c, Path.absolute? folder file = some full ∧ Setting.choices full settings = .ok c ∧
      e.file = file ∧ e.command = .choose verb c := by
  unfold envelopeFor at h
  split at h
  · exact absurd h (by simp)
  next full hfull =>
    split at h
    · exact absurd h (by simp)
    next c hc =>
      obtain ⟨hfile, hcommand⟩ := Envelope.of_make (mapError_eq_ok.mp h)
      exact ⟨full, c, hfull, hc, hfile, hcommand⟩

theorem expressible_of_envelopeOfLine {folder default line : String} {e : Envelope}
    (h : envelopeOfLine folder default line = .ok e) : e.Expressible folder := by
  unfold envelopeOfLine envelopeOfWords at h
  split at h
  · exact absurd h (by simp)
  next reading hreading =>
    split at h
    next verb inner hinner =>
      obtain ⟨full, c, hfull, hc, hfile, hcommand⟩ := choices_of_envelopeFor h
      have hgiven : ∀ x ∈ inner, x.Given := fun x hx =>
        (Level.gives_of_read hreading _ (List.mem_of_getLast? hinner) x hx).given
      refine ⟨full, by rw [hfile]; exact hfull, ?_⟩
      rw [hcommand]
      exact Setting.fits_of_choices hgiven hc verb.layout
    · exact absurd h (by simp)

/-- The lines after a colon ask for the expressible envelopes and for no others. An expressible
envelope is what a line of words in quotes asks for, whatever the file of the session is, that
gives the file and the arguments in any order, with the file on either side of the name of the
command. An envelope that any line asks for is expressible, so such a line asks for it again. -/
theorem line_language_exact (folder default : String) :
    (∀ (e : Envelope) (options : List Setting), e.Expressible folder →
      (options.Perm e.command.settings →
        envelopeOfLine folder default (writtenLine [.file e.file] e.command.verb options) =
          .ok e) ∧
      (options.Perm (.file e.file :: e.command.settings) →
        envelopeOfLine folder default (writtenLine [] e.command.verb options) = .ok e)) ∧
    ∀ (line : String) (e : Envelope), envelopeOfLine folder default line = .ok e →
      e.Expressible folder ∧ ∀ other : String, envelopeOfLine folder other
        (writtenLine [.file e.file] e.command.verb e.command.settings) = .ok e := by
  refine ⟨fun e options he => ⟨fun hp => ?_, fun hp => ?_⟩, fun line e h => ?_⟩
  · exact envelopeOfLine_writtenLine he default (by simp [Setting.flag]) (hp.cons _)
  · exact envelopeOfLine_writtenLine he default (by simp) hp
  · have he := expressible_of_envelopeOfLine h
    refine ⟨he, fun other => ?_⟩
    exact envelopeOfLine_writtenLine he other (by simp [Setting.flag]) (List.Perm.refl _)

theorem line_language_exact_whyInScope :
    let place : Range := .span (some "/w/A") [⟨⟨1, 2, 3⟩, ⟨1, 4, 5⟩⟩]
    let e : Envelope :=
      ⟨"A", .choose .whyInScope { id := 7, range := place, expr := "\"x" }, by decide, by decide⟩
    let line :=
      "\"why_in_scope\" \"--where=1:2:3-1:4:5\" \"--expr=\\\"x\" \"--file=A\" \"--interaction-id=7\""
    e.Expressible "/w" ∧ envelopeOfLine "/w" "B" line = .ok e := by
  intro place e line
  have he : e.Expressible "/w" :=
    ⟨"/w/A", by decide, .inr ⟨_, List.cons_ne_nil _ _, rfl⟩, trivial⟩
  have hperm : [.place "1:2:3-1:4:5", .expr "\"x", .file "A", .interactionId 7].Perm
      (.file e.file :: e.command.settings) := by decide
  have hline : writtenLine [] e.command.verb
      [.place "1:2:3-1:4:5", .expr "\"x", .file "A", .interactionId 7] = line := by
    decide
  have hread := ((line_language_exact "/w" "B").1 e _ he).2 hperm
  rw [hline] at hread
  exact ⟨he, hread⟩

end AgdaConsole
