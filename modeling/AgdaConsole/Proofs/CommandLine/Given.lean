import AgdaConsole.Proofs.CommandLine.Reading
import AgdaConsole.Proofs.Text.Pieces

namespace AgdaConsole

/-- A setting that a flag gives, by its value or by standing alone. -/
def Setting.Given (x : Setting) : Prop :=
  (∃ f value, Flag.read f value = .ok x) ∨ ∃ f verb, Flag.switchOn f verb = .ok x

namespace Flag

theorem of_readPath {f : Flag} {make : String → Setting} {value : String} {x : Setting}
    (h : f.readPath make value = .ok x) : x = make value := by
  unfold readPath at h
  split at h
  · exact absurd h (by simp)
  · exact (Except.ok.inj h).symm

theorem of_readWord {α : Type} [Vocabulary α] {f : Flag} {make : α → Setting} {value : String}
    {x : Setting} (h : f.readWord make value = .ok x) : ∃ a, x = make a := by
  unfold readWord at h
  split at h
  · exact ⟨_, (Except.ok.inj h).symm⟩
  · exact absurd h (by simp)

theorem of_readId {value : String} {x : Setting} (h : readId value = .ok x) :
    ∃ n, x = .interactionId n := by
  unfold readId at h
  split at h
  · exact absurd h (by simp)
  · split at h
    · exact ⟨_, (Except.ok.inj h).symm⟩
    · exact absurd h (by simp)

/-- Only the flag of the options gives options, and it cuts them at commas. -/
theorem of_read_cmds {f : Flag} {value : String} {l : List String}
    (h : f.read value = .ok (.cmds l)) :
    l = (Text.pieces ',' value.toList).map String.ofList := by
  cases f with
  | cmds => exact (Setting.cmds.inj (Except.ok.inj h)).symm
  | file | config | agda | prelude | includePath | history | workingDir =>
    exact absurd (of_readPath h) (by simp)
  | backend | rewrite | computeMode | remove | force =>
    obtain ⟨a, ha⟩ := of_readWord h
    exact absurd ha (by simp)
  | interactionId =>
    obtain ⟨n, hn⟩ := of_readId h
    exact absurd hn (by simp)
  | place | expr => exact absurd (Except.ok.inj h) (by simp)
  | verbose | exec | whether | help | version => exact absurd h (by simp [read])

theorem switchOn_ne_cmds {f : Flag} {verb : Option Verb} {l : List String} :
    f.switchOn verb ≠ .ok (.cmds l) := by
  cases f <;> simp [switchOn]

theorem flag_of_read {f : Flag} {value : String} {x : Setting} (h : f.read value = .ok x) :
    x.flag = f := by
  cases f with
  | file | config | agda | prelude | includePath | history | workingDir =>
    rw [of_readPath h]
    rfl
  | backend | rewrite | computeMode | remove | force =>
    obtain ⟨a, rfl⟩ := of_readWord h
    rfl
  | interactionId =>
    obtain ⟨n, rfl⟩ := of_readId h
    rfl
  | cmds | place | expr =>
    rw [← Except.ok.inj h]
    rfl
  | verbose | exec | whether | help | version => exact absurd h (by simp [read])

theorem flag_of_switchOn {f : Flag} {verb : Option Verb} {x : Setting}
    (h : f.switchOn verb = .ok x) : x.flag = f := by
  cases f with
  | verbose | exec | whether =>
    rw [← Except.ok.inj h]
    rfl
  | _ => exact absurd h (by simp [switchOn])

end Flag

theorem Setting.Given.not_mem_of_cmds {l : List String} (h : Given (.cmds l)) {o : String}
    (ho : o ∈ l) : ',' ∉ o.toList := by
  rcases h with ⟨f, value, h⟩ | ⟨f, verb, h⟩
  · rw [Flag.of_read_cmds h] at ho
    obtain ⟨p, hp, rfl⟩ := List.mem_map.mp ho
    rw [String.toList_ofList]
    exact Text.not_mem_of_mem_pieces hp
  · exact absurd h Flag.switchOn_ne_cmds

/-- A setting that a flag known at a level gives, by its value or by standing alone. -/
def Level.Gives (l : Level) (x : Setting) : Prop :=
  ∃ f ∈ l.flags, (∃ value, f.read value = .ok x) ∨ ∃ verb, f.switchOn verb = .ok x

namespace Level.Gives

variable {l : Level} {x : Setting}

theorem given (h : l.Gives x) : x.Given := by
  obtain ⟨f, -, h⟩ := h
  rcases h with ⟨value, h⟩ | ⟨verb, h⟩
  · exact .inl ⟨f, value, h⟩
  · exact .inr ⟨f, verb, h⟩

theorem flag_mem (h : l.Gives x) : x.flag ∈ l.flags := by
  obtain ⟨f, hf, h⟩ := h
  rcases h with ⟨value, h⟩ | ⟨verb, h⟩
  · rw [Flag.flag_of_read h]
    exact hf
  · rw [Flag.flag_of_switchOn h]
    exact hf

end Level.Gives

namespace Scan

/-- A scan of a level has only settings that flags of the level give, and the flag it has still to
set is one of them. -/
structure Known (l : Level) (s : Scan) : Prop where
  settings : ∀ x ∈ s.settings, l.Gives x
  pending : ∀ f word, s.pending = some (f, word) → f ∈ l.flags

variable {s t : Scan} {l : Level} {f : Flag}

theorem known_empty (l : Level) : Known l {} :=
  ⟨fun _ hx => absurd hx List.not_mem_nil, fun _ _ h => absurd h (by simp)⟩

theorem waiting?_eq_some : s.waiting? = some f ↔ s.pending = some (f, none) := by
  unfold waiting?
  split
  · next g hp => simp [hp]
  · next hp =>
    refine ⟨fun h => absurd h (by simp), fun h => ?_⟩
    exact absurd h (hp f)

theorem Known.await_word (hs : s.Known l) (hf : f ∈ l.flags) (word : Option String) :
    Known l { s with pending := some (f, word) } := by
  refine ⟨hs.settings, fun g w h => ?_⟩
  have hg : f = g := (Prod.mk.inj (Option.some.inj h)).1
  exact hg ▸ hf

theorem Known.add {r : Except Refusal Setting} (hs : s.Known l)
    (hr : ∀ x, r = .ok x → l.Gives x) (h : s.add f r = .ok t) : t.Known l := by
  unfold Scan.add at h
  split at h
  · exact absurd h (by simp)
  · obtain ⟨x, hx, rfl⟩ := map_eq_ok.mp h
    refine ⟨fun y hy => ?_, hs.pending⟩
    rcases List.mem_append.mp hy with hy | hy
    · exact hs.settings y hy
    · rw [List.mem_singleton.mp hy]
      exact hr x hx

theorem Known.settle (hs : s.Known l) (h : s.settle = .ok t) : t.Known l := by
  unfold Scan.settle at h
  split at h
  · exact Except.ok.inj h ▸ hs
  · exact absurd h (by simp)
  · next g value hp =>
    have hnone : Known l { s with pending := none } :=
      ⟨hs.settings, fun _ _ h => absurd h (by simp)⟩
    exact hnone.add (fun x hx => ⟨g, hs.pending g _ hp, .inl ⟨value, hx⟩⟩) h

theorem Known.attach {value : String} (hs : s.Known l) (hf : f ∈ l.flags)
    (h : s.attach f value = .ok t) : t.Known l := by
  obtain ⟨u, hu, h⟩ := bind_eq_ok.mp h
  exact (hs.settle hu).add (fun x hx => ⟨f, hf, .inl ⟨value, hx⟩⟩) h

theorem Known.await (hs : s.Known l) (hf : f ∈ l.flags) (h : s.await f = .ok t) :
    t.Known l := by
  obtain ⟨u, hu, rfl⟩ := map_eq_ok.mp h
  exact (hs.settle hu).await_word hf none

theorem Known.switch (hs : s.Known l) (hf : f ∈ l.flags) (h : s.switch l f = .ok t) :
    t.Known l := by
  obtain ⟨u, hu, h⟩ := bind_eq_ok.mp h
  exact (hs.settle hu).add (fun x hx => ⟨f, hf, .inr ⟨_, hx⟩⟩) h

theorem Known.longWord {w : List Char} (hs : s.Known l) (h : s.longWord l w = .ok t) :
    t.Known l := by
  unfold Scan.longWord at h
  dsimp only at h
  split at h
  · exact absurd h (by simp)
  · next g hg =>
    have hf : g ∈ l.flags := List.mem_of_find?_eq_some hg
    split at h
    · exact hs.attach hf h
    · exact hs.await hf h
    · exact absurd h (by simp)
    · exact hs.switch hf h

theorem Known.letters {w : List Char} (hs : s.Known l) (h : s.letters l w = .ok t) :
    t.Known l := by
  induction w generalizing s with
  | nil => exact Except.ok.inj h ▸ hs
  | cons c r ih =>
    unfold Scan.letters at h
    split at h
    · exact absurd h (by simp)
    · next g hg =>
      have hf : g ∈ l.flags := List.mem_of_find?_eq_some hg
      split at h
      · split at h
        · exact hs.await hf h
        · exact hs.attach hf h
        · exact hs.attach hf h
      · obtain ⟨u, hu, h⟩ := bind_eq_ok.mp h
        exact ih (hs.switch hf hu) h

theorem Known.word {w : String} (hs : s.Known l) (h : s.word l w = .ok t) : t.Known l := by
  unfold Scan.word at h
  split at h
  · exact hs.longWord h
  · exact hs.letters h
  · split at h
    · next g hg =>
      have hf : g ∈ l.flags := hs.pending g none (waiting?_eq_some.mp hg)
      exact Except.ok.inj h ▸ hs.await_word hf (some w)
    · exact absurd h (by simp)

theorem Known.finish {settings : List Setting} (hs : s.Known l)
    (h : s.finish l = .ok settings) : ∀ x ∈ settings, l.Gives x := by
  obtain ⟨u, hu, h⟩ := bind_eq_ok.mp h
  split at h
  · exact absurd h (by simp)
  · exact Except.ok.inj h ▸ (hs.settle hu).settings

theorem Known.afterDashes {ws : List String} {settings : List Setting} (hs : s.Known l)
    (h : s.afterDashes l ws = .ok settings) : ∀ x ∈ settings, l.Gives x := by
  unfold Scan.afterDashes at h
  split at h
  · exact hs.finish h
  · split at h
    · exact absurd h (by simp)
    · exact absurd h (by simp)

end Scan

namespace Level

variable {l : Level} {s : Scan} {ws : List String} {reading : Reading}

theorem Scans.gives (h : l.Scans s ws reading) (hs : s.Known l) :
    ∀ p ∈ reading, ∀ x ∈ p.2, p.1.Gives x := by
  induction h with
  | finish h =>
    intro p hp
    rw [List.mem_singleton.mp hp]
    exact hs.finish h
  | @value l s w _ f _ hf _ _ ih =>
    have hmem : f ∈ l.flags := hs.pending f none (Scan.waiting?_eq_some.mp hf)
    exact ih (hs.await_word hmem (some w))
  | @enter _ m _ _ _ _ _ _ _ _ ht ih =>
    intro p hp
    rcases List.mem_cons.mp hp with rfl | hp
    · exact (hs.settle ht).settings
    · exact ih (Scan.known_empty m) p hp
  | dashes _ h =>
    intro p hp
    rw [List.mem_singleton.mp hp]
    exact hs.afterDashes h
  | word _ _ hw _ ih => exact ih (hs.word hw)

end Level

/-- The settings read at a level are given by flags of that level. -/
theorem Level.gives_of_read {l : Level} {ws : List String} {reading : Reading}
    (h : l.read ws = .ok reading) : ∀ p ∈ reading, ∀ x ∈ p.2, p.1.Gives x :=
  (Level.scans_of_scan h).gives (Scan.known_empty l)

end AgdaConsole
