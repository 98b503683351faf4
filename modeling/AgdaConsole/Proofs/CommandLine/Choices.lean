import AgdaConsole.CommandLine.Line
import AgdaConsole.Proofs.CommandLine.Setting

namespace AgdaConsole

namespace Arguments

/-- Some arguments have a value at a place of their list. -/
inductive Has : {l : List Slot} → Arguments l → (s : Slot) → s.Value → Prop
  | here {s : Slot} {l : List Slot} (value : s.Value) (rest : Arguments l) :
    Has (.cons value rest) s value
  | there {s t : Slot} {l : List Slot} {value : s.Value} (other : t.Value) {rest : Arguments l}
    (h : Has rest s value) : Has (.cons other rest) s value

variable {l : List Slot} {a : Arguments l} {s : Slot} {value : s.Value} {x : Setting}

theorem Has.fits {full : String} (h : a.Has s value) (hf : a.Fits full) : s.Fits full value := by
  induction h with
  | here value rest => exact hf.1
  | there other h ih => exact ih hf.2

theorem Has.mem_settings (h : a.Has s value) (hx : x ∈ s.settings value) : x ∈ a.settings := by
  induction h with
  | here value rest => exact List.mem_append_left _ hx
  | there other h ih => exact List.mem_append_right _ (ih hx)

theorem Has.mem_flags (h : a.Has s value) {f : Flag} (hf : f ∈ s.flags) :
    f ∈ (l.map Slot.flags).flatten := by
  induction h with
  | here value rest => exact List.mem_append_left _ hf
  | there other h ih => exact List.mem_append_right _ (ih hf)

theorem flag_mem_of_mem_settings (hx : x ∈ a.settings) :
    x.flag ∈ (l.map Slot.flags).flatten :=
  a.sublist_flags.subset (List.mem_map.mpr ⟨x, hx, rfl⟩)

/-- Where no two places share a flag, the settings for the flags of a place give its value. -/
theorem Has.mem_of_flag (hn : (l.map Slot.flags).flatten.Nodup) (h : a.Has s value)
    (hx : x ∈ a.settings) (hf : x.flag ∈ s.flags) : x ∈ s.settings value := by
  induction h with
  | here value rest =>
    obtain ⟨-, -, hdisjoint⟩ := List.nodup_append.mp hn
    rcases List.mem_append.mp hx with hx | hx
    · exact hx
    · exact absurd rfl (hdisjoint _ hf _ (flag_mem_of_mem_settings hx))
  | @there s t l value other rest h ih =>
    obtain ⟨-, hrest, hdisjoint⟩ := List.nodup_append.mp hn
    rcases List.mem_append.mp hx with hx | hx
    · have ht : x.flag ∈ t.flags :=
        (t.sublist_flags other).subset (List.mem_map.mpr ⟨x, hx, rfl⟩)
      exact absurd rfl (hdisjoint _ ht _ (h.mem_flags hf))
    · exact ih hrest hx hf

theorem exists_of_place_mem {full text : String} (hf : a.Fits full)
    (hx : Setting.place text ∈ a.settings) :
    ∃ is, is ≠ [] ∧ text = String.ofList (Range.text is) := by
  induction a with
  | nil => exact absurd hx List.not_mem_nil
  | @cons s l value rest ih =>
    rcases List.mem_append.mp hx with hx | hx
    · have hflag : Flag.place ∈ s.flags :=
        (s.sublist_flags value).subset (List.mem_map.mpr ⟨_, hx, rfl⟩)
      cases s with
      | goal =>
        obtain ⟨id, range, e⟩ : Goal := value
        rcases hf.1 with hr | ⟨is, hne, hr⟩
        · change range = .noRange at hr
          subst hr
          simp [Slot.settings, Goal.settings, Range.settings] at hx
        · change range = .span (some full) is at hr
          subst hr
          exact ⟨is, hne, by simpa [Slot.settings, Goal.settings, Range.settings] using hx⟩
      | _ => exact absurd hflag (by decide)
    · exact ih hf.2 hx

end Arguments

theorem Choices.arguments_eq {c : Choices} {l : List Slot} {a : Arguments l}
    (h : ∀ s value, a.Has s value → c.at s = value) : c.arguments l = a := by
  induction a with
  | nil => rfl
  | cons value rest ih =>
    rw [arguments, h _ value (.here value rest), ih fun s v hv => h s v (.there value hv)]

namespace Setting

/-- A function picks from settings the values that one constructor is given. -/
structure Picks {α : Type} (pick : Setting → Option α) (make : α → Setting) : Prop where
  isPartialInv : Function.IsPartialInv make pick := by
    -- Such a function looks at the constructor only, so that one proof does for all.
    intro a x
    cases x <;> constructor <;> intro h <;> cases h <;> rfl

namespace Picks

variable {α : Type} {pick : Setting → Option α} {make : α → Setting} {settings : List Setting}

theorem injective (hp : Picks pick make) : Function.Injective make := hp.isPartialInv.injective

theorem last?_eq_some (hp : Picks pick make) {a : α} (hmem : ∀ b, make b ∈ settings ↔ b = a) :
    last? pick settings = some a := by
  have hne : settings.filterMap pick ≠ [] := by
    have ha := List.mem_filterMap.mpr ⟨make a, (hmem a).mpr rfl, (hp.isPartialInv a _).mpr rfl⟩
    exact List.ne_nil_of_mem ha
  obtain ⟨x, hx, hpick⟩ := List.mem_filterMap.mp (List.getLast_mem hne)
  rw [← (hp.isPartialInv _ x).mp hpick] at hx
  rw [last?, List.getLast?_eq_some_getLast hne, (hmem _).mp hx]

/-- If only one setting is of a kind, its value is chosen, whatever the default is. -/
theorem getD_last? (hp : Picks pick make) {a default : α}
    (hmem : ∀ b, make b ∈ settings ↔ make b ∈ [make a]) :
    (last? pick settings).getD default = a := by
  have ha : last? pick settings = some a := hp.last?_eq_some fun b =>
    (hmem b).trans (List.mem_singleton.trans hp.injective.eq_iff)
  rw [ha, Option.getD_some]

theorem last?_eq_none (hp : Picks pick make) (hmem : ∀ b, make b ∉ settings) :
    last? pick settings = none := by
  rw [last?, List.getLast?_eq_none_iff, List.filterMap_eq_nil_iff]
  intro x hx
  rw [Option.eq_none_iff_forall_ne_some]
  intro b hb
  rw [← (hp.isPartialInv b x).mp hb] at hx
  exact hmem b hx

theorem mem_of_last?_eq_some (hp : Picks pick make) {a : α} (h : last? pick settings = some a) :
    make a ∈ settings := by
  obtain ⟨x, hx, hpick⟩ := List.mem_filterMap.mp (List.mem_of_getLast? h)
  rw [← (hp.isPartialInv a x).mp hpick] at hx
  exact hx

end Picks

theorem flatten_options_of_not_mem {settings : List Setting} (h : ∀ b, .cmds b ∉ settings) :
    (settings.map options).flatten = [] := by
  rw [List.flatten_eq_nil_iff]
  intro l hl
  obtain ⟨x, hx, rfl⟩ := List.mem_map.mp hl
  cases x with
  | cmds b => exact absurd hx (h b)
  | _ => rfl

theorem flatten_options {settings : List Setting} {l : List String}
    (hu : (settings.map flag).Nodup) (h : .cmds l ∈ settings) :
    (settings.map options).flatten = l := by
  obtain ⟨before, after, rfl⟩ := List.append_of_mem h
  rw [List.map_append, List.map_cons, List.nodup_append, List.nodup_cons] at hu
  obtain ⟨-, ⟨hafter, -⟩, hbefore⟩ := hu
  have hb : ∀ b, .cmds b ∉ before := fun b hm =>
    hbefore _ (List.mem_map.mpr ⟨_, hm, rfl⟩) _ List.mem_cons_self rfl
  have ha : ∀ b, .cmds b ∉ after := fun b hm => hafter (List.mem_map.mpr ⟨_, hm, rfl⟩)
  rw [List.map_append, List.map_cons, List.flatten_append, List.flatten_cons,
    flatten_options_of_not_mem hb, flatten_options_of_not_mem ha, List.append_nil]
  rfl

/-- The range that some settings choose, in a file. -/
def range (full : String) (settings : List Setting) : Except MalformedRange Range :=
  match last? place? settings with
  | none => .ok .noRange
  | some text => Range.read (some full) text

theorem choices_of_range {full : String} {settings : List Setting} {r : Range}
    (h : range full settings = .ok r) : choices full settings = .ok
      { backend := (last? backend? settings).getD Vocabulary.standard
        options := (settings.map options).flatten
        rewrite := (last? rewrite? settings).getD Vocabulary.standard
        compute := (last? computeMode? settings).getD Vocabulary.standard
        remove := (last? remove? settings).getD Vocabulary.standard
        force := (last? force? settings).getD Vocabulary.standard
        whether := settings.contains .whether
        id := (last? interactionId? settings).getD 0
        range := r
        expr := (last? expr? settings).getD "" } := by
  unfold choices
  change Except.map _ (range full settings) = _
  rw [h]
  rfl

theorem goal_eq {full : String} {g : Goal} {settings : List Setting} {r : Range}
    (hr : range full settings = .ok r) (hf : Slot.Fits full .goal g)
    (hs : ∀ x : Setting, x.flag ∈ Slot.flags .goal → (x ∈ settings ↔ x ∈ g.settings)) :
    (⟨(last? interactionId? settings).getD 0, r, (last? expr? settings).getD ""⟩ : Goal) = g := by
  obtain ⟨id, range, e⟩ := g
  have hid : last? interactionId? settings = some id :=
    ({} : Picks interactionId? interactionId).last?_eq_some fun b => by
      rw [hs _ (by simp [flag, Slot.flags])]
      cases range <;> simp [Goal.settings, Range.settings]
  have hexpr : last? expr? settings = some e :=
    ({} : Picks expr? expr).last?_eq_some fun b => by
      rw [hs _ (by simp [flag, Slot.flags])]
      cases range <;> simp [Goal.settings, Range.settings]
  have hplace : ∀ b, .place b ∈ settings ↔ .place b ∈ Goal.settings ⟨id, range, e⟩ := fun b =>
    hs _ (by simp [flag, Slot.flags])
  have hrange : r = range := by
    rcases hf with hn | ⟨is, hne, hn⟩
    · change range = .noRange at hn
      subst hn
      have hlast : last? place? settings = none :=
        ({} : Picks place? place).last?_eq_none fun b hb => by
          simpa [Goal.settings, Range.settings] using (hplace b).mp hb
      simp only [Setting.range, hlast] at hr
      exact (Except.ok.inj hr).symm
    · change range = .span (some full) is at hn
      subst hn
      have hlast : last? place? settings = some (String.ofList (Range.text is)) :=
        ({} : Picks place? place).last?_eq_some fun b => by
          rw [hplace]
          simp [Goal.settings, Range.settings]
      simp only [Setting.range, hlast, Range.read_text (some full) hne] at hr
      exact (Except.ok.inj hr).symm
  simp only [hid, hexpr, hrange, Option.getD_some]

/-- Settings that are those of some arguments, in any order and perhaps with one of a file, choose
these arguments. -/
theorem exists_choices {full : String} {l : List Slot} {a : Arguments l}
    (hn : (Flag.file :: (l.map Slot.flags).flatten).Nodup) (hf : a.Fits full)
    {settings : List Setting} (hu : (settings.map flag).Nodup)
    (hs : ∀ x, x.flag ≠ .file → (x ∈ settings ↔ x ∈ a.settings)) :
    ∃ c, choices full settings = .ok c ∧ c.arguments l = a := by
  obtain ⟨hfile, hn⟩ := List.nodup_cons.mp hn
  have hrange : ∃ r, range full settings = .ok r := by
    unfold range
    cases hp : last? place? settings with
    | none => exact ⟨.noRange, rfl⟩
    | some text =>
      have hm := ({} : Picks place? place).mem_of_last?_eq_some hp
      obtain ⟨is, hne, ht⟩ := Arguments.exists_of_place_mem hf ((hs _ (by simp [flag])).mp hm)
      rw [ht]
      exact ⟨_, Range.read_text (some full) hne⟩
  obtain ⟨r, hr⟩ := hrange
  refine ⟨_, choices_of_range hr, Choices.arguments_eq fun s value hv => ?_⟩
  -- On the flags of one place the settings are exactly those that give its value.
  have hsame : ∀ x : Setting, x.flag ∈ s.flags → (x ∈ settings ↔ x ∈ s.settings value) := by
    intro x hx
    have hne : x.flag ≠ .file := fun he => hfile (he ▸ hv.mem_flags hx)
    rw [hs x hne]
    exact ⟨fun h => hv.mem_of_flag hn h hx, fun h => hv.mem_settings h⟩
  cases s with
  | file => rfl
  | backend | rewrite | compute | remove | force | expr =>
    exact Picks.getD_last? {} fun b => hsame _ List.mem_cons_self
  | options =>
    cases (value : List String) with
    | nil =>
      exact flatten_options_of_not_mem fun b hb =>
        List.not_mem_nil ((hsame (.cmds b) List.mem_cons_self).mp hb)
    | cons o rest =>
      exact flatten_options hu ((hsame (.cmds _) List.mem_cons_self).mpr List.mem_cons_self)
  | whether =>
    have h := hsame .whether List.mem_cons_self
    cases (value : Bool) with
    | false =>
      have hno : settings.contains Setting.whether = false := by
        rw [← Bool.not_eq_true, List.contains_iff_mem]
        exact fun hm => List.not_mem_nil (h.mp hm)
      exact hno
    | true =>
      have hyes : settings.contains Setting.whether = true :=
        List.contains_iff_mem.mpr (h.mpr List.mem_cons_self)
      exact hyes
  | goal => exact goal_eq hr (hv.fits hf) hsame

end Setting

end AgdaConsole
