import AgdaConsole.CommandLine.Setting
import AgdaConsole.Protocol.Command
import AgdaConsole.Proofs.Range
import AgdaConsole.Proofs.Spelling

namespace AgdaConsole

namespace Flag

def all : List Flag :=
  [.file, .config, .verbose, .exec, .agda, .prelude, .includePath, .history, .workingDir,
    .backend, .cmds, .rewrite, .computeMode, .remove, .force, .whether, .interactionId, .place,
    .expr, .help, .version]

/-- The flag that has a long name. -/
def owner? (name : String) : Option Flag := all.find? fun f => f.longNames.contains name

theorem owner?_of_mem_longNames (f : Flag) : ∀ name ∈ f.longNames, owner? name = some f := by
  cases f <;> decide

theorem name_mem_longNames (f : Flag) : f.name ∈ f.longNames := by
  cases f <;> decide

/-- No two flags share a long name. -/
theorem eq_of_mem_longNames {f g : Flag} {name : String} (hf : name ∈ f.longNames)
    (hg : name ∈ g.longNames) : g = f := by
  have hgo := owner?_of_mem_longNames g name hg
  have hfo := owner?_of_mem_longNames f name hf
  exact Option.some.inj (hgo.symm.trans hfo)

theorem name_toList (f : Flag) : f.name.toList ≠ [] ∧ '=' ∉ f.name.toList := by
  cases f <;> decide

end Flag

namespace Setting

/-- The value that a setting gives to its flag, if the flag takes one. -/
def value? : Setting → Option String
  | .file p => some p
  | .config p => some p
  | .agda p => some p
  | .prelude p => some p
  | .includePath p => some p
  | .history p => some p
  | .workingDir p => some p
  | .backend v => some (Vocabulary.spelling v)
  | .rewrite v => some (Vocabulary.spelling v)
  | .computeMode v => some (Vocabulary.spelling v)
  | .remove v => some (Vocabulary.spelling v)
  | .force v => some (Vocabulary.spelling v)
  | .cmds l => some (String.ofList (List.intercalate [','] (l.map String.toList)))
  | .interactionId n => some (String.ofList (Text.decimal n.toNat))
  | .place t => some t
  | .expr t => some t
  | .verbose | .exec | .whether => none

/-- The word that gives a setting: the name of its flag after two dashes, and the value after an
equals sign. -/
def word (x : Setting) : String :=
  String.ofList ('-' :: '-' :: (x.flag.name.toList ++ x.value?.elim [] fun v => '=' :: v.toList))

/-- A setting whose value is read as that setting. -/
def ReadsBack (x : Setting) : Prop :=
  match x.value? with
  | some v => x.flag.read v = .ok x
  | none => ∀ verb, x.flag.switchOn verb = .ok x

theorem takesValue_flag (x : Setting) : x.flag.takesValue = x.value?.isSome := by
  cases x <;> rfl

theorem toList_word (x : Setting) : x.word.toList =
    '-' :: '-' :: (x.flag.name.toList ++ x.value?.elim [] fun v => '=' :: v.toList) := by
  rw [word, String.toList_ofList]

theorem word_ne_of_head? (x : Setting) {w : String} (h : w.toList.head? ≠ some '-') :
    x.word ≠ w := by
  rintro rfl
  rw [toList_word] at h
  exact h rfl

theorem word_ne_dashes (x : Setting) : x.word ≠ "--" := by
  intro h
  have hw := x.toList_word
  rw [h] at hw
  have hnil := (List.cons.inj (List.cons.inj hw).2).2
  exact x.flag.name_toList.1 (List.append_eq_nil_iff.mp hnil.symm).1

namespace ReadsBack

theorem readWord {α : Type} [Vocabulary α] [Vocabulary.Lawful α] (f : Flag) (make : α → Setting)
    (a : α) : f.readWord make (Vocabulary.spelling a) = .ok (make a) := by
  simp only [Flag.readWord, Vocabulary.Lawful.readSpelling_spelling a]

theorem file {p : String} (h : blankText p = false) : ReadsBack (.file p) := by
  have hp : p.isEmpty = false := by
    rw [Bool.eq_false_iff]
    intro he
    rw [String.isEmpty_iff.mp he] at h
    exact absurd h (by decide)
  simp only [ReadsBack, value?, flag, Flag.read, Flag.readPath, hp]
  rfl

theorem cmds {l : List String} (hne : l ≠ []) (h : ∀ o ∈ l, ',' ∉ o.toList) :
    ReadsBack (.cmds l) := by
  have hpieces : Text.pieces ',' (List.intercalate [','] (l.map String.toList)) =
      l.map String.toList := by
    refine Text.pieces_intercalate (by simpa using hne) fun s hs => ?_
    obtain ⟨o, ho, rfl⟩ := List.mem_map.mp hs
    exact h o ho
  simp [ReadsBack, value?, flag, Flag.read, hpieces]

theorem interactionId (n : UInt32) : ReadsBack (.interactionId n) := by
  have hn : n.toNat < UInt32.size := n.toNat_lt
  have hsigned : Text.readSigned (Text.decimal n.toNat) = .ok (n.toNat : Int) :=
    Text.readSigned_decimal (Nat.lt_trans hn (by decide))
  simp only [ReadsBack, value?, flag, Flag.read, Flag.readId, String.toList_ofList, hsigned]
  rw [dif_pos ⟨hn, Int.natCast_nonneg _⟩]
  simp

end ReadsBack

end Setting

/-- The settings that give the options of the backend; nothing gives none. -/
def Setting.ofOptions : List String → List Setting
  | [] => []
  | o :: r => [.cmds (o :: r)]

/-- The settings that give a range; nothing gives none. -/
def Range.settings : Range → List Setting
  | .noRange => []
  | .span _ is => [.place (String.ofList (Range.text is))]

/-- The settings that give a goal. -/
def Goal.settings (g : Goal) : List Setting :=
  .interactionId g.id :: (g.range.settings ++ [.expr g.expr])

/-- The settings that give a value at a place of an argument list. -/
def Slot.settings : (s : Slot) → s.Value → List Setting
  | .file, _ => []
  | .backend, (v : CompileBackend) => [.backend v]
  | .options, (l : List String) => Setting.ofOptions l
  | .rewrite, (v : RewriteMode) => [.rewrite v]
  | .compute, (v : ComputeMode) => [.computeMode v]
  | .remove, (v : TokenHighlighting) => [.remove v]
  | .force, (v : UseForce) => [.force v]
  | .whether, (b : Bool) => if b then [.whether] else []
  | .goal, (g : Goal) => g.settings
  | .expr, (e : String) => [.expr e]

def Arguments.settings : {l : List Slot} → Arguments l → List Setting
  | _, .nil => []
  | _, .cons (s := s) value rest => s.settings value ++ rest.settings

def Command.settings (c : Command) : List Setting := c.arguments.settings

/-- A value that some settings can give: no option has a comma, and a range is none or has
intervals, in the file whose ranges are read. -/
def Slot.Fits (full : String) : (s : Slot) → s.Value → Prop
  | .options, (l : List String) => ∀ o ∈ l, ',' ∉ o.toList
  | .goal, (g : Goal) => g.range = .noRange ∨ ∃ is, is ≠ [] ∧ g.range = .span (some full) is
  | _, _ => True

/-- Arguments that some settings can give. -/
def Arguments.Fits (full : String) : {l : List Slot} → Arguments l → Prop
  | _, .nil => True
  | _, .cons (s := s) value rest => s.Fits full value ∧ rest.Fits full

theorem Goal.sublist_flags (g : Goal) :
    (g.settings.map Setting.flag).Sublist [.interactionId, .place, .expr] := by
  obtain ⟨id, range, e⟩ := g
  cases range with
  | noRange => exact .cons_cons _ (.cons _ (List.Sublist.refl _))
  | span file is => exact List.Sublist.refl _

theorem Slot.sublist_flags (s : Slot) (v : s.Value) :
    ((s.settings v).map Setting.flag).Sublist s.flags := by
  cases s with
  | options =>
    cases (v : List String) with
    | nil => exact List.nil_sublist _
    | cons o r => exact List.Sublist.refl _
  | whether =>
    cases (v : Bool) with
    | false => exact List.nil_sublist _
    | true => exact List.Sublist.refl _
  | goal => exact Goal.sublist_flags v
  | _ => exact List.Sublist.refl _

theorem Arguments.sublist_flags {l : List Slot} (a : Arguments l) :
    (a.settings.map Setting.flag).Sublist (l.map Slot.flags).flatten := by
  induction a with
  | nil => exact List.Sublist.refl _
  | cons value rest ih =>
    rw [settings, List.map_append, List.map_cons, List.flatten_cons]
    exact (Slot.sublist_flags _ value).append ih

theorem Verb.nodup_flags (v : Verb) : (Flag.file :: v.flags).Nodup := by
  cases v <;> decide

theorem Goal.readsBack_of_mem_settings {g : Goal} {x : Setting} (hx : x ∈ g.settings) :
    x.ReadsBack := by
  obtain ⟨id, range, e⟩ := g
  rcases List.mem_cons.mp hx with rfl | hx
  · exact Setting.ReadsBack.interactionId id
  rcases List.mem_append.mp hx with hx | hx
  · cases range with
    | noRange => exact absurd hx List.not_mem_nil
    | span file is =>
      rw [List.mem_singleton.mp hx]
      exact rfl
  · rw [List.mem_singleton.mp hx]
    exact rfl

theorem Slot.readsBack_of_fits {full : String} {s : Slot} {v : s.Value} (h : s.Fits full v)
    {x : Setting} (hx : x ∈ s.settings v) : x.ReadsBack := by
  cases s with
  | file => exact absurd hx List.not_mem_nil
  | backend | rewrite | compute | remove | force =>
    rw [List.mem_singleton.mp hx]
    exact Setting.ReadsBack.readWord _ _ _
  | options =>
    cases (v : List String) with
    | nil => exact absurd hx List.not_mem_nil
    | cons o r =>
      rw [List.mem_singleton.mp hx]
      exact Setting.ReadsBack.cmds (by simp) h
  | whether =>
    cases (v : Bool) with
    | false => exact absurd hx List.not_mem_nil
    | true =>
      rw [List.mem_singleton.mp hx]
      exact fun _ => rfl
  | goal => exact Goal.readsBack_of_mem_settings hx
  | expr =>
    rw [List.mem_singleton.mp hx]
    exact rfl

theorem Arguments.readsBack_of_fits {full : String} {l : List Slot} {a : Arguments l}
    (h : a.Fits full) {x : Setting} (hx : x ∈ a.settings) : x.ReadsBack := by
  induction a with
  | nil => exact absurd hx List.not_mem_nil
  | cons value rest ih =>
    rcases List.mem_append.mp hx with hx | hx
    · exact Slot.readsBack_of_fits h.1 hx
    · exact ih h.2 hx

end AgdaConsole
