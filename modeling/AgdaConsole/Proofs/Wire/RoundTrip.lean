import AgdaConsole.Proofs.Spelling
import AgdaConsole.Proofs.Wire.Reader

namespace AgdaConsole

/-- A span without intervals is no range. -/
def Range.collapse : Range → Range
  | .span _ [] => .noRange
  | r => r

def Goal.collapse (g : Goal) : Goal := { g with range := g.range.collapse }

def Slot.collapse : (s : Slot) → s.Value → s.Value
  | .goal, (g : Goal) => g.collapse
  | .file, v | .backend, v | .options, v | .rewrite, v | .compute, v | .remove, v | .force, v
  | .whether, v | .expr, v => v

def Arguments.collapse : {l : List Slot} → Arguments l → Arguments l
  | _, .nil => .nil
  | _, .cons (s := s) value rest => .cons (s.collapse value) rest.collapse

/-- A command with no range in place of a span without intervals. -/
def Command.collapse (c : Command) : Command := ⟨c.verb, c.arguments.collapse⟩

theorem Goal.collapse_eq_or (g : Goal) : g.collapse = g ∨ ∃ f, g.range = .span f [] := by
  obtain ⟨id, range, expr⟩ := g
  match range with
  | .noRange | .span _ (_ :: _) => exact Or.inl rfl
  | .span f [] => exact Or.inr ⟨f, rfl⟩

theorem Arguments.collapse_of_not_mem {l : List Slot} (a : Arguments l) (h : Slot.goal ∉ l) :
    a.collapse = a := by
  induction a with
  | nil => rfl
  | @cons s l value rest ih =>
    have hs : s ≠ .goal := fun e => h (by simp [e])
    have hvalue : s.collapse value = value := by
      cases s with
      | goal => exact absurd rfl hs
      | file | backend | options | rewrite | compute | remove | force | whether | expr => rfl
    rw [collapse, hvalue, ih fun hm => h (List.mem_cons_of_mem s hm)]

theorem Arguments.collapse_eq_or {l : List Slot} (a : Arguments l) (h : l.count .goal ≤ 1) :
    a.collapse = a ∨ ∃ g f, a.goal? = some g ∧ g.range = .span f [] := by
  induction a with
  | nil => exact Or.inl rfl
  | @cons s l value rest ih =>
    cases s with
    | goal =>
      have hrest : rest.collapse = rest := by
        refine rest.collapse_of_not_mem fun hm => ?_
        have := List.count_pos_iff.mpr hm
        rw [List.count_cons_self] at h
        omega
      rcases Goal.collapse_eq_or value with hvalue | ⟨f, hf⟩
      · exact Or.inl (congrArg₂ Arguments.cons hvalue hrest)
      · exact Or.inr ⟨value, f, rfl, hf⟩
    | file | backend | options | rewrite | compute | remove | force | whether | expr =>
      rcases ih h with hc | hg
      · exact Or.inl (congrArg (Arguments.cons value) hc)
      · exact Or.inr hg

theorem Command.collapse_eq_or (c : Command) :
    c.collapse = c ∨ ∃ g f, c.arguments.goal? = some g ∧ g.range = .span f [] := by
  have hcount : c.verb.layout.count .goal ≤ 1 := by cases c.verb <;> decide
  rcases c.arguments.collapse_eq_or hcount with hc | hg
  · exact Or.inl (congrArg (Command.mk c.verb) hc)
  · exact Or.inr hg

namespace Reader

theorem dropPrefix?_append (w t : List Char) : (w ++ t).dropPrefix? w = some t :=
  List.dropPrefix?_append_of_beq t (by simp)

theorem dropPrefix?_cons (c : Char) (t : List Char) : (c :: t).dropPrefix? [c] = some t :=
  dropPrefix?_append [c] t

/-- What is written for values one after the other is read as these values. -/
theorem many_flatten {α : Type} {read : Reader α} {write : α → List Char}
    (hread : ∀ a t, read (write a ++ t) = some (a, t)) (hne : ∀ a, write a ≠ [])
    {t : List Char} (ht : read t = none) (as : List α) :
    many read ((as.map write).flatten ++ t) = (as, t) := by
  induction as with
  | nil => simp [many, ht]
  | cons a as ih =>
    have hlength : ((as.map write).flatten ++ t).length <
        (write a ++ ((as.map write).flatten ++ t)).length := by
      have := List.length_pos_iff.mpr (hne a)
      simp only [List.length_append]
      omega
    rw [List.map_cons, List.flatten_cons, List.append_assoc, many, hread]
    simp only [if_pos hlength, ih]

theorem isStop_of_isNameChar {c : Char} (hc : isNameChar c = true) : isStop c = false := by
  cases hs : isStop c with
  | false => rfl
  | true =>
    rcases Bool.or_eq_true _ _ |>.mp hs with h | h <;>
      simp [beq_iff_eq.mp h, isNameChar] at hc

theorem word_append {w : String} (hw : w.toList.all isNameChar = true) {t : List Char}
    (ht : t.head?.any isStop = true) : word (w.toList ++ t) = (w, t) := by
  have hplain : ∀ c ∈ w.toList, (!isStop c) = true := fun c hc => by
    rw [isStop_of_isNameChar (List.all_eq_true.mp hw c hc)]
    rfl
  have hstop : t.head?.any (fun c => !isStop c) = false := by
    cases t with
    | nil => rfl
    | cons d t => simpa using ht
  simp [word, Text.takeWhile_append_stop hplain hstop, Text.dropWhile_append_stop hplain hstop]

theorem string_literal (x : String) (t : List Char) :
    string (Text.literal x.toList ++ t) = some (x, t) := by
  simp [string, Text.readLiteral_literal]

theorem number_decimal (n : UInt32) {t : List Char} (ht : t.head?.any Text.isDecimal = false) :
    number (Text.decimal n.toNat ++ t) = some (n, t) := by
  have hdigit : ∀ c ∈ Text.decimal n.toNat, Text.isDecimal c = true :=
    fun c hc => Text.isDecimal_of_mem_decimal hc
  simp [number, Text.takeWhile_append_stop hdigit ht, Text.dropWhile_append_stop hdigit ht,
    Text.readWord_decimal]

theorem spelled_spelling {α : Type} [Vocabulary α] [Vocabulary.Lawful α] (a : α) {t : List Char}
    (ht : t.head?.any isStop = true) :
    spelled ((Vocabulary.spelling a).toList ++ t) = some (a, t) := by
  have hword := word_append (Vocabulary.Lawful.all_isNameChar a) ht
  simp [spelled, hword, Vocabulary.Lawful.readSpelling_spelling]

theorem bool_spellBool (b : Bool) {t : List Char} (ht : t.head?.any isStop = true) :
    bool ((spellBool b).toList ++ t) = some (b, t) := by
  have hword := word_append (w := spellBool b) (by cases b <;> decide) ht
  have hfind : [true, false].find? (fun d => spellBool d == spellBool b) = some b := by
    cases b <;> rfl
  simp [bool, hword, hfind]

theorem strings_wireList (l : List String) (t : List Char) :
    strings (wireList l ++ t) = some (l, t) := by
  cases l with
  | nil => rfl
  | cons x r =>
    have hread : ∀ (y : String) (t : List Char),
        nextString ((' ' :: Text.literal y.toList) ++ t) = some (y, t) := fun y t => by
      rw [nextString, List.cons_append, dropPrefix?_cons, Option.bind_some, string_literal]
    have hmany : many nextString
        ((r.map fun y => ' ' :: Text.literal y.toList).flatten ++ ']' :: t) = (r, ']' :: t) :=
      many_flatten hread (by simp) rfl r
    have hwire : wireList (x :: r) ++ t = '[' :: (Text.literal x.toList ++
        ((r.map fun y => ' ' :: Text.literal y.toList).flatten ++ ']' :: t)) := by
      simp [wireList]
    have hstrings : ∀ u, strings ('[' :: (Text.literal x.toList ++ u)) =
        stringsFrom (Text.literal x.toList ++ u) := fun u => rfl
    rw [hwire, hstrings, stringsFrom, string_literal]
    simp [hmany, dropPrefix?_cons]

theorem position_wire (p : Position) (t : List Char) : position (p.wire ++ t) = some (p, t) := by
  have hspace : ∀ s, (' ' :: s).head?.any Text.isDecimal = false := fun s => rfl
  have hend : (" )".toList ++ t).head?.any Text.isDecimal = false := by simp [Text.isDecimal]
  unfold position Position.wire
  simp only [List.append_assoc, List.cons_append, List.nil_append, dropPrefix?_append,
    dropPrefix?_cons, number_decimal _ (hspace _), number_decimal _ hend, Option.bind_eq_bind,
    Option.bind_some, Option.pure_def]

theorem interval_wire (i : Interval) (t : List Char) : interval (i.wire ++ t) = some (i, t) := by
  unfold interval Interval.wire
  simp only [List.append_assoc, List.cons_append, List.nil_append, dropPrefix?_append,
    dropPrefix?_cons, position_wire, Option.bind_eq_bind, Option.bind_some, Option.pure_def]

theorem rangeFile_wireFile (f : Option String) (t : List Char) :
    rangeFile (Range.wireFile f ++ t) = some (f, t) := by
  cases f with
  | none =>
    unfold rangeFile Range.wireFile
    simp only [dropPrefix?_append]
  | some f =>
    have hnone : ∀ s, ("(Just (mkAbsolute ".toList ++ s).dropPrefix? "Nothing".toList = none :=
      fun s => rfl
    unfold rangeFile Range.wireFile
    simp only [List.append_assoc, hnone, dropPrefix?_append, string_literal, Option.bind_eq_bind,
      Option.bind_some, Option.pure_def]

theorem range_wire (r : Range) (t : List Char) : range (r.wire ++ t) = some (r.collapse, t) := by
  have hno : range (Range.noRangeWord.toList ++ t) = some (.noRange, t) := by
    unfold range
    simp only [dropPrefix?_append]
  match r with
  | .noRange => exact hno
  | .span _ [] => exact hno
  | .span f (i :: is) =>
    have hnone : ∀ s,
        ("(intervalsToRange ".toList ++ s).dropPrefix? Range.noRangeWord.toList = none :=
      fun s => rfl
    have hne : ∀ i : Interval, i.wire ≠ [] := by
      intro i
      unfold Interval.wire
      simp
    have hmany : many interval (((i :: is).map Interval.wire).flatten ++ ("])".toList ++ t)) =
        (i :: is, "])".toList ++ t) :=
      many_flatten interval_wire hne rfl (i :: is)
    unfold range Range.wire
    simp only [List.append_assoc, hnone, dropPrefix?_append, rangeFile_wireFile, hmany,
      Option.bind_eq_bind, Option.bind_some, Option.pure_def]
    rfl

theorem goal_wire (g : Goal) (t : List Char) : goal (g.wire ++ t) = some (g.collapse, t) := by
  have hspace : ∀ s, (' ' :: s).head?.any Text.isDecimal = false := fun s => rfl
  unfold goal Goal.wire
  simp only [List.append_assoc, List.cons_append, List.nil_append, dropPrefix?_cons,
    number_decimal _ (hspace _), range_wire, string_literal, Option.bind_eq_bind,
    Option.bind_some, Option.pure_def]
  rfl

/-- An argument is read back as it is, up to spans without intervals. -/
theorem argument_wire (file : String) (s : Slot) (v : s.Value) {t : List Char}
    (ht : t.head?.any isStop = true) :
    argument file s (s.wire file v ++ t) = some (s.collapse v, t) := by
  cases s with
  | file =>
    unfold argument Slot.wire
    simp only [string_literal, Option.bind_eq_bind, Option.bind_some, if_true, Option.pure_def]
    rfl
  | backend => exact spelled_spelling (α := CompileBackend) v ht
  | options => exact strings_wireList v t
  | rewrite => exact spelled_spelling (α := RewriteMode) v ht
  | compute => exact spelled_spelling (α := ComputeMode) v ht
  | remove => exact spelled_spelling (α := TokenHighlighting) v ht
  | force => exact spelled_spelling (α := UseForce) v ht
  | whether => exact bool_spellBool v ht
  | goal => exact goal_wire v t
  | expr => exact string_literal v t

/-- The text of arguments and a closing parenthesis starts with a character that ends words. -/
theorem head?_wire (file : String) {l : List Slot} (a : Arguments l) (t : List Char) :
    (a.wire file ++ ')' :: t).head?.any isStop = true := by
  cases a <;> rfl

theorem arguments_wire (file : String) {l : List Slot} (a : Arguments l) (t : List Char) :
    arguments file l (a.wire file ++ ')' :: t) = some (a.collapse, ')' :: t) := by
  induction a with
  | nil => rfl
  | cons value rest ih =>
    unfold arguments Arguments.wire
    simp only [List.append_assoc, List.cons_append, dropPrefix?_cons,
      argument_wire file _ value (head?_wire file rest t), ih, Option.bind_eq_bind,
      Option.bind_some, Option.pure_def]
    rfl

end Reader

namespace Envelope

theorem decode_encode (e : Envelope) : decode e.encode = some (e.file, e.command.collapse) := by
  have hfeedback : e.command.verb.feedback.name.toList.all isNameChar = true := by
    cases e.command.verb.feedback <;> decide
  have hverb := Verb.all_isNameChar_name e.command.verb
  have hword : ∀ s, Reader.word (e.command.verb.feedback.name.toList ++
      (" Indirect (Cmd_".toList ++ s)) =
        (e.command.verb.feedback.name, " Indirect (Cmd_".toList ++ s) :=
    fun s => Reader.word_append hfeedback rfl
  have hname := Reader.word_append hverb (Reader.head?_wire e.file e.command.arguments [])
  unfold decode encode wire
  simp only [String.toList_ofList, List.append_assoc, Reader.dropPrefix?_append,
    Reader.string_literal, hword, hname, Verb.ofName?_name, Reader.arguments_wire,
    Option.bind_eq_bind, Option.bind_some, Option.pure_def, and_self, if_true]
  rfl

end Envelope

theorem Range.wire_collapse (r : Range) : r.collapse.wire = r.wire := by
  match r with
  | .noRange | .span _ [] | .span _ (_ :: _) => rfl

theorem Slot.wire_collapse (file : String) (s : Slot) (v : s.Value) :
    s.wire file (s.collapse v) = s.wire file v := by
  cases s with
  | goal =>
    have hrange := Range.wire_collapse (v : Goal).range
    unfold Slot.wire Slot.collapse Goal.collapse Goal.wire
    simp only [hrange]
  | file | backend | options | rewrite | compute | remove | force | whether | expr => rfl

theorem Arguments.wire_collapse (file : String) {l : List Slot} (a : Arguments l) :
    a.collapse.wire file = a.wire file := by
  induction a with
  | nil => rfl
  | cons value rest ih => rw [collapse, wire, wire, ih, Slot.wire_collapse]

namespace Envelope

theorem wire_eq_collapse (e : Envelope) : e.wire =
    "IOTCM ".toList ++ Text.literal e.file.toList ++ [' '] ++
      e.command.collapse.verb.feedback.name.toList ++ " Indirect (Cmd_".toList ++
      e.command.collapse.verb.name.toList ++ e.command.collapse.arguments.wire e.file ++
      [')'] := by
  unfold wire Command.collapse
  rw [Arguments.wire_collapse]

/-- The line of an envelope does not tell a span without intervals from no range. -/
theorem encode_eq_of_collapse {e e' : Envelope} (hf : e.file = e'.file)
    (hc : e.command.collapse = e'.command.collapse) : e.encode = e'.encode := by
  rw [encode, encode, wire_eq_collapse, wire_eq_collapse e', hf, hc]

end Envelope

end AgdaConsole
