import AgdaConsole.Proofs.Text.Pieces
import AgdaConsole.Proofs.Wire.RoundTrip

namespace AgdaConsole

/-- A text without control characters. -/
def Text.Clean (s : List Char) : Prop := ∀ c ∈ s, Text.isControl c = false

namespace Text.Clean

theorem of_all {s : List Char} (h : s.all fun c => !isControl c) : Clean s := fun c hc => by
  simpa using List.all_eq_true.mp h c hc

theorem append {s t : List Char} (hs : Clean s) (ht : Clean t) : Clean (s ++ t) := fun c hc =>
  (List.mem_append.mp hc).elim (hs c) (ht c)

theorem cons {c : Char} {s : List Char} (hc : isControl c = false) (hs : Clean s) :
    Clean (c :: s) := append (s := [c]) (by simpa [Clean] using hc) hs

theorem of_all_isNameChar {s : List Char} (h : s.all isNameChar = true) : Clean s := fun c hc => by
  obtain ⟨hlo, hhi⟩ := bounds_of_isNameChar (List.all_eq_true.mp h c hc)
  simp only [isControl, Bool.or_eq_false_iff, decide_eq_false_iff_not, beq_eq_false_iff_ne]
  omega

theorem decimal (n : Nat) : Clean (decimal n) := fun _ hc =>
  isControl_of_isDecimal (isDecimal_of_mem_decimal hc)

theorem literal (s : List Char) : Clean (literal s) := fun _ hc => isControl_of_mem_literal hc

theorem flatten_map {α : Type} {write : α → List Char} (h : ∀ a, Clean (write a)) (as : List α) :
    Clean (as.map write).flatten := fun c hc => by
  obtain ⟨w, hw, hc⟩ := List.mem_flatten.mp hc
  obtain ⟨a, _, rfl⟩ := List.mem_map.mp hw
  exact h a c hc

theorem spelling {α : Type} [Vocabulary α] [Vocabulary.Lawful α] (a : α) :
    Clean (Vocabulary.spelling a).toList := of_all_isNameChar (Vocabulary.Lawful.all_isNameChar a)

theorem wireList (l : List String) : Clean (wireList l) := by
  cases l with
  | nil => exact of_all rfl
  | cons x r =>
    have hrest : Clean (r.map fun y => ' ' :: Text.literal y.toList).flatten :=
      flatten_map (fun y => cons rfl (literal y.toList)) r
    exact append (append (cons rfl (literal x.toList)) hrest) (of_all rfl)

theorem position (p : Position) : Clean p.wire := by
  have hspace : Clean [' '] := of_all rfl
  have hopen : Clean "(Pn () ".toList := of_all rfl
  have hclose : Clean " )".toList := of_all rfl
  unfold Position.wire
  exact (((((hopen.append (decimal _)).append hspace).append (decimal _)).append hspace).append
    (decimal _)).append hclose

theorem interval (i : Interval) : Clean i.wire := by
  have hspace : Clean [' '] := of_all rfl
  have hword : Clean "Interval  ".toList := of_all rfl
  unfold Interval.wire
  exact (((hword.append (position _)).append hspace).append (position _)).append hspace

theorem rangeFile (f : Option String) : Clean (Range.wireFile f) := by
  cases f with
  | none => exact of_all rfl
  | some f =>
    have hopen : Clean "(Just (mkAbsolute ".toList := of_all rfl
    have hclose : Clean "))".toList := of_all rfl
    unfold Range.wireFile
    exact (hopen.append (literal _)).append hclose

theorem range (r : Range) : Clean r.wire := by
  have hno : Clean Range.noRangeWord.toList := of_all rfl
  match r with
  | .noRange | .span _ [] => exact hno
  | .span f (i :: is) =>
    have hopen : Clean "(intervalsToRange ".toList := of_all rfl
    have hlist : Clean " [".toList := of_all rfl
    have hclose : Clean "])".toList := of_all rfl
    unfold Range.wire
    exact (((hopen.append (rangeFile f)).append hlist).append
      (flatten_map interval (i :: is))).append hclose

theorem goal (g : Goal) : Clean g.wire := by
  have hspace : Clean [' '] := of_all rfl
  unfold Goal.wire
  exact ((((decimal _).append hspace).append (range _)).append hspace).append (literal _)

theorem argument (file : String) (s : Slot) (v : s.Value) : Clean (s.wire file v) := by
  cases s with
  | file => exact literal _
  | backend => exact spelling (α := CompileBackend) v
  | options => exact wireList v
  | rewrite => exact spelling (α := RewriteMode) v
  | compute => exact spelling (α := ComputeMode) v
  | remove => exact spelling (α := TokenHighlighting) v
  | force => exact spelling (α := UseForce) v
  | whether =>
    have hword : ∀ b, (spellBool b).toList.all isNameChar = true := by decide
    exact of_all_isNameChar (hword v)
  | goal => exact goal v
  | expr => exact literal _

theorem arguments (file : String) {l : List Slot} (a : Arguments l) : Clean (a.wire file) := by
  induction a with
  | nil => simp [Clean, Arguments.wire]
  | cons value rest ih => exact append (cons rfl (argument file _ value)) ih

theorem envelope (e : Envelope) : Clean e.wire := by
  have hspace : Clean [' '] := of_all rfl
  have hopen : Clean "IOTCM ".toList := of_all rfl
  have hmiddle : Clean " Indirect (Cmd_".toList := of_all rfl
  have hclose : Clean [')'] := of_all rfl
  have hfeedback : Clean e.command.verb.feedback.name.toList := by
    refine of_all_isNameChar ?_
    cases e.command.verb.feedback <;> decide
  have hname : Clean e.command.verb.name.toList :=
    of_all_isNameChar e.command.verb.all_isNameChar_name
  unfold Envelope.wire
  exact ((((((hopen.append (literal _)).append hspace).append hfeedback).append hmiddle).append
    hname).append (arguments e.file _)).append hclose

end Text.Clean

namespace Envelope

theorem encode_eq_iff (e e' : Envelope) : e.encode = e'.encode ↔
    e.file = e'.file ∧ e.command.collapse = e'.command.collapse := by
  constructor
  · intro h
    have hread := decode_encode e
    rw [h, decode_encode e'] at hread
    obtain ⟨hf, hc⟩ := Prod.mk.inj (Option.some.inj hread)
    exact ⟨hf.symm, hc.symm⟩
  · rintro ⟨hf, hc⟩
    exact encode_eq_of_collapse hf hc

theorem toList_encode (e : Envelope) : e.encode.toList = e.wire := String.toList_ofList

/-- Every envelope is read back from its line, where only a span without intervals is lost. Two
envelopes have one line exactly when they agree up to that. A line has no control character and
is one line. -/
theorem encode_decodable (e e' : Envelope) :
    decode e.encode = some (e.file, e.command.collapse) ∧
      (e.command.collapse = e.command ∨
        ∃ g f, e.command.arguments.goal? = some g ∧ g.range = .span f []) ∧
      (e.encode = e'.encode ↔
        e.file = e'.file ∧ e.command.collapse = e'.command.collapse) ∧
      e.encode.toList.any Text.isControl = false ∧
      Text.linesOf e.encode.toList = [e.encode.toList] := by
  have hclean := Text.Clean.envelope e
  have hany : e.wire.any Text.isControl = false := by
    simpa [List.any_eq_false, Text.Clean] using hclean
  have hne : e.wire ≠ [] := by
    unfold wire
    simp
  have hline : '\n' ∉ e.wire := fun hn => absurd (hclean _ hn) (by decide)
  rw [toList_encode]
  exact ⟨decode_encode e, e.command.collapse_eq_or, encode_eq_iff e e', hany,
    Text.linesOf_of_not_mem hne hline⟩

end Envelope

end AgdaConsole
