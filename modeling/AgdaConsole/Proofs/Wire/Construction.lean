import AgdaConsole.Proofs.Wire.RoundTrip

namespace AgdaConsole

/-- The commands on a goal that look at a term. -/
def Verb.goalQueries : List String :=
  ["solveOne", "give", "infer", "elaborate_give", "goal_type_context_infer",
    "goal_type_context_check", "show_module_contents", "helper_function", "why_in_scope", "compute"]

/-- The commands on a file that look at a term. -/
def Verb.fileQueries : List String :=
  ["infer_toplevel", "compute_toplevel", "search_about_toplevel", "why_in_scope_toplevel"]

theorem Verb.demand_eq_target_iff (v : Verb) : v.demand = .target ↔ v.name ∈ goalQueries := by
  cases v <;> decide

theorem Verb.demand_eq_expression_iff (v : Verb) :
    v.demand = .expression ↔ v.name ∈ fileQueries := by
  cases v <;> decide

def Range.intervals : Range → List Interval
  | .noRange => []
  | .span _ is => is

theorem Range.isEmpty_iff {r : Range} : r.isEmpty = true ↔ r.intervals = [] := by
  cases r with
  | noRange => exact iff_of_true rfl rfl
  | span file is => exact List.isEmpty_iff

/-- A range is written as no range exactly when it has no intervals. -/
theorem Range.wire_eq_noRange_iff (r : Range) :
    r.wire = noRangeWord.toList ↔ r.intervals = [] := by
  match r with
  | .noRange | .span _ [] => exact iff_of_true rfl rfl
  | .span file (i :: is) =>
    refine iff_of_false (fun h => ?_) (List.cons_ne_nil i is)
    have hfirst : some '(' = noRangeWord.toList.head? := congrArg List.head? h
    exact absurd hfirst (by decide)

theorem Goal.isTargeted_iff {g : Goal} :
    g.isTargeted = true ↔ g.range.intervals ≠ [] ∨ blankText g.expr = false := by
  simp [isTargeted, ← Range.isEmpty_iff]

namespace Command

/-- A command has a goal with at least one interval or an expression that is not blank. -/
def HasTarget (c : Command) : Prop :=
  ∃ g, c.arguments.goal? = some g ∧ (g.range.intervals ≠ [] ∨ blankText g.expr = false)

/-- A command has an expression that is not blank. -/
def HasExpression (c : Command) : Prop :=
  ∃ e, c.arguments.expr? = some e ∧ blankText e = false

end Command

namespace Arguments

variable {l : List Slot}

theorem exists_goal (a : Arguments l) (h : Slot.goal ∈ l) : ∃ g, a.goal? = some g := by
  induction a with
  | nil => exact absurd h List.not_mem_nil
  | @cons s l value rest ih =>
    cases s with
    | goal => exact ⟨value, rfl⟩
    | _ => exact ih ((List.mem_cons.mp h).resolve_left (by decide))

theorem exists_expr (a : Arguments l) (h : Slot.expr ∈ l) : ∃ e, a.expr? = some e := by
  induction a with
  | nil => exact absurd h List.not_mem_nil
  | @cons s l value rest ih =>
    cases s with
    | expr => exact ⟨value, rfl⟩
    | _ => exact ih ((List.mem_cons.mp h).resolve_left (by decide))

end Arguments

namespace Command

variable {c : Command}

theorem isMet_of_target (h : c.verb.demand = .target) : c.isMet = true ↔ c.HasTarget := by
  have hgoal : Slot.goal ∈ c.verb.layout := by
    revert h
    cases c.verb <;> decide
  obtain ⟨g, hg⟩ := c.arguments.exists_goal hgoal
  simp [isMet, h, HasTarget, hg, Goal.isTargeted_iff]

theorem isMet_of_expression (h : c.verb.demand = .expression) :
    c.isMet = true ↔ c.HasExpression := by
  have hexpr : Slot.expr ∈ c.verb.layout := by
    revert h
    cases c.verb <;> decide
  obtain ⟨e, he⟩ := c.arguments.exists_expr hexpr
  simp [isMet, h, HasExpression, he]

theorem isMet_of_nothing (h : c.verb.demand = .nothing) : c.isMet = true := by
  rw [isMet, h]

/-- A command has what it demands when the commands of its name that look at a term have one. -/
theorem isMet_iff (c : Command) : c.isMet = true ↔
    (c.verb.name ∈ Verb.goalQueries → c.HasTarget) ∧
      (c.verb.name ∈ Verb.fileQueries → c.HasExpression) := by
  rw [← Verb.demand_eq_target_iff, ← Verb.demand_eq_expression_iff]
  cases hd : c.verb.demand with
  | nothing => exact iff_of_true (isMet_of_nothing hd) ⟨(nomatch ·), (nomatch ·)⟩
  | target =>
    rw [isMet_of_target hd]
    exact ⟨fun h => ⟨fun _ => h, (nomatch ·)⟩, fun h => h.1 rfl⟩
  | expression =>
    rw [isMet_of_expression hd]
    exact ⟨fun h => ⟨(nomatch ·), fun _ => h⟩, fun h => h.2 rfl⟩

end Command

namespace Slot

/-- An argument of one of these places is written as one of the fixed words. -/
theorem exists_word (file : String) {s : Slot} (hs : s ∈ [Slot.rewrite, .compute, .force])
    (v : s.Value) : ∃ w : String, w.toList.all isNameChar = true ∧ s.wire file v = w.toList := by
  cases s with
  | rewrite => exact ⟨_, Vocabulary.Lawful.all_isNameChar (α := RewriteMode) v, rfl⟩
  | compute => exact ⟨_, Vocabulary.Lawful.all_isNameChar (α := ComputeMode) v, rfl⟩
  | force => exact ⟨_, Vocabulary.Lawful.all_isNameChar (α := UseForce) v, rfl⟩
  | _ => exact absurd hs (by decide)

end Slot

/-- Arguments that end in a goal are written as fixed words and then the goal. -/
theorem Arguments.exists_wire_goal (file : String) {l : List Slot} (a : Arguments l) {g : Goal}
    (hlast : l.getLast? = some .goal)
    (hfront : ∀ s ∈ l.dropLast, s ∈ [Slot.rewrite, .compute, .force]) (hg : a.goal? = some g) :
    ∃ words : List String, (∀ w ∈ words, w.toList.all isNameChar = true) ∧
      a.wire file = (words.map fun w => ' ' :: w.toList).flatten ++ ' ' :: g.wire := by
  induction a with
  | nil => exact absurd hlast (by simp)
  | @cons s l value rest ih =>
    cases l with
    | nil =>
      obtain rfl : s = .goal := Option.some.inj hlast
      obtain rfl : value = g := Option.some.inj hg
      cases rest
      exact ⟨[], by simp, List.append_nil _⟩
    | cons t l =>
      rw [List.getLast?_cons_cons] at hlast
      rw [List.dropLast_cons_cons] at hfront
      have hs := hfront s List.mem_cons_self
      have hskip : (Arguments.cons value rest).goal? = rest.goal? := by
        cases s with
        | goal => exact absurd hs (by decide)
        | _ => rfl
      obtain ⟨words, hwords, hrest⟩ :=
        ih hlast (fun x hx => hfront x (List.mem_cons_of_mem s hx)) (hskip ▸ hg)
      obtain ⟨w, hw, hvalue⟩ := s.exists_word file hs value
      refine ⟨w :: words, List.forall_mem_cons.mpr ⟨hw, hwords⟩, ?_⟩
      rw [wire, hvalue, hrest, List.map_cons, List.flatten_cons, List.append_assoc]

theorem Verb.layout_of_target {v : Verb} (h : v.demand = .target) :
    v.layout.getLast? = some .goal ∧
      ∀ s ∈ v.layout.dropLast, s ∈ [Slot.rewrite, .compute, .force] := by
  revert h
  cases v <;> decide

/-- The name of the command that a fault carries. -/
def EnvelopeFault.command? : EnvelopeFault → Option String
  | .noFile => none
  | .noTarget v | .noExpression v => some v.name

namespace Envelope

/-- The line of an envelope up to the name of its command. -/
def head (e : Envelope) : List Char :=
  "IOTCM ".toList ++ Text.literal e.file.toList ++ [' '] ++
    e.command.verb.feedback.name.toList ++ " Indirect (Cmd_".toList

theorem toList_encode_eq (e : Envelope) : e.encode.toList =
    e.head ++ e.command.verb.name.toList ++ (e.command.arguments.wire e.file ++ [')']) := by
  unfold encode wire head
  simp only [String.toList_ofList, List.append_assoc]

/-- The line of an envelope has a name where that of the command stands, up to a space or a
closing parenthesis. -/
def Names (e : Envelope) (name : String) : Prop :=
  ∃ rest, e.encode.toList = e.head ++ name.toList ++ rest ∧
    rest.head?.any Reader.isStop = true

/-- The line of an envelope ends in a goal: behind the name of the command and some fixed words
stand the number of the goal, its range and its expression. -/
def EndsInGoal (e : Envelope) (g : Goal) : Prop :=
  ∃ words : List String, (∀ w ∈ words, w.toList.all isNameChar = true) ∧
    e.encode.toList = e.head ++ e.command.verb.name.toList ++
      (words.map fun w => ' ' :: w.toList).flatten ++ ' ' :: Text.decimal g.id.toNat ++
        ' ' :: g.range.wire ++ ' ' :: Text.literal g.expr.toList ++ [')']

theorem names_verb (e : Envelope) : e.Names e.command.verb.name :=
  ⟨_, e.toList_encode_eq, Reader.head?_wire e.file e.command.arguments []⟩

theorem make_eq_ok {file : String} {c : Command} (hf : blankText file = false)
    (hc : c.isMet = true) : make file c = .ok ⟨file, c, hf, hc⟩ := by
  rw [make, dif_pos hf, dif_pos hc]

theorem make_eq_error_iff {file : String} {c : Command} {fault : EnvelopeFault} :
    make file c = .error fault ↔
      blankText file = true ∧ fault = .noFile ∨
      blankText file = false ∧
        (c.verb.name ∈ Verb.goalQueries ∧ ¬ c.HasTarget ∧ fault = .noTarget c.verb ∨
          c.verb.name ∈ Verb.fileQueries ∧ ¬ c.HasExpression ∧
            fault = .noExpression c.verb) := by
  cases hf : blankText file with
  | true =>
    have hmake : make file c = .error .noFile := by
      rw [make, dif_neg (by simp [hf])]
    simp [hmake, eq_comm]
  | false =>
    rw [← Verb.demand_eq_target_iff, ← Verb.demand_eq_expression_iff]
    cases hd : c.verb.demand with
    | nothing =>
      simp [make_eq_ok hf (Command.isMet_of_nothing hd)]
    | target =>
      by_cases hc : c.isMet = true
      · simp [make_eq_ok hf hc, (Command.isMet_of_target hd).mp hc]
      · have hmake : make file c = .error (.noTarget c.verb) := by
          rw [make, dif_pos hf, dif_neg hc, if_pos hd]
        simp [hmake, mt (Command.isMet_of_target hd).mpr hc, eq_comm]
    | expression =>
      by_cases hc : c.isMet = true
      · simp [make_eq_ok hf hc, (Command.isMet_of_expression hd).mp hc]
      · have hmake : make file c = .error (.noExpression c.verb) := by
          rw [make, dif_pos hf, dif_neg hc, if_neg (by simp [hd])]
        simp [hmake, mt (Command.isMet_of_expression hd).mpr hc, eq_comm]

/-- The line of a command on a goal that looks at a term ends in the goal, and has no range only
together with an expression that is not blank. -/
theorem endsInGoal (e : Envelope) (h : e.command.verb.name ∈ Verb.goalQueries) :
    ∃ g, e.command.arguments.goal? = some g ∧ e.EndsInGoal g ∧
      (g.range.wire = Range.noRangeWord.toList → blankText g.expr = false) := by
  have hdemand := (Verb.demand_eq_target_iff _).mpr h
  obtain ⟨g, hg, htarget⟩ := (Command.isMet_of_target hdemand).mp e.command_met
  obtain ⟨hlast, hfront⟩ := Verb.layout_of_target hdemand
  obtain ⟨words, hwords, hwire⟩ :=
    e.command.arguments.exists_wire_goal e.file hlast hfront hg
  refine ⟨g, hg, ⟨words, hwords, ?_⟩, fun hrange => ?_⟩
  · rw [toList_encode_eq, hwire]
    simp only [Goal.wire, List.append_assoc, List.cons_append, List.nil_append]
  · exact htarget.resolve_left fun hne => hne ((Range.wire_eq_noRange_iff _).mp hrange)

/-- Exactly the commands that have what they need get into an envelope: the file is not blank, a
command on a goal that looks at a term has intervals or an expression, and one on a file has an
expression. A blank file is what is wrong whatever the command is, and another fault carries the
name that the line of an envelope has for the command. So a goal that stands on a line without a
range has an expression, and only a range without intervals is written as none. -/
theorem construction_law (file : String) (c : Command) :
    ((∃ e, make file c = .ok e ∧ e.file = file ∧ e.command = c) ↔
      blankText file = false ∧ (c.verb.name ∈ Verb.goalQueries → c.HasTarget) ∧
        (c.verb.name ∈ Verb.fileQueries → c.HasExpression)) ∧
    (∀ fault, make file c = .error fault ↔
      blankText file = true ∧ fault = .noFile ∨
      blankText file = false ∧
        (c.verb.name ∈ Verb.goalQueries ∧ ¬ c.HasTarget ∧ fault = .noTarget c.verb ∨
          c.verb.name ∈ Verb.fileQueries ∧ ¬ c.HasExpression ∧
            fault = .noExpression c.verb)) ∧
    (∀ fault, make file c = .error fault → fault ≠ .noFile →
      ∃ name, fault.command? = some name ∧
        ∀ e : Envelope, e.command.verb = c.verb → e.Names name) ∧
    (∀ e : Envelope, e.command.verb.name ∈ Verb.goalQueries →
      ∃ g, e.command.arguments.goal? = some g ∧ e.EndsInGoal g ∧
        (g.range.wire = Range.noRangeWord.toList → blankText g.expr = false)) ∧
    ∀ r : Range, r.wire = Range.noRangeWord.toList ↔ r.intervals = [] := by
  refine ⟨⟨?_, ?_⟩, fun fault => make_eq_error_iff, ?_, endsInGoal,
    Range.wire_eq_noRange_iff⟩
  · rintro ⟨e, -, rfl, rfl⟩
    exact ⟨e.file_named, (Command.isMet_iff _).mp e.command_met⟩
  · rintro ⟨hf, hc⟩
    exact ⟨_, make_eq_ok hf ((Command.isMet_iff c).mpr hc), rfl, rfl⟩
  · intro fault hfault hne
    rcases make_eq_error_iff.mp hfault with ⟨-, rfl⟩ | ⟨-, ⟨-, -, rfl⟩ | ⟨-, -, rfl⟩⟩
    · exact absurd rfl hne
    · exact ⟨c.verb.name, rfl, fun e he => he ▸ e.names_verb⟩
    · exact ⟨c.verb.name, rfl, fun e he => he ▸ e.names_verb⟩

theorem construction_law_whyInScope :
    let unseen : Command := .choose .whyInScope { range := .span (some "A") [], expr := " " }
    let seen : Command := .choose .whyInScope { range := .span (some "A") [], expr := "x" }
    make "A" unseen = .error (.noTarget .whyInScope) ∧
      (EnvelopeFault.noTarget .whyInScope).command? = some "why_in_scope" ∧
      ∃ e, make "A" seen = .ok e ∧ e.Names "why_in_scope" ∧
        e.EndsInGoal ⟨0, .span (some "A") [], "x"⟩ ∧ blankText "x" = false := by
  intro unseen seen
  have hquery : seen.verb.name ∈ Verb.goalQueries := by decide
  have hunseen : ¬ unseen.HasTarget := by
    rintro ⟨g, hg, htarget⟩
    obtain rfl := Option.some.inj hg
    exact absurd htarget (by decide)
  have hseen : seen.HasTarget := ⟨⟨0, .span (some "A") [], "x"⟩, rfl, by decide⟩
  obtain ⟨hmade, -, -, hgoal, -⟩ := construction_law "A" seen
  obtain ⟨e, he, -, hcommand⟩ :=
    hmade.mpr ⟨by decide, fun _ => hseen, fun h => absurd h (by decide)⟩
  have hverb : e.command.verb = unseen.verb := by rw [hcommand]; rfl
  obtain ⟨-, hrefused, hcarried, -⟩ := construction_law "A" unseen
  have hmake : make "A" unseen = .error (.noTarget .whyInScope) :=
    (hrefused _).mpr (.inr ⟨by decide, .inl ⟨hquery, hunseen, rfl⟩⟩)
  obtain ⟨name, hcommand?, hnames⟩ := hcarried _ hmake (by simp)
  obtain rfl : "why_in_scope" = name := Option.some.inj hcommand?
  obtain ⟨g, hg, hends, hexpr⟩ := hgoal e (by rw [hcommand]; exact hquery)
  rw [hcommand] at hg
  obtain rfl := Option.some.inj hg
  exact ⟨hmake, rfl, e, he, hnames e hverb, hends, hexpr rfl⟩

end Envelope

end AgdaConsole
