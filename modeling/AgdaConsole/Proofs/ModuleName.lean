import AgdaConsole.ModuleName
import Mathlib.Data.List.MinMax

namespace AgdaConsole.ModuleName

/-- The endings of a list that a name has. -/
def endingsOf (endings : List String) (name : String) : List String :=
  endings.filter fun e => e.toList.isSuffixOf name.toList

/-- A name without an ending, if there is one to take away. -/
def without (name : String) (ending : Option String) : String :=
  ((ending.bind fun e => dropEnd? e.toList name.toList).map String.ofList).getD name

/-- A name without the first ending of a list that it has. -/
def withoutFirst (endings : List String) (name : String) : String :=
  ((endings.findSome? fun e => dropEnd? e.toList name.toList).map String.ofList).getD name

/-- A name without the longest ending of a list that it has. -/
def withoutLongest (endings : List String) (name : String) : String :=
  without name ((endingsOf endings name).argmax String.length)

/-- Of two endings of a list, neither is at the end of the other. -/
def Apart (endings : List String) : Prop :=
  endings.Pairwise fun e e' => ¬ e.toList <:+ e'.toList ∧ ¬ e'.toList <:+ e.toList

theorem mem_endingsOf {endings : List String} {name e : String} :
    e ∈ endingsOf endings name ↔ e ∈ endings ∧ e.toList <:+ name.toList := by
  rw [endingsOf, List.mem_filter, List.isSuffixOf_iff_suffix]

theorem dropEnd?_append (s ending : List Char) : dropEnd? ending (s ++ ending) = some s := by
  have hend : ending.isSuffixOf (s ++ ending) = true :=
    List.isSuffixOf_iff_suffix.mpr (List.suffix_append s ending)
  rw [dropEnd?, if_pos hend, List.length_append, Nat.add_sub_cancel, List.take_left]

theorem without_append (s e : String) : without (s ++ e) (some e) = s := by
  rw [without, Option.bind_some, String.toList_append, dropEnd?_append, Option.map_some,
    String.ofList_toList, Option.getD_some]

/-- The first ending that can be taken away is the first that the name has. -/
theorem withoutFirst_eq (endings : List String) (name : String) :
    withoutFirst endings name = without name (endingsOf endings name).head? := by
  unfold withoutFirst without
  congr 2
  induction endings with
  | nil => rfl
  | cons e endings ih =>
    rw [List.findSome?_cons]
    by_cases hend : e.toList.isSuffixOf name.toList = true
    · have hfirst : endingsOf (e :: endings) name = e :: endingsOf endings name :=
        List.filter_cons_of_pos hend
      rw [hfirst, List.head?_cons, Option.bind_some, dropEnd?, if_pos hend]
    · have hrest : endingsOf (e :: endings) name = endingsOf endings name :=
        List.filter_cons_of_neg hend
      rw [hrest, dropEnd?, if_neg hend]
      exact ih

namespace Apart

variable {endings other : List String}

theorem perm (h : Apart endings) (hp : endings.Perm other) : Apart other :=
  (hp.pairwise_iff fun h => h.symm).mp h

theorem endingsOf_cases (h : Apart endings) (name : String) :
    endingsOf endings name = [] ∨ ∃ e, endingsOf endings name = [e] := by
  have hapart : Apart (endingsOf endings name) := h.filter _
  cases hl : endingsOf endings name with
  | nil => exact .inl rfl
  | cons e rest =>
    cases rest with
    | nil => exact .inr ⟨e, rfl⟩
    | cons e' rest =>
      have hends : ∀ x ∈ e :: e' :: rest, x.toList <:+ name.toList := by
        intro x hx
        rw [← hl] at hx
        exact (mem_endingsOf.mp hx).2
      have he := hends e (by simp)
      have he' := hends e' (by simp)
      rw [hl] at hapart
      obtain ⟨hne, hne'⟩ := (List.pairwise_cons.mp hapart).1 e' List.mem_cons_self
      -- Of two ends of one name, the shorter is at the end of the longer.
      rcases List.suffix_or_suffix_of_suffix he he' with hs | hs
      · exact absurd hs hne
      · exact absurd hs hne'

theorem length_endingsOf_le (h : Apart endings) (name : String) :
    (endingsOf endings name).length ≤ 1 := by
  rcases h.endingsOf_cases name with hnil | ⟨e, he⟩
  · rw [hnil]
    exact Nat.zero_le 1
  · rw [he]
    exact le_rfl

/-- A name has the same endings of a list in any order of it, since it has one at most. -/
theorem endingsOf_perm (h : Apart endings) (hp : other.Perm endings) (name : String) :
    endingsOf other name = endingsOf endings name := by
  have hperm : (endingsOf other name).Perm (endingsOf endings name) := hp.filter _
  rcases h.endingsOf_cases name with hnil | ⟨e, he⟩
  · rw [hnil] at hperm ⊢
    exact List.perm_nil.mp hperm
  · rw [he] at hperm ⊢
    exact List.perm_singleton.mp hperm

theorem withoutFirst_perm (h : Apart endings) (hp : other.Perm endings) (name : String) :
    withoutFirst other name = withoutFirst endings name := by
  rw [withoutFirst_eq, withoutFirst_eq, h.endingsOf_perm hp]

theorem withoutLongest_eq (h : Apart endings) (name : String) :
    withoutLongest endings name = withoutFirst endings name := by
  rw [withoutFirst_eq, withoutLongest]
  rcases h.endingsOf_cases name with hnil | ⟨e, he⟩
  · rw [hnil]
    rfl
  · rw [he]
    rfl

theorem endingsOf_append (h : Apart endings) {e : String} (he : e ∈ endings) (s : String) :
    endingsOf endings (s ++ e) = [e] := by
  have hmem : e ∈ endingsOf endings (s ++ e) := by
    rw [mem_endingsOf, String.toList_append]
    exact ⟨he, List.suffix_append _ _⟩
  rcases h.endingsOf_cases (s ++ e) with hnil | ⟨e', he'⟩
  · exact absurd hnil (List.ne_nil_of_mem hmem)
  · rw [he'] at hmem ⊢
    rw [List.mem_singleton.mp hmem]

theorem withoutFirst_append (h : Apart endings) {e : String} (he : e ∈ endings) (s : String) :
    withoutFirst endings (s ++ e) = s := by
  rw [withoutFirst_eq, h.endingsOf_append he, List.head?_cons, without_append]

end Apart

theorem apart_suffixes : Apart suffixes := by
  unfold Apart
  decide

theorem ofFileName_eq (name : String) : ofFileName name = withoutFirst suffixes name := rfl

/-- The ending of a file of Agda is taken off its name, and nothing else. -/
theorem ofFileName_append {e : String} (he : e ∈ suffixes) (s : String) :
    ofFileName (s ++ e) = s := apart_suffixes.withoutFirst_append he s

/-- A text is the name of a module and an ending in one way at most. -/
theorem append_inj {s s' e e' : String} (he : e ∈ suffixes) (he' : e' ∈ suffixes)
    (h : s ++ e = s' ++ e') : s = s' ∧ e = e' := by
  have hs : s = s' := by
    rw [← ofFileName_append he s, h, ofFileName_append he']
  subst hs
  exact ⟨rfl, (String.append_right_inj s).mp h⟩

theorem hasSuffix_iff {name : String} :
    hasSuffix name = true ↔ ∃ s, ∃ e ∈ suffixes, name = s ++ e := by
  rw [hasSuffix, List.any_eq_true]
  constructor
  · rintro ⟨e, he, hend⟩
    obtain ⟨s, hs⟩ := List.isSuffixOf_iff_suffix.mp hend
    refine ⟨String.ofList s, e, he, ?_⟩
    rw [← String.toList_inj, String.toList_append, String.toList_ofList, hs]
  · rintro ⟨s, e, he, rfl⟩
    refine ⟨e, he, List.isSuffixOf_iff_suffix.mpr ?_⟩
    rw [String.toList_append]
    exact List.suffix_append _ _

/-- The name of a file of Agda is that of its module and one ending. -/
theorem exists_ending {name : String} (h : hasSuffix name = true) :
    ∃ e ∈ suffixes, name = ofFileName name ++ e := by
  obtain ⟨s, e, he, rfl⟩ := hasSuffix_iff.mp h
  exact ⟨e, he, by rw [ofFileName_append he]⟩

theorem ofFileName_of_not_hasSuffix {name : String} (h : hasSuffix name = false) :
    ofFileName name = name := by
  have hnone : endingsOf suffixes name = [] := by
    refine List.filter_eq_nil_iff.mpr fun e he hend => ?_
    exact Bool.false_ne_true (h.symm.trans (List.any_eq_true.mpr ⟨e, he, hend⟩))
  rw [ofFileName_eq, withoutFirst_eq, hnone]
  rfl

theorem ne_empty_of_mem_suffixes {e : String} (he : e ∈ suffixes) : e ≠ "" := by
  rintro rfl
  exact absurd he (by decide)

theorem hasSuffix_iff_ofFileName_ne (name : String) :
    hasSuffix name = true ↔ ofFileName name ≠ name := by
  constructor
  · intro h heq
    obtain ⟨e, he, hname⟩ := exists_ending h
    rw [heq] at hname
    exact ne_empty_of_mem_suffixes he (String.append_eq_left_iff.mp hname.symm)
  · intro hne
    by_contra h
    exact hne (ofFileName_of_not_hasSuffix (Bool.eq_false_iff.mpr h))

/-- A name has one of the endings of files of Agda at most. So the name of the module is the same
in whatever order the endings are tried, and also if the longest is taken that fits. The name of a
file is that of its module exactly if it has none of the endings. Otherwise it is the name of the
module and one ending behind it, which is taken off once: what is in front of it stays, and may
itself have an ending. -/
theorem ending_choice_law (name : String) :
    (endingsOf suffixes name).length ≤ 1 ∧
    (∀ endings : List String, endings.Perm suffixes →
      withoutFirst endings name = ofFileName name ∧
        withoutLongest endings name = ofFileName name) ∧
    (hasSuffix name = true ↔ ofFileName name ≠ name) ∧
    (hasSuffix name = true → ∃! e, e ∈ suffixes ∧ name = ofFileName name ++ e) ∧
    ∀ e ∈ suffixes, ofFileName (name ++ e) = name ∧
      ∀ e' ∈ suffixes, ofFileName (name ++ e ++ e') = name ++ e ∧
        hasSuffix (ofFileName (name ++ e ++ e')) = true := by
  refine ⟨apart_suffixes.length_endingsOf_le name, fun endings hp => ?_,
    hasSuffix_iff_ofFileName_ne name, fun h => ?_, fun e he => ⟨ofFileName_append he name, ?_⟩⟩
  · have hfirst := apart_suffixes.withoutFirst_perm hp name
    have hapart : Apart endings := apart_suffixes.perm hp.symm
    exact ⟨hfirst, (hapart.withoutLongest_eq name).trans hfirst⟩
  · obtain ⟨e, he, hname⟩ := exists_ending h
    exact ⟨e, ⟨he, hname⟩, fun e' h' => (append_inj h'.1 he (h'.2.symm.trans hname)).2⟩
  · intro e' he'
    rw [ofFileName_append he' (name ++ e)]
    exact ⟨rfl, hasSuffix_iff.mpr ⟨name, e, he, rfl⟩⟩

theorem ending_choice_law_reversed :
    suffixes.reverse.Perm suffixes ∧ hasSuffix "A.agda.lagda.md" = true ∧
      ".lagda.md" ∈ suffixes ∧ ".agda" ∈ suffixes ∧
      withoutFirst suffixes.reverse "A.agda.lagda.md" = "A.agda" ∧
      withoutLongest suffixes.reverse "A.agda.lagda.md" = "A.agda" ∧
      (∃! e, e ∈ suffixes ∧ "A.agda.lagda.md" = "A.agda" ++ e) ∧
      ofFileName ("A" ++ ".agda" ++ ".lagda.md") = "A.agda" ∧ hasSuffix "A.agda" = true := by
  have hp : suffixes.reverse.Perm suffixes := List.reverse_perm suffixes
  have hends : hasSuffix "A.agda.lagda.md" = true := by decide
  have hlong : ".lagda.md" ∈ suffixes := by decide
  have hshort : ".agda" ∈ suffixes := by decide
  obtain ⟨-, -, -, -, honce⟩ := ending_choice_law "A"
  obtain ⟨hmodule, hagain⟩ := (honce ".agda" hshort).2 ".lagda.md" hlong
  have hname : ofFileName "A.agda.lagda.md" = "A.agda" := hmodule
  obtain ⟨-, horder, -, hunique, -⟩ := ending_choice_law "A.agda.lagda.md"
  obtain ⟨hfirst, hlongest⟩ := horder _ hp
  have hone := hunique hends
  rw [hname] at hone
  rw [hmodule] at hagain
  exact ⟨hp, hends, hlong, hshort, hfirst.trans hname, hlongest.trans hname, hone, hmodule, hagain⟩

end AgdaConsole.ModuleName
