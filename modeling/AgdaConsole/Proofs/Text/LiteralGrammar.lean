import AgdaConsole.Proofs.Text.LiteralReader

namespace AgdaConsole.Text

/-- How a code is written after a backslash. -/
inductive Radix
  | decimal
  | octal
  | hexadecimal

namespace Radix

def mark : Radix → List Char
  | .decimal => []
  | .octal => ['o']
  | .hexadecimal => ['x']

def base : Radix → Nat
  | .decimal => 10
  | .octal => 8
  | .hexadecimal => 16

def value? : Radix → Char → Option Nat
  | .decimal => digitValue?
  | .octal => octalValue?
  | .hexadecimal => hexValue?

/-- The number that some digits write. -/
def code (x : Radix) (digits : List Char) : Nat :=
  digits.foldl (fun n c => x.base * n + (x.value? c).getD 0) 0

end Radix

/-- An item between the quotes of a string literal of Haskell, with the code of the character that
it stands for. The empty escape and a gap stand for none, and a character beyond ASCII stands for
itself, even if it is a digit of another script. -/
inductive Item : List Char → Option Nat → Prop
  | plain {c : Char} (hquote : c ≠ '"') (hslash : c ≠ '\\') (hcontrol : isControl c = false) :
    Item [c] (some c.toNat)
  | letter {c d : Char} (h : letterEscape? c = some d) : Item ['\\', c] (some d.toNat)
  | control {c : Char} (h : '@' ≤ c ∧ c ≤ '_') : Item ['\\', '^', c] (some (c.toNat - 64))
  | name {n : String} {code : Nat} (h : (n, code) ∈ codeNames) :
    Item ('\\' :: n.toList) (some code)
  | numeral (x : Radix) {digits : List Char} (hne : digits ≠ [])
    (hdigits : ∀ d ∈ digits, (x.value? d).isSome = true) :
    Item ('\\' :: x.mark ++ digits) (some (x.code digits))
  | empty : Item ['\\', '&'] none
  | gap {c : Char} {blanks : List Char} (h : ∀ b ∈ c :: blanks, isBlank b = true) :
    Item ('\\' :: c :: blanks ++ ['\\']) none

/-- An item stands in front of a text: with the text, nothing longer is an item. -/
structure Item.Before (w : List Char) (code : Option Nat) (s : List Char) : Prop where
  item : Item w code
  longest : ∀ v n, Item v n → v <+: w ++ s → v.length ≤ w.length

/-- A text from behind the first quote of a string literal has some codes up to the last quote, and
a text after it. Each item is as long as it can be. -/
inductive Lexes : List Char → List Nat → List Char → Prop
  | close (t : List Char) : Lexes ('"' :: t) [] t
  | item {w s t : List Char} {code : Option Nat} {codes : List Nat} (h : Item.Before w code s)
    (hcode : ∀ n ∈ code, n ≤ 0x10FFFF) (hrest : Lexes s codes t) :
    Lexes (w ++ s) (code.toList ++ codes) t

/-- A text starts with a string literal that has some codes, and a text after it. -/
def LexesLiteral (s : List Char) (codes : List Nat) (t : List Char) : Prop :=
  ∃ body, s = '"' :: body ∧ Lexes body codes t

theorem toNat_ofNat_of_isValidChar {n : Nat} (h : n.isValidChar) : (Char.ofNat n).toNat = n := by
  rw [Char.ofNat, dif_pos h]
  rfl

theorem toNat_le (c : Char) : c.toNat ≤ 0x10FFFF := by
  rcases c.valid with h | ⟨-, h⟩
  · exact Nat.le_of_lt (Nat.lt_trans h (by decide))
  · exact Nat.le_of_lt_succ h

/-- What a reader makes of an item, by the code of its character. -/
def reading (code : Option Nat) (s : List Char) : Option (Option Char × List Char) :=
  match code with
  | none => some (none, s)
  | some n => if n.isValidChar then some (some (Char.ofNat n), s) else none

theorem reading_toNat (c : Char) (s : List Char) :
    reading (some c.toNat) s = some (some c, s) := by
  have hvalid : c.toNat.isValidChar := c.valid
  rw [reading, if_pos hvalid, Char.ofNat_toNat]

theorem reading_eq_some_iff {code : Option Nat} {s r : List Char} {c : Option Char} :
    reading code s = some (c, r) ↔ code = c.map Char.toNat ∧ s = r := by
  cases code with
  | none => cases c <;> simp [reading]
  | some n =>
    by_cases hn : n.isValidChar
    · rw [reading, if_pos hn]
      cases c with
      | none => simp
      | some c =>
        rw [← toNat_ofNat_of_isValidChar hn]
        simp [Char.toNat_inj]
    · rw [reading, if_neg hn]
      cases c with
      | none => simp
      | some c =>
        refine iff_of_false (by simp) fun h => hn ?_
        rw [Option.some.inj h.1]
        exact c.valid

/-- No name starts with one that comes before it. -/
theorem codeNames_pairwise :
    codeNames.Pairwise fun x y => ¬ x.1.toList <+: y.1.toList := by decide

theorem isValidChar_of_mem_codeNames {n : String} {code : Nat} (h : (n, code) ∈ codeNames) :
    code.isValidChar := by
  have hall : ∀ x ∈ codeNames, x.2.isValidChar := by decide
  exact hall _ h

theorem isUpper_of_mem_codeNames {n : String} {code : Nat} (h : (n, code) ∈ codeNames) :
    ∃ c s, n.toList = c :: s ∧ c.isUpper = true := by
  have hall : ∀ x ∈ codeNames, x.1.toList.head?.any Char.isUpper = true := by decide
  have hn := hall _ h
  cases hs : n.toList with
  | nil => simp [hs] at hn
  | cons c s => exact ⟨c, s, rfl, by simpa [hs] using hn⟩

theorem readEscape_of_isUpper {c : Char} (hc : c.isUpper = true) (s : List Char) :
    readEscape (c :: s) = readCodeName (c :: s) := by
  have hrange : 65 ≤ c.toNat ∧ c.toNat ≤ 90 := by
    have h : 'A'.val ≤ c.val ∧ c.val ≤ 'Z'.val := of_decide_eq_true hc
    rwa [UInt32.le_iff_toNat_le, UInt32.le_iff_toNat_le] at h
  have hdecimal : isDecimal c = false := by
    rw [Bool.eq_false_iff, Ne, isDecimal_iff]
    omega
  have hblank : isBlank c = false := by
    rw [Bool.eq_false_iff, Ne]
    simp only [isBlank, Bool.or_eq_true, Bool.and_eq_true, decide_eq_true_eq, beq_iff_eq]
    omega
  have hletter : letterEscape? c = none := by
    unfold letterEscape?
    split
    all_goals first | rfl | exact absurd hc (by decide)
  rw [readEscape_of_unmarked rfl hc, hdecimal, hblank, hletter]
  rfl

theorem readEscape_of_isBlank {c : Char} (hc : isBlank c = true) (s : List Char) :
    readEscape (c :: s) = readGap s := by
  have hdecimal : isDecimal c = false := by
    rw [Bool.eq_false_iff, Ne, isDecimal_iff]
    simp only [isBlank, Bool.or_eq_true, Bool.and_eq_true, decide_eq_true_eq, beq_iff_eq] at hc
    omega
  rw [readEscape_of_unmarked rfl hc, hdecimal, if_pos hc]
  rfl

theorem readEscape_of_letterEscape? {c d : Char} (h : letterEscape? c = some d) (s : List Char) :
    readEscape (c :: s) = some (some d, s) := by
  unfold letterEscape? at h
  split at h
  all_goals first | (rw [← Option.some.inj h]; rfl) | exact absurd h (by simp)

namespace Item.Before

variable {w s : List Char}

theorem readCodeName_eq {n : String} {code : Nat} (hn : (n, code) ∈ codeNames)
    (h : Before ('\\' :: n.toList) (some code) s) :
    readCodeName (n.toList ++ s) = some (some (Char.ofNat code), s) := by
  obtain ⟨before, after, hsplit⟩ := List.append_of_mem hn
  refine List.findSome?_eq_some_iff.mpr ⟨before, (n, code), after, hsplit, ?_, ?_⟩
  · rw [List.dropPrefix?_append_of_beq s (BEq.refl n.toList)]
    rfl
  · -- a name that is tried before would be a longer item, as this one does not start with it
    intro x hx
    have hbefore : ¬ x.1.toList <+: n.toList := by
      have hpairs := hsplit ▸ codeNames_pairwise
      exact (List.pairwise_append.mp hpairs).2.2 x hx _ List.mem_cons_self
    have hx : x ∈ codeNames := hsplit ▸ List.mem_append_left _ hx
    rw [Option.map_eq_none_iff, Option.eq_none_iff_forall_ne_some]
    intro r hr
    obtain ⟨_, hr, hsame⟩ := List.dropPrefix?_eq_some_iff.mp hr
    have hprefix : x.1.toList <+: n.toList ++ s := ⟨r, by rw [hr, beq_iff_eq.mp hsame]⟩
    have hle := h.longest _ _ (.name hx) (List.cons_prefix_cons.mpr ⟨rfl, hprefix⟩)
    refine hbefore (List.prefix_of_prefix_length_le hprefix (List.prefix_append _ _) ?_)
    simpa using hle

/-- No digit follows a code. -/
theorem head?_numeral {x : Radix} {digits : List Char} {code : Option Nat}
    (h : Before ('\\' :: x.mark ++ digits) code s) (hne : digits ≠ [])
    (hdigits : ∀ d ∈ digits, (x.value? d).isSome = true) :
    s.head?.any (fun c => (x.value? c).isSome) = false := by
  cases s with
  | nil => rfl
  | cons c s =>
    rw [List.head?_cons, Option.any_some, Bool.eq_false_iff]
    intro hc
    have hall : ∀ d ∈ digits ++ [c], (x.value? d).isSome = true := by
      intro d hd
      rcases List.mem_append.mp hd with hd | hd
      · exact hdigits d hd
      · rwa [List.mem_singleton.mp hd]
    have hitem := Item.numeral x (List.append_ne_nil_of_left_ne_nil hne [c]) hall
    have hle := h.longest _ _ hitem ⟨s, by simp⟩
    simp only [List.length_append, List.length_cons, List.length_nil] at hle
    omega

theorem readItem_numeral {x : Radix} {digits : List Char} {code : Option Nat}
    (h : Before ('\\' :: x.mark ++ digits) code s) (hne : digits ≠ [])
    (hdigits : ∀ d ∈ digits, (x.value? d).isSome = true) :
    readItem ('\\' :: x.mark ++ digits ++ s) = reading (some (x.code digits)) s := by
  have hstop := h.head?_numeral hne hdigits
  have hescape : readEscape (x.mark ++ digits ++ s) =
      readCode x.base x.value? (digits ++ s) := by
    cases x with
    | decimal =>
      obtain ⟨d, r, rfl⟩ := List.exists_cons_of_ne_nil hne
      refine readEscape_of_isDecimal ?_ (r ++ s)
      rw [← isSome_digitValue?]
      exact hdigits d List.mem_cons_self
    | octal => rfl
    | hexadecimal => rfl
  rw [List.cons_append, List.cons_append, readItem, hescape, readCode,
    takeWhile_append_stop hdigits hstop, dropWhile_append_stop hdigits hstop]
  have hsome : (!digits.isEmpty) = true := by simp [hne]
  simp only [hsome, Bool.true_and, decide_eq_true_eq]
  rfl

/-- The reader reads the item that stands in front of a text. -/
theorem readItem_eq {code : Option Nat} (h : Before w code s) :
    readItem (w ++ s) = reading code s := by
  cases h.item with
  | plain hquote hslash hcontrol =>
    rw [List.singleton_append, readItem, reading_toNat]
    · simp [hquote, hcontrol]
    · exact hslash
  | letter hl =>
    rw [reading_toNat]
    exact readEscape_of_letterEscape? hl s
  | @control c hc =>
    have hle : c.toNat ≤ 95 := UInt32.le_iff_toNat_le.mp hc.2
    have hvalid : (c.toNat - 64).isValidChar := Or.inl (by omega)
    have hescape : readItem (['\\', '^', c] ++ s) =
        if '@' ≤ c && c ≤ '_' then some (some (Char.ofNat (c.toNat - 64)), s) else none := rfl
    rw [hescape, if_pos (by simpa using hc), reading, if_pos hvalid]
  | name hn =>
    obtain ⟨c, r, hr, hc⟩ := isUpper_of_mem_codeNames hn
    have hname := h.readCodeName_eq hn
    rw [reading, if_pos (isValidChar_of_mem_codeNames hn), List.cons_append, readItem, ← hname, hr]
    exact readEscape_of_isUpper hc (r ++ s)
  | numeral x hne hdigits => exact h.readItem_numeral hne hdigits
  | empty => rfl
  | @gap c blanks hb =>
    obtain ⟨hc, hblanks⟩ := List.forall_mem_cons.mp hb
    have hdrop : (blanks ++ '\\' :: s).dropWhile isBlank = '\\' :: s :=
      dropWhile_append_stop hblanks (by rfl)
    have hescape := readEscape_of_isBlank hc (blanks ++ '\\' :: s)
    rw [readGap, hdrop] at hescape
    simpa [readItem, reading] using hescape

end Item.Before

/-- Where a text starts with an item, a longest item stands in front of the rest of it. -/
theorem exists_before {s v : List Char} {n : Option Nat} (hv : Item v n) (hs : v <+: s) :
    ∃ w code r, s = w ++ r ∧ Item.Before w code r := by
  by_cases hlongest : ∀ u m, Item u m → u <+: s → u.length ≤ v.length
  · obtain ⟨r, rfl⟩ := hs
    exact ⟨v, n, r, rfl, hv, hlongest⟩
  · -- a longer item takes the place of this one, and none is longer than the text
    push Not at hlongest
    obtain ⟨u, m, hu, hus, hlt⟩ := hlongest
    exact exists_before hu hus
termination_by s.length - v.length
decreasing_by
  have := hus.length_le
  omega

theorem exists_numeral_of_readCode (x : Radix) {s r : List Char} {c : Option Char}
    (h : readCode x.base x.value? s = some (c, r)) :
    ∃ digits, Item ('\\' :: x.mark ++ digits) (some (x.code digits)) ∧ digits <+: s := by
  have hall := List.all_eq_true.mp (List.all_takeWhile (l := s) (p := fun c => (x.value? c).isSome))
  refine ⟨_, .numeral x ?_ hall, List.takeWhile_prefix _⟩
  intro hnil
  simp [readCode, hnil] at h

theorem exists_gap_of_readGap {s r : List Char} {b : Char} {c : Option Char}
    (hb : isBlank b = true) (h : readGap s = some (c, r)) :
    ∃ blanks, Item ('\\' :: b :: blanks ++ ['\\']) none ∧ blanks ++ ['\\'] <+: s := by
  unfold readGap at h
  split at h
  next rest hrest =>
    have hall := List.all_eq_true.mp (List.all_takeWhile (l := s) (p := isBlank))
    refine ⟨_, .gap (List.forall_mem_cons.mpr ⟨hb, hall⟩), rest, ?_⟩
    rw [List.append_assoc, List.singleton_append, ← hrest, List.takeWhile_append_dropWhile]
  next => simp at h

theorem exists_item_of_readEscape {s r : List Char} {c : Option Char}
    (h : readEscape s = some (c, r)) : ∃ v n, Item ('\\' :: v) n ∧ v <+: s := by
  unfold readEscape at h
  split at h
  · simp at h
  next s => exact ⟨_, _, .empty, s, rfl⟩
  next s =>
    obtain ⟨digits, hitem, hs⟩ := exists_numeral_of_readCode .octal h
    exact ⟨_, _, hitem, List.cons_prefix_cons.mpr ⟨rfl, hs⟩⟩
  next s =>
    obtain ⟨digits, hitem, hs⟩ := exists_numeral_of_readCode .hexadecimal h
    exact ⟨_, _, hitem, List.cons_prefix_cons.mpr ⟨rfl, hs⟩⟩
  next d s =>
    split at h
    next hd => exact ⟨_, _, .control (by simpa using hd), s, rfl⟩
    next => simp at h
  next d s _ _ _ _ =>
    split at h
    · obtain ⟨digits, hitem, hs⟩ := exists_numeral_of_readCode .decimal h
      exact ⟨_, _, hitem, hs⟩
    next =>
    split at h
    next hd =>
      obtain ⟨blanks, hitem, hs⟩ := exists_gap_of_readGap hd h
      exact ⟨_, _, hitem, List.cons_prefix_cons.mpr ⟨rfl, hs⟩⟩
    next =>
    split at h
    next e he => exact ⟨_, _, .letter he, s, rfl⟩
    next =>
      obtain ⟨x, hx, hr⟩ := List.exists_of_findSome?_eq_some h
      obtain ⟨_, hr, -⟩ := Option.map_eq_some_iff.mp hr
      obtain ⟨_, hr, hsame⟩ := List.dropPrefix?_eq_some_iff.mp hr
      exact ⟨_, _, .name hx, _, by rw [hr, beq_iff_eq.mp hsame]⟩

/-- Where the reader reads something, a text starts with an item. -/
theorem exists_item_of_readItem {s r : List Char} {c : Option Char}
    (h : readItem s = some (c, r)) : ∃ v n, Item v n ∧ v <+: s := by
  unfold readItem at h
  split at h
  · simp at h
  next s =>
    obtain ⟨v, n, hitem, hs⟩ := exists_item_of_readEscape h
    exact ⟨_, n, hitem, List.cons_prefix_cons.mpr ⟨rfl, hs⟩⟩
  next d s hslash =>
    split at h
    · simp at h
    next hplain =>
      obtain ⟨hquote, hcontrol⟩ : d ≠ '"' ∧ isControl d = false := by simpa using hplain
      exact ⟨_, _, .plain hquote hslash hcontrol, s, rfl⟩

theorem exists_before_of_readItem {s r : List Char} {c : Option Char}
    (h : readItem s = some (c, r)) :
    ∃ w, s = w ++ r ∧ Item.Before w (c.map Char.toNat) r := by
  obtain ⟨v, n, hv, hs⟩ := exists_item_of_readItem h
  obtain ⟨w, code, r', rfl, hw⟩ := exists_before hv hs
  obtain ⟨rfl, rfl⟩ := reading_eq_some_iff.mp (hw.readItem_eq.symm.trans h)
  exact ⟨w, rfl, hw⟩

theorem Item.head?_append_ne {w : List Char} {code : Option Nat} (h : Item w code)
    (s : List Char) : (w ++ s).head? ≠ some '"' := by
  cases h with
  | plain hquote _ _ => simpa using hquote
  | _ => simp

theorem readBody_eq_bind {s : List Char} (hs : s.head? ≠ some '"') :
    readBody s = (readItem s).bind fun (c, r) =>
      (readBody r).map fun (t, rest) => (c.toList ++ t, rest) := by
  rw [readBody, if_neg hs]
  split
  next hitem => rw [hitem, Option.bind_none]
  next hitem => rw [hitem, Option.bind_some]

/-- What is read has its codes by the grammar. -/
theorem lexes_of_readBody {s t cs : List Char} (h : readBody s = some (cs, t)) :
    Lexes s (cs.map Char.toNat) t := by
  induction s using readBody.induct generalizing cs with
  | case1 s hquote =>
    obtain ⟨r, rfl⟩ := List.head?_eq_some_iff.mp hquote
    rw [readBody, if_pos hquote] at h
    cases Option.some.inj h
    exact .close r
  | case2 s hquote hitem =>
    rw [readBody_eq_bind hquote, hitem] at h
    exact absurd h (by simp)
  | case3 s hquote c r hitem ih =>
    obtain ⟨w, rfl, hw⟩ := exists_before_of_readItem hitem
    rw [readBody_of_readItem hitem] at h
    obtain ⟨⟨cs', t'⟩, hrest, heq⟩ := Option.map_eq_some_iff.mp h
    cases heq
    have hcode : ∀ n ∈ c.map Char.toNat, n ≤ 0x10FFFF := by
      intro n hn
      obtain ⟨d, -, rfl⟩ := Option.map_eq_some_iff.mp hn
      exact toNat_le d
    rw [List.map_append, ← Option.toList_map]
    exact .item hw hcode (ih hrest)

example : Lexes "\\SOH\\SO\\&H\\x41\\ \\\"".toList [1, 14, 72, 65] [] := by
  have h : readBody "\\SOH\\SO\\&H\\x41\\ \\\"".toList = some (['\x01', '\x0e', 'H', 'A'], []) := by
    cbv
  exact lexes_of_readBody h

/-- No other codes are those of a text by the grammar. -/
theorem Lexes.readBody_iff {s t : List Char} {codes : List Nat} (h : Lexes s codes t)
    {cs r : List Char} : readBody s = some (cs, r) ↔ codes = cs.map Char.toNat ∧ t = r := by
  induction h generalizing cs with
  | close t =>
    rw [readBody, if_pos List.head?_cons, List.tail_cons, Option.some_inj, Prod.mk.injEq, eq_comm,
      List.nil_eq, List.map_eq_nil_iff]
  | @item w s t code codes hw hcode hrest ih =>
    rw [readBody_eq_bind (hw.item.head?_append_ne s), hw.readItem_eq, Option.bind_eq_some_iff]
    constructor
    · rintro ⟨⟨c, r'⟩, hread, hbody⟩
      obtain ⟨rfl, rfl⟩ := reading_eq_some_iff.mp hread
      obtain ⟨⟨cs', r''⟩, hbody, heq⟩ := Option.map_eq_some_iff.mp hbody
      cases heq
      obtain ⟨rfl, rfl⟩ := ih.mp hbody
      rw [List.map_append, Option.toList_map]
      exact ⟨rfl, rfl⟩
    · rintro ⟨hcodes, rfl⟩
      obtain ⟨cs₁, cs₂, rfl, h₁, h₂⟩ := List.map_eq_append_iff.mp hcodes.symm
      obtain ⟨c, rfl, rfl⟩ : ∃ c : Option Char, code = c.map Char.toNat ∧ c.toList = cs₁ := by
        cases code with
        | none => exact ⟨none, rfl, (List.map_eq_nil_iff.mp h₁).symm⟩
        | some n =>
          obtain ⟨d, rfl, rfl⟩ := List.map_eq_singleton_iff.mp h₁
          exact ⟨some d, rfl, rfl⟩
      refine ⟨(c, s), reading_eq_some_iff.mpr ⟨rfl, rfl⟩, ?_⟩
      exact Option.map_eq_some_iff.mpr ⟨(cs₂, t), ih.mpr ⟨h₂.symm, rfl⟩, rfl⟩

/-- The literal of a text has the codes of its characters, and ends where it is meant to end. -/
theorem lexesLiteral_literal_iff (s t rest : List Char) (codes : List Nat) :
    LexesLiteral (literal s ++ t) codes rest ↔ codes = s.map Char.toNat ∧ rest = t := by
  have hread : readBody (literalBody s ++ ['"'] ++ t) = some (s, t) := readLiteral_literal s t
  constructor
  · rintro ⟨body, hbody, hlexes⟩
    obtain rfl : literalBody s ++ ['"'] ++ t = body := (List.cons.inj hbody).2
    exact hlexes.readBody_iff.mp hread
  · rintro ⟨rfl, rfl⟩
    exact ⟨_, rfl, lexes_of_readBody hread⟩

end AgdaConsole.Text
