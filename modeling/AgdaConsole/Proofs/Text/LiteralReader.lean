import AgdaConsole.Proofs.Text.Digits
import AgdaConsole.Text.Blank
import Mathlib.Data.List.Basic

namespace AgdaConsole.Text

section

variable {α : Type} {p : α → Bool} {l s : List α}

theorem takeWhile_append_stop (hl : ∀ a ∈ l, p a = true) (hs : s.head?.any p = false) :
    (l ++ s).takeWhile p = l := by
  rw [List.takeWhile_append_of_pos hl]
  cases s with
  | nil => exact List.append_nil l
  | cons a s => rw [List.takeWhile_cons_of_neg (by simpa using hs), List.append_nil]

theorem dropWhile_append_stop (hl : ∀ a ∈ l, p a = true) (hs : s.head?.any p = false) :
    (l ++ s).dropWhile p = s := by
  rw [List.dropWhile_append_of_pos hl]
  cases s with
  | nil => rfl
  | cons a s => exact List.dropWhile_cons_of_neg (by simpa using hs)

end

/-- The character that a letter stands for after a backslash. -/
def letterEscape? : Char → Option Char
  | 'a' => some '\x07'
  | 'b' => some '\x08'
  | 'f' => some '\x0c'
  | 'n' => some '\n'
  | 'r' => some '\r'
  | 't' => some '\t'
  | 'v' => some '\x0b'
  | '\\' => some '\\'
  | '"' => some '"'
  | '\x27' => some '\x27'
  | _ => none

/-- The names of characters after a backslash, with their codes.
Where one name starts with another, the longer one comes first. -/
def codeNames : List (String × Nat) :=
  [("NUL", 0), ("SOH", 1), ("STX", 2), ("ETX", 3), ("EOT", 4), ("ENQ", 5), ("ACK", 6), ("BEL", 7),
    ("BS", 8), ("HT", 9), ("LF", 10), ("VT", 11), ("FF", 12), ("CR", 13), ("SO", 14), ("SI", 15),
    ("DLE", 16), ("DC1", 17), ("DC2", 18), ("DC3", 19), ("DC4", 20), ("NAK", 21), ("SYN", 22),
    ("ETB", 23), ("CAN", 24), ("EM", 25), ("SUB", 26), ("ESC", 27), ("FS", 28), ("GS", 29),
    ("RS", 30), ("US", 31), ("SP", 32), ("DEL", 127)]

def octalValue? (c : Char) : Option Nat := (digitValue? c).filter fun d => d < 8

def hexValue? (c : Char) : Option Nat :=
  if 'a' ≤ c && c ≤ 'f' then some (c.toNat - 87)
  else if 'A' ≤ c && c ≤ 'F' then some (c.toNat - 55)
  else digitValue? c

/-- Read a code, which takes all digits that stand there, and what follows it. -/
def readCode (base : Nat) (value? : Char → Option Nat) (s : List Char) :
    Option (Option Char × List Char) :=
  let digits := s.takeWhile fun c => (value? c).isSome
  let code := digits.foldl (fun n c => base * n + (value? c).getD 0) 0
  if !digits.isEmpty && decide code.isValidChar then
    some (some (Char.ofNat code), s.dropWhile fun c => (value? c).isSome)
  else none

def readCodeName (s : List Char) : Option (Option Char × List Char) :=
  codeNames.findSome? fun entry =>
    (s.dropPrefix? entry.1.toList).map fun r => (some (Char.ofNat entry.2), r)

/-- Read the rest of a gap, which is blanks before a backslash, and what follows it. -/
def readGap (s : List Char) : Option (Option Char × List Char) :=
  match s.dropWhile isBlank with
  | '\\' :: r => some (none, r)
  | _ => none

/-- Read what stands after a backslash in a string literal, and what follows it.
It is a character, or it stands for none: the empty escape and a gap. -/
def readEscape : List Char → Option (Option Char × List Char)
  | [] => none
  | '&' :: r => some (none, r)
  | 'o' :: r => readCode 8 octalValue? r
  | 'x' :: r => readCode 16 hexValue? r
  | '^' :: c :: r =>
    if '@' ≤ c && c ≤ '_' then some (some (Char.ofNat (c.toNat - 64)), r) else none
  | c :: r =>
    if isDecimal c then readCode 10 digitValue? (c :: r)
    else if isBlank c then readGap r
    else
      match letterEscape? c with
      | some d => some (some d, r)
      | none => readCodeName (c :: r)

/-- Read one item between the quotes of a string literal, and what follows it. -/
def readItem : List Char → Option (Option Char × List Char)
  | [] => none
  | '\\' :: r => readEscape r
  | c :: r => if c = '"' || isControl c then none else some (some c, r)

theorem readCode_length {base : Nat} {value? : Char → Option Nat} {s r : List Char}
    {c : Option Char} (h : readCode base value? s = some (c, r)) : r.length ≤ s.length := by
  simp only [readCode] at h
  split at h
  · obtain ⟨_, rfl⟩ := Prod.mk.inj (Option.some.inj h)
    exact (List.dropWhile_suffix _).length_le
  · simp at h

theorem readCodeName_length {s r : List Char} {c : Option Char}
    (h : readCodeName s = some (c, r)) : r.length ≤ s.length := by
  obtain ⟨entry, _, he⟩ := List.exists_of_findSome?_eq_some h
  obtain ⟨rest, hr, he⟩ := Option.map_eq_some_iff.mp he
  obtain ⟨_, rfl⟩ := Prod.mk.inj he
  obtain ⟨name, rfl, _⟩ := List.dropPrefix?_eq_some_iff.mp hr
  simp

theorem readGap_length {s r : List Char} {c : Option Char} (h : readGap s = some (c, r)) :
    r.length ≤ s.length := by
  unfold readGap at h
  split at h
  · next rest hgap =>
    obtain ⟨_, rfl⟩ := Prod.mk.inj (Option.some.inj h)
    have hle := (List.dropWhile_suffix (l := s) isBlank).length_le
    rw [hgap, List.length_cons] at hle
    omega
  · simp at h

theorem readEscape_length {s r : List Char} {c : Option Char}
    (h : readEscape s = some (c, r)) : r.length ≤ s.length := by
  unfold readEscape at h
  split at h
  · simp at h
  · obtain ⟨_, rfl⟩ := Prod.mk.inj (Option.some.inj h)
    simp
  · have := readCode_length h
    simp only [List.length_cons]
    omega
  · have := readCode_length h
    simp only [List.length_cons]
    omega
  · split at h
    · obtain ⟨_, rfl⟩ := Prod.mk.inj (Option.some.inj h)
      simp only [List.length_cons]
      omega
    · simp at h
  · split at h
    · exact readCode_length h
    · split at h
      · have := readGap_length h
        simp only [List.length_cons]
        omega
      · split at h
        · obtain ⟨_, rfl⟩ := Prod.mk.inj (Option.some.inj h)
          simp
        · exact readCodeName_length h

theorem readItem_length {s r : List Char} {c : Option Char} (h : readItem s = some (c, r)) :
    r.length < s.length := by
  unfold readItem at h
  split at h
  · simp at h
  · have := readEscape_length h
    simp only [List.length_cons]
    omega
  · split at h
    · simp at h
    · obtain ⟨_, rfl⟩ := Prod.mk.inj (Option.some.inj h)
      simp

/-- Read a string literal from behind its first quote, and what follows it. -/
def readBody (s : List Char) : Option (List Char × List Char) :=
  if s.head? = some '"' then some ([], s.tail)
  else
    match _h : readItem s with
    | none => none
    | some (c, r) => (readBody r).map fun (t, rest) => (c.toList ++ t, rest)
termination_by s.length
decreasing_by exact readItem_length _h

def readLiteral : List Char → Option (List Char × List Char)
  | '"' :: r => readBody r
  | _ => none

theorem readBody_of_readItem {s r : List Char} {c : Option Char}
    (h : readItem s = some (c, r)) :
    readBody s = (readBody r).map fun (t, rest) => (c.toList ++ t, rest) := by
  have hquote : s.head? ≠ some '"' := by
    intro hq
    cases s with
    | nil => simp at hq
    | cons d s => cases Option.some.inj hq; simp [readItem] at h
  rw [readBody, if_neg hquote]
  split
  · next hn => simp [h] at hn
  · next hs =>
    obtain ⟨rfl, rfl⟩ := Prod.mk.inj (Option.some.inj (hs.symm.trans h))
    rfl

theorem foldl_digitValue? {s : List Char} (hs : ∀ c ∈ s, isDecimal c = true) (value : Nat) :
    s.foldl (fun n c => 10 * n + (digitValue? c).getD 0) value = Nat.ofDigitChars 10 s value := by
  rw [Nat.ofDigitChars_eq_foldl]
  refine List.foldl_ext _ _ _ fun n c hc => ?_
  rw [digitValue?_of_isDecimal (hs c hc)]
  rfl

/-- The decimal code of a character is read as that character where no digit follows. -/
theorem readCode_decimal (c : Char) {s : List Char} (hs : s.head?.any isDecimal = false) :
    readCode 10 digitValue? (decimal c.toNat ++ s) = some (some c, s) := by
  have hdigit : ∀ d ∈ decimal c.toNat, isDecimal d = true := fun d hd =>
    isDecimal_of_mem_decimal hd
  have hcode : (decimal c.toNat).foldl (fun n d => 10 * n + (digitValue? d).getD 0) 0 = c.toNat :=
    (foldl_digitValue? (fun d hd => isDecimal_of_mem_decimal hd) 0).trans
      Nat.ofDigitChars_ten_toDigits
  have hvalid : c.toNat.isValidChar := c.valid
  simp [readCode, isSome_digitValue?, takeWhile_append_stop hdigit hs,
    dropWhile_append_stop hdigit hs, hcode, hvalid, decimal_ne_nil]

theorem readEscape_of_unmarked {p : Char → Bool} (hp : ['&', 'o', 'x', '^'].any p = false)
    {c : Char} (hc : p c = true) (s : List Char) :
    readEscape (c :: s) = if isDecimal c then readCode 10 digitValue? (c :: s)
      else if isBlank c then readGap s
      else
        match letterEscape? c with
        | some d => some (some d, s)
        | none => readCodeName (c :: s) := by
  have hne : ∀ m ∈ ['&', 'o', 'x', '^'], c ≠ m := by
    rintro m hm rfl
    exact List.any_eq_false.mp hp c hm hc
  rw [readEscape]
  · exact hne _ (by decide)
  · exact hne _ (by decide)
  · exact hne _ (by decide)
  · exact fun _ _ h _ => hne _ (by decide) h

theorem readEscape_of_isDecimal {c : Char} (hc : isDecimal c = true) (s : List Char) :
    readEscape (c :: s) = readCode 10 digitValue? (c :: s) := by
  rw [readEscape_of_unmarked (p := isDecimal) rfl hc, if_pos hc]

theorem readItem_decimal (c : Char) {s : List Char} (hs : s.head?.any isDecimal = false) :
    readItem ('\\' :: decimal c.toNat ++ s) = some (some c, s) := by
  obtain ⟨d, r, hr, hd⟩ := decimal_eq_cons c.toNat
  have hcode := readCode_decimal c hs
  rw [hr, List.cons_append] at hcode
  rw [hr, List.cons_append, List.cons_append, readItem, readEscape_of_isDecimal hd, hcode]

/-- A character is written as a letter after a backslash, as its code, or as it is. -/
theorem escaped_cases (c : Char) (next : Option Char) :
    (∃ l, escaped c next = ['\\', l] ∧ isControl l = false ∧
      ∀ s, readItem ('\\' :: l :: s) = some (some c, s)) ∨
    escaped c next =
      '\\' :: decimal c.toNat ++ (if next.any isDecimal then ['\\', '&'] else []) ∨
    (escaped c next = [c] ∧ c ≠ '\\' ∧ c ≠ '"' ∧ isControl c = false) := by
  by_cases hquote : c = '"'
  · subst hquote; exact Or.inl ⟨'"', rfl, rfl, fun _ => rfl⟩
  by_cases hslash : c = '\\'
  · subst hslash; exact Or.inl ⟨'\\', rfl, rfl, fun _ => rfl⟩
  by_cases hn : c = '\n'
  · subst hn; exact Or.inl ⟨'n', rfl, rfl, fun _ => rfl⟩
  by_cases ht : c = '\t'
  · subst ht; exact Or.inl ⟨'t', rfl, rfl, fun _ => rfl⟩
  by_cases hr : c = '\r'
  · subst hr; exact Or.inl ⟨'r', rfl, rfl, fun _ => rfl⟩
  by_cases ha : c = '\x07'
  · subst ha; exact Or.inl ⟨'a', rfl, rfl, fun _ => rfl⟩
  by_cases hb : c = '\x08'
  · subst hb; exact Or.inl ⟨'b', rfl, rfl, fun _ => rfl⟩
  by_cases hv : c = '\x0b'
  · subst hv; exact Or.inl ⟨'v', rfl, rfl, fun _ => rfl⟩
  by_cases hf : c = '\x0c'
  · subst hf; exact Or.inl ⟨'f', rfl, rfl, fun _ => rfl⟩
  rw [escaped, if_neg hquote, if_neg hslash, if_neg hn, if_neg ht, if_neg hr, if_neg ha,
    if_neg hb, if_neg hv, if_neg hf]
  cases hc : isControl c with
  | true => exact Or.inr (Or.inl rfl)
  | false => exact Or.inr (Or.inr ⟨rfl, hslash, hquote, rfl⟩)

theorem head?_escaped {c : Char} (hc : isDecimal c = false) (next : Option Char)
    (s : List Char) : (escaped c next ++ s).head?.any isDecimal = false := by
  rcases escaped_cases c next with ⟨l, he, _⟩ | he | ⟨he, _⟩
  · rw [he]; rfl
  · rw [he]; rfl
  · simp [he, hc]

theorem isControl_of_mem_escaped {c d : Char} {next : Option Char} (hd : d ∈ escaped c next) :
    isControl d = false := by
  rcases escaped_cases c next with ⟨l, he, hl, _⟩ | he | ⟨he, _, _, hc⟩
  · rw [he] at hd
    rcases List.mem_pair.mp hd with rfl | rfl
    · rfl
    · exact hl
  · rw [he] at hd
    rcases List.mem_cons.mp hd with rfl | hd
    · rfl
    rcases List.mem_append.mp hd with hd | hd
    · exact isControl_of_isDecimal (isDecimal_of_mem_decimal hd)
    · split at hd
      · rcases List.mem_pair.mp hd with rfl | rfl <;> rfl
      · simp at hd
  · rw [he] at hd
    rw [List.mem_singleton.mp hd]
    exact hc

/-- What is written for a character is read as that character, unless a digit follows that is
not foreseen. -/
theorem readBody_escaped (c : Char) (next : Option Char) (s : List Char)
    (hs : next.any isDecimal = false → s.head?.any isDecimal = false) :
    readBody (escaped c next ++ s) = (readBody s).map fun (t, rest) => (c :: t, rest) := by
  rcases escaped_cases c next with ⟨l, he, _, hl⟩ | he | ⟨he, hslash, hquote, hcontrol⟩
  · rw [he]
    exact readBody_of_readItem (hl s)
  · rw [he]
    cases hn : next.any isDecimal with
    | false =>
      have hitem := readItem_decimal c (hs hn)
      simpa using readBody_of_readItem hitem
    | true =>
      -- the empty escape that follows stands for no character
      have hitem := readItem_decimal c (s := '\\' :: '&' :: s) rfl
      have hempty : readBody ('\\' :: '&' :: s) = readBody s := by
        rw [readBody_of_readItem (c := none) (r := s) rfl]
        simp
      simpa [hempty] using readBody_of_readItem hitem
  · have hitem : readItem (c :: s) = some (some c, s) := by
      rw [readItem]
      · simp [hquote, hcontrol]
      · exact hslash
    rw [he]
    exact readBody_of_readItem hitem

/-- The string literal of a text is read as that text, whatever follows. -/
theorem readLiteral_literal (s rest : List Char) :
    readLiteral (literal s ++ rest) = some (s, rest) := by
  have hbody : readBody (literalBody s ++ '"' :: rest) = some (s, rest) := by
    induction s with
    | nil => rw [literalBody, List.nil_append, readBody]; simp
    | cons c r ih =>
      rw [literalBody, List.append_assoc, readBody_escaped, ih]
      · rfl
      · intro hnext
        cases r with
        | nil => rfl
        | cons d r =>
          rw [literalBody, List.append_assoc]
          exact head?_escaped (by simpa using hnext) _ _
  simpa [literal, readLiteral] using hbody

theorem isControl_of_mem_literalBody {s : List Char} {d : Char} (hd : d ∈ literalBody s) :
    isControl d = false := by
  induction s with
  | nil => simp [literalBody] at hd
  | cons c r ih =>
    rcases List.mem_append.mp hd with hd | hd
    · exact isControl_of_mem_escaped hd
    · exact ih hd

theorem isControl_of_mem_literal {s : List Char} {d : Char} (hd : d ∈ literal s) :
    isControl d = false := by
  rcases List.mem_cons.mp hd with rfl | hd
  · rfl
  rcases List.mem_append.mp hd with hd | hd
  · exact isControl_of_mem_literalBody hd
  · rw [List.mem_singleton.mp hd]
    rfl

end AgdaConsole.Text
