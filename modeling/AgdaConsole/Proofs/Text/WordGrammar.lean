import AgdaConsole.Proofs.Text.Blank
import AgdaConsole.Text.Word
import Mathlib.Data.List.Induction

namespace AgdaConsole.Text

/-- A text that stands between two quotes, and the characters it writes. -/
inductive Inside : List Char → List Char → Prop
  | nil : Inside [] []
  | plain {c : Char} {s w : List Char} (hq : c ≠ '"') (hs : c ≠ '\\') (h : Inside s w) :
      Inside (c :: s) (c :: w)
  | escaped (c : Char) {s w : List Char} (h : Inside s w) : Inside ('\\' :: c :: s) (c :: w)

/-- A part of a written word, and the characters it writes: a stretch in quotes, any character
after a backslash, or a character that is no blank, quote or backslash. -/
inductive WordPart : List Char → List Char → Prop
  | quoted {s w : List Char} (h : Inside s w) : WordPart ('"' :: s ++ ['"']) w
  | escaped (c : Char) : WordPart ['\\', c] [c]
  | bare {c : Char} (hb : isBlank c = false) (hq : c ≠ '"') (hs : c ≠ '\\') : WordPart [c] [c]

/-- A text that writes a word, in one part or more. The empty word has at least two quotes. -/
inductive Written : List Char → List Char → Prop
  | part {s w : List Char} (h : WordPart s w) : Written s w
  | append {s w t v : List Char} (h : Written s w) (hp : WordPart t v) : Written (s ++ t) (w ++ v)

/-- A line that writes some words. At least one blank stands between two words, and there may be
blanks at both ends. -/
inductive WordLine : List Char → List (List Char) → Prop
  | blank {b : List Char} (hb : allBlank b = true) : WordLine b []
  | last {b s w : List Char} (hb : allBlank b = true) (h : Written s w) : WordLine (b ++ s) [w]
  | cons {b s w t : List Char} {ws : List (List Char)} {c : Char} (hb : allBlank b = true)
      (h : Written s w) (hc : isBlank c = true) (ht : WordLine t ws) :
      WordLine (b ++ (s ++ c :: t)) (w :: ws)

/-- A text in which each backslash has a character to take. -/
inductive Paired : List Char → Prop
  | nil : Paired []
  | plain {c : Char} {s : List Char} (hs : c ≠ '\\') (h : Paired s) : Paired (c :: s)
  | escaped (c : Char) {s : List Char} (h : Paired s) : Paired ('\\' :: c :: s)

/-- A line that ends in a backslash which no other backslash has taken. -/
def EndsInEscape (line : List Char) : Prop := ∃ s, Paired s ∧ line = s ++ ['\\']

/-- A line that writes some words up to a quote which is not closed. -/
def EndsInQuote (line : List Char) : Prop :=
  ∃ s ws t w, WordLine s ws ∧ Inside t w ∧ line = s ++ '"' :: t

theorem readWords_quote (inside quoted : Bool) (word r : List Char) :
    readWords inside quoted word ('"' :: r) = readWords (!inside) true word r := rfl

theorem readWords_backslash (inside quoted : Bool) (word : List Char) (c : Char) (r : List Char) :
    readWords inside quoted word ('\\' :: c :: r) = readWords inside quoted (c :: word) r := rfl

theorem readWords_other {c : Char} (hq : c ≠ '"') (hs : c ≠ '\\') (inside quoted : Bool)
    (word r : List Char) : readWords inside quoted word (c :: r) =
      if isBlank c && !inside then closeWord quoted word ++ readWords false false [] r
      else readWords inside quoted (c :: word) r := by
  rw [readWords.eq_def]
  split
  · exact absurd ‹_› (by simp)
  · next h => exact absurd (List.cons.inj h).1 hq
  · next h => exact absurd (List.cons.inj h).1 hs
  · next h => exact absurd (List.cons.inj h).1 hs
  · next h =>
    obtain ⟨rfl, rfl⟩ := List.cons.inj h
    rfl

theorem readWords_isBlank {c : Char} (hc : isBlank c = true) (quoted : Bool) (word r : List Char) :
    readWords false quoted word (c :: r) = closeWord quoted word ++ readWords false false [] r := by
  have hq : c ≠ '"' := by rintro rfl; exact absurd hc (by decide)
  have hs : c ≠ '\\' := by rintro rfl; exact absurd hc (by decide)
  rw [readWords_other hq hs, hc, Bool.not_false, Bool.and_self, if_pos rfl]

/-- A character that is kept. Inside quotes a blank is kept too. -/
theorem readWords_kept {c : Char} (hq : c ≠ '"') (hs : c ≠ '\\') {inside : Bool}
    (hb : inside = true ∨ isBlank c = false) (quoted : Bool) (word r : List Char) :
    readWords inside quoted word (c :: r) = readWords inside quoted (c :: word) r := by
  have hend : (isBlank c && !inside) = false := by
    rcases hb with rfl | hb
    · rw [Bool.not_true, Bool.and_false]
    · rw [hb, Bool.false_and]
  rw [readWords_other hq hs, hend, if_neg (by simp)]

theorem words_allBlank_append {b : List Char} (hb : allBlank b = true) (rest : List Char) :
    words (b ++ rest) = words rest := by
  unfold words
  induction b with
  | nil => rfl
  | cons c b ih =>
    obtain ⟨hc, hb⟩ := allBlank_cons.mp hb
    rw [List.cons_append, readWords_isBlank hc, ih hb]
    rfl

theorem closeWord_true (word : List Char) : closeWord true word = [word.reverse] := by
  rw [closeWord, Bool.or_true, if_pos rfl]

theorem closeWord_reverse {quoted : Bool} {w : List Char} (h : w ≠ [] ∨ quoted = true) :
    closeWord quoted w.reverse = [w] := by
  have hcounts : (!w.reverse.isEmpty || quoted) = true := by
    rcases h with h | rfl
    · simp [h]
    · exact Bool.or_true _
  rw [closeWord, if_pos hcounts, List.reverse_reverse]

theorem Inside.append {s w t v : List Char} (h : Inside s w) (ht : Inside t v) :
    Inside (s ++ t) (w ++ v) := by
  induction h with
  | nil => exact ht
  | plain hq hs _ ih => exact .plain hq hs ih
  | escaped c _ ih => exact .escaped c ih

theorem Inside.readWords {s w : List Char} (h : Inside s w) (word rest : List Char) :
    readWords true true word (s ++ rest) = readWords true true (w.reverse ++ word) rest := by
  induction h generalizing word with
  | nil => rfl
  | @plain c s w hq hs _ ih =>
    rw [List.cons_append, readWords_kept hq hs (.inl rfl), ih, List.reverse_cons, List.append_assoc,
      List.singleton_append]
  | @escaped c s w _ ih =>
    rw [List.cons_append, List.cons_append, readWords_backslash, ih, List.reverse_cons,
      List.append_assoc, List.singleton_append]

/-- After a part of a word the reader stands in a word that counts. -/
theorem WordPart.readWords {s w : List Char} (h : WordPart s w) (quoted : Bool)
    (word : List Char) : ∃ counted, (w ≠ [] ∨ counted = true) ∧ ∀ rest,
      readWords false quoted word (s ++ rest) =
        readWords false counted (w.reverse ++ word) rest := by
  cases h with
  | @quoted t w h =>
    refine ⟨true, .inr rfl, fun rest => ?_⟩
    rw [List.append_assoc, List.cons_append, readWords_quote, Bool.not_false, h.readWords,
      List.singleton_append, readWords_quote, Bool.not_true]
  | escaped c => exact ⟨quoted, .inl (List.cons_ne_nil c []), fun rest => rfl⟩
  | @bare c hb hq hs =>
    exact ⟨quoted, .inl (List.cons_ne_nil c []), readWords_kept hq hs (.inr hb) quoted word⟩

theorem Written.readWords {s w : List Char} (h : Written s w) :
    ∃ counted, (w ≠ [] ∨ counted = true) ∧ ∀ rest,
      readWords false false [] (s ++ rest) = readWords false counted w.reverse rest := by
  induction h with
  | @part s w h =>
    obtain ⟨counted, hcounted, hread⟩ := h.readWords false []
    rw [List.append_nil] at hread
    exact ⟨counted, hcounted, hread⟩
  | @append s w t v _ hp ih =>
    obtain ⟨quoted, -, hread⟩ := ih
    obtain ⟨counted, hcounted, hpart⟩ := hp.readWords quoted w.reverse
    refine ⟨counted, hcounted.imp_left (List.append_ne_nil_of_right_ne_nil w), fun rest => ?_⟩
    rw [List.append_assoc, hread, hpart, List.reverse_append]

/-- Where the reader stands after a line that writes some words. It has read all of them, but has
not closed the last one if no blank follows it. -/
theorem WordLine.words_append {s : List Char} {ws : List (List Char)} (h : WordLine s ws) :
    ∃ before quoted word, before ++ closeWord quoted word = ws ∧ ∀ rest,
      words (s ++ rest) = before ++ readWords false quoted word rest := by
  induction h with
  | blank hb => exact ⟨[], false, [], rfl, words_allBlank_append hb⟩
  | @last b s w hb h =>
    obtain ⟨counted, hcounted, hread⟩ := h.readWords
    refine ⟨[], counted, w.reverse, closeWord_reverse hcounted, fun rest => ?_⟩
    rw [List.append_assoc, words_allBlank_append hb]
    exact hread rest
  | @cons b s w t ws c hb h hc _ ih =>
    obtain ⟨counted, hcounted, hread⟩ := h.readWords
    obtain ⟨before, quoted, word, hws, hrest⟩ := ih
    refine ⟨w :: before, quoted, word, congrArg (w :: ·) hws, fun rest => ?_⟩
    rw [List.append_assoc, List.append_assoc, words_allBlank_append hb, words, hread,
      List.cons_append, readWords_isBlank hc, closeWord_reverse hcounted]
    exact congrArg (w :: ·) (hrest rest)

theorem WordLine.words_eq {s : List Char} {ws : List (List Char)} (h : WordLine s ws) :
    words s = ws := by
  obtain ⟨before, quoted, word, hws, hread⟩ := h.words_append
  rw [← hws, ← List.append_nil s, hread []]
  rfl

/-- Where the reader stands after a line that ends in a quote. -/
theorem EndsInQuote.words_append {line : List Char} (h : EndsInQuote line) :
    ∃ before word, ∀ rest, words (line ++ rest) = before ++ readWords true true word rest := by
  obtain ⟨s, ws, t, w, hs, ht, rfl⟩ := h
  obtain ⟨before, quoted, word, -, hread⟩ := hs.words_append
  refine ⟨before, w.reverse ++ word, fun rest => ?_⟩
  rw [List.append_assoc, hread, List.cons_append, readWords_quote, Bool.not_false, ht.readWords]

theorem WordLine.concat_isBlank {s : List Char} {ws : List (List Char)} (h : WordLine s ws)
    {c : Char} (hc : isBlank c = true) : WordLine (s ++ [c]) ws := by
  induction h with
  | @blank b hb => exact .blank (by simpa [allBlank, hc] using hb)
  | @last b s w hb h =>
    rw [List.append_assoc]
    exact .cons hb h hc (.blank rfl)
  | @cons b s w t ws d hb h hd _ ih =>
    rw [List.append_assoc, List.append_assoc, List.cons_append]
    exact .cons hb h hd ih

theorem WordLine.append_part {s : List Char} {ws : List (List Char)} (h : WordLine s ws)
    {p v : List Char} (hp : WordPart p v) : ∃ vs, WordLine (s ++ p) vs := by
  induction h with
  | blank hb => exact ⟨[v], .last hb (.part hp)⟩
  | @last b s w hb h =>
    rw [List.append_assoc]
    exact ⟨[w ++ v], .last hb (.append h hp)⟩
  | @cons b s w t ws c hb h hc _ ih =>
    obtain ⟨vs, hvs⟩ := ih
    rw [List.append_assoc, List.append_assoc, List.cons_append]
    exact ⟨w :: vs, .cons hb h hc hvs⟩

theorem Paired.append {s t : List Char} (h : Paired s) (ht : Paired t) : Paired (s ++ t) := by
  induction h with
  | nil => exact ht
  | plain hs _ ih => exact .plain hs ih
  | escaped c _ ih => exact .escaped c ih

theorem Paired.of_plain {c : Char} {s : List Char} (h : Paired (c :: s)) (hc : c ≠ '\\') :
    Paired s := by
  cases h with
  | plain _ h => exact h
  | escaped => exact absurd rfl hc

theorem Paired.of_escaped {c : Char} {s : List Char} (h : Paired ('\\' :: c :: s)) : Paired s := by
  cases h with
  | plain hs => exact absurd rfl hs
  | escaped _ h => exact h

/-- A backslash behind a text has not been taken by any other. -/
theorem Paired.not_concat {s : List Char} (h : Paired s) : ¬ Paired (s ++ ['\\']) := by
  induction h with
  | nil =>
    intro h
    cases h with
    | plain hs => exact hs rfl
  | plain hs _ ih => exact fun h => ih (h.of_plain hs)
  | escaped c _ ih => exact fun h => ih h.of_escaped

theorem Inside.paired {s w : List Char} (h : Inside s w) : Paired s := by
  induction h with
  | nil => exact .nil
  | plain _ hs _ ih => exact .plain hs ih
  | escaped c _ ih => exact .escaped c ih

theorem WordPart.paired {s w : List Char} (h : WordPart s w) : Paired s := by
  cases h with
  | quoted h => exact .plain (by decide) (h.paired.append (.plain (by decide) .nil))
  | escaped c => exact .escaped c .nil
  | bare _ _ hs => exact .plain hs .nil

theorem Written.paired {s w : List Char} (h : Written s w) : Paired s := by
  induction h with
  | part h => exact h.paired
  | append _ hp ih => exact ih.append hp.paired

theorem paired_of_allBlank {s : List Char} (hs : allBlank s = true) : Paired s := by
  induction s with
  | nil => exact .nil
  | cons c s ih =>
    obtain ⟨hc, hs⟩ := allBlank_cons.mp hs
    refine .plain ?_ (ih hs)
    rintro rfl
    exact absurd hc (by decide)

theorem WordLine.paired {s : List Char} {ws : List (List Char)} (h : WordLine s ws) :
    Paired s := by
  induction h with
  | blank hb => exact paired_of_allBlank hb
  | last hb h => exact (paired_of_allBlank hb).append h.paired
  | @cons b s w t ws c hb h hc _ ih =>
    have hgap : Paired [c] := paired_of_allBlank (allBlank_cons.mpr ⟨hc, rfl⟩)
    exact (paired_of_allBlank hb).append (h.paired.append (hgap.append ih))

theorem EndsInQuote.paired {line : List Char} (h : EndsInQuote line) : Paired line := by
  obtain ⟨s, ws, t, w, hs, ht, rfl⟩ := h
  exact hs.paired.append (.plain (by decide) ht.paired)

theorem EndsInQuote.append_inside {line t v : List Char} (h : EndsInQuote line)
    (ht : Inside t v) : EndsInQuote (line ++ t) := by
  obtain ⟨s, ws, r, w, hs, hr, rfl⟩ := h
  exact ⟨s, ws, _, _, hs, hr.append ht, List.append_assoc ..⟩

theorem EndsInQuote.exists_wordLine {line : List Char} (h : EndsInQuote line) :
    ∃ ws, WordLine (line ++ ['"']) ws := by
  obtain ⟨s, ws, t, w, hs, ht, rfl⟩ := h
  rw [List.append_assoc]
  exact hs.append_part (.quoted ht)

/-- A line writes words, or ends in a quote, or is such a line with one more backslash, which takes
nothing. -/
theorem wordLine_or_ends (line : List Char) :
    (∃ ws, WordLine line ws) ∨ EndsInQuote line ∨
      ∃ s, Paired s ∧ ((∃ ws, WordLine s ws) ∨ EndsInQuote s) ∧ line = s ++ ['\\'] := by
  -- from the end of the line, as a new character only matters to what stands there
  induction line using List.reverseRecOn with
  | nil => exact .inl ⟨[], .blank rfl⟩
  | append_singleton s c ih =>
    rcases ih with ⟨ws, h⟩ | h | ⟨s, -, h, rfl⟩
    · by_cases hs : c = '\\'
      · subst hs
        exact .inr (.inr ⟨s, h.paired, .inl ⟨ws, h⟩, rfl⟩)
      by_cases hq : c = '"'
      · subst hq
        exact .inr (.inl ⟨s, ws, [], [], h, .nil, rfl⟩)
      cases hb : isBlank c with
      | true => exact .inl ⟨ws, h.concat_isBlank hb⟩
      | false => exact .inl (h.append_part (.bare hb hq hs))
    · by_cases hs : c = '\\'
      · subst hs
        exact .inr (.inr ⟨s, h.paired, .inr h, rfl⟩)
      by_cases hq : c = '"'
      · subst hq
        exact .inl h.exists_wordLine
      · exact .inr (.inl (h.append_inside (.plain hq hs .nil)))
    · rw [List.append_assoc, List.singleton_append]
      rcases h with ⟨ws, h⟩ | h
      · exact .inl (h.append_part (.escaped c))
      · exact .inr (.inl (h.append_inside (.escaped c .nil)))

theorem WordLine.not_endsInEscape {s : List Char} {ws : List (List Char)} (h : WordLine s ws) :
    ¬ EndsInEscape s := by
  rintro ⟨t, ht, rfl⟩
  exact ht.not_concat h.paired

theorem EndsInQuote.not_endsInEscape {line : List Char} (h : EndsInQuote line) :
    ¬ EndsInEscape line := by
  rintro ⟨t, ht, rfl⟩
  exact ht.not_concat h.paired

/-- Text after a line that ends in a quote belongs to the last word, so that the line does not
write words itself. -/
theorem EndsInQuote.not_wordLine {line : List Char} (h : EndsInQuote line)
    (ws : List (List Char)) : ¬ WordLine line ws := by
  intro hline
  obtain ⟨before, word, hread⟩ := h.words_append
  have hspace : isBlank ' ' = true := by decide
  have hkept := readWords_kept (c := ' ') (by decide) (by decide) (.inl rfl) true word []
  have hline' : words line = before ++ readWords true true word [] := by
    rw [← hread, List.append_nil]
  have hword : readWords true true (' ' :: word) [] = readWords true true word [] := by
    have hsame : before ++ readWords true true (' ' :: word) [] =
        before ++ readWords true true word [] := by
      rw [← hkept, ← hread, ← hline', hline.words_eq, (hline.concat_isBlank hspace).words_eq]
    exact List.append_cancel_left hsame
  have hclosed : [(' ' :: word).reverse] = [word.reverse] := by
    rw [← closeWord_true, ← closeWord_true]
    exact hword
  have hlength := congrArg List.length (List.singleton_inj.mp hclosed)
  simp at hlength

/-- The three forms of a line exclude each other, and there is no other form. -/
theorem wordLine_words_iff (line : List Char) :
    WordLine line (words line) ↔ ¬ EndsInEscape line ∧ ¬ EndsInQuote line := by
  constructor
  · exact fun h => ⟨h.not_endsInEscape, fun hq => hq.not_wordLine _ h⟩
  · rintro ⟨hescape, hquote⟩
    rcases wordLine_or_ends line with ⟨ws, h⟩ | h | ⟨s, hs, -, rfl⟩
    · exact h.words_eq ▸ h
    · exact absurd h hquote
    · exact absurd ⟨s, hs, rfl⟩ hescape

/-- A backslash that takes nothing may as well be left out. -/
theorem words_concat_backslash {s : List Char} (hs : Paired s) : words (s ++ ['\\']) = words s := by
  rcases wordLine_or_ends s with ⟨ws, h⟩ | h | ⟨r, hr, -, rfl⟩
  · obtain ⟨before, quoted, word, hws, hread⟩ := h.words_append
    rw [h.words_eq, hread, ← hws]
    rfl
  · obtain ⟨before, word, hread⟩ := h.words_append
    have hend := hread []
    rw [List.append_nil] at hend
    rw [hread, hend]
    rfl
  · exact absurd hs hr.not_concat

/-- A quote that is left open ends with the line. -/
theorem EndsInQuote.words_concat_quote {line : List Char} (h : EndsInQuote line) :
    words (line ++ ['"']) = words line := by
  obtain ⟨before, word, hread⟩ := h.words_append
  have hend := hread []
  rw [List.append_nil] at hend
  rw [hread, hend]
  rfl

theorem EndsInQuote.wordLine_concat {line : List Char} (h : EndsInQuote line) :
    WordLine (line ++ ['"']) (words line) := by
  obtain ⟨ws, hws⟩ := h.exists_wordLine
  rw [← h.words_concat_quote]
  exact hws.words_eq ▸ hws

end AgdaConsole.Text

namespace AgdaConsole

/-- A line that writes some words. -/
def WritesWords (line : String) (words : List String) : Prop :=
  Text.WordLine line.toList (words.map String.toList)

theorem map_toList_splitWords (line : String) :
    (splitWords line).map String.toList = Text.words line.toList := by
  simp [splitWords]

theorem WritesWords.splitWords_eq {line : String} {ws : List String} (h : WritesWords line ws) :
    splitWords line = ws := by
  rw [splitWords, h.words_eq]
  simp

/-- A line that writes some words is split into these words, and a line that writes none ends in a
backslash that takes nothing or in a quote that is left open. The backslash may as well be left
out, and the quote may as well be closed. -/
theorem splitWords_law (line : String) :
    (∀ ws, WritesWords line ws → splitWords line = ws) ∧
    ((∀ ws, ¬ WritesWords line ws) ↔
      Text.EndsInEscape line.toList ∨ Text.EndsInQuote line.toList) ∧
    (Text.EndsInEscape line.toList → ¬ Text.EndsInQuote line.toList ∧
      ∃ s, line = s ++ "\\" ∧ splitWords line = splitWords s) ∧
    (Text.EndsInQuote line.toList → ¬ Text.EndsInEscape line.toList ∧
      splitWords line = splitWords (line ++ "\"") ∧
      WritesWords (line ++ "\"") (splitWords line)) := by
  refine ⟨fun ws h => h.splitWords_eq, ⟨fun h => ?_, ?_⟩, fun h => ?_, fun h => ?_⟩
  · by_contra hends
    have hwrites := (Text.wordLine_words_iff line.toList).mpr (not_or.mp hends)
    rw [← map_toList_splitWords] at hwrites
    exact h _ hwrites
  · rintro (h | h) ws hwrites
    · exact hwrites.not_endsInEscape h
    · exact h.not_wordLine _ hwrites
  · refine ⟨fun hq => hq.not_endsInEscape h, ?_⟩
    obtain ⟨s, hs, hline⟩ := h
    refine ⟨String.ofList s, ?_, ?_⟩
    · rw [← String.toList_inj, hline, String.toList_append, String.toList_ofList]
      rfl
    · rw [splitWords, splitWords, hline, Text.words_concat_backslash hs, String.toList_ofList]
  · have hline : (line ++ "\"").toList = line.toList ++ ['"'] := String.toList_append
    refine ⟨h.not_endsInEscape, ?_, ?_⟩
    · rw [splitWords, splitWords, hline, h.words_concat_quote]
    · rw [WritesWords, map_toList_splitWords, hline]
      exact h.wordLine_concat

end AgdaConsole
