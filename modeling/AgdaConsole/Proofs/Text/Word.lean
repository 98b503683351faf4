import AgdaConsole.Proofs.Text.WordGrammar

namespace AgdaConsole.Text

/-- The text of a word between quotes: a backslash stands in front of each quote and each
backslash. -/
def quotedBody : List Char → List Char
  | [] => []
  | c :: r => if c = '"' ∨ c = '\\' then '\\' :: c :: quotedBody r else c :: quotedBody r

/-- A word in quotes. -/
def quoted (w : List Char) : List Char := '"' :: quotedBody w ++ ['"']

/-- A line of words in quotes, with spaces between them. -/
def quotedLine (ws : List (List Char)) : List Char := List.intercalate [' '] (ws.map quoted)

theorem inside_quotedBody (w : List Char) : Inside (quotedBody w) w := by
  induction w with
  | nil => exact .nil
  | cons c r ih =>
    rw [quotedBody]
    by_cases hc : c = '"' ∨ c = '\\'
    · rw [if_pos hc]
      exact .escaped c ih
    · rw [if_neg hc]
      exact .plain (fun e => hc (.inl e)) (fun e => hc (.inr e)) ih

theorem written_quoted (w : List Char) : Written (quoted w) w :=
  .part (.quoted (inside_quotedBody w))

theorem wordLine_quotedLine (ws : List (List Char)) : WordLine (quotedLine ws) ws := by
  unfold quotedLine
  induction ws with
  | nil => exact .blank rfl
  | cons w ws ih =>
    cases ws with
    | nil =>
      rw [List.map_cons, List.map_nil, List.intercalate_singleton]
      exact .last (b := []) rfl (written_quoted w)
    | cons v vs =>
      rw [List.map_cons] at ih
      rw [List.map_cons, List.map_cons, List.intercalate_cons_cons, List.append_assoc,
        List.singleton_append]
      exact .cons (b := []) rfl (written_quoted w) (by decide) ih

/-- The words of a line of words in quotes are these words, whatever characters they have. -/
theorem words_quotedLine (ws : List (List Char)) : words (quotedLine ws) = ws :=
  (wordLine_quotedLine ws).words_eq

end AgdaConsole.Text

namespace AgdaConsole

/-- A line of some words, each in quotes. -/
def quotedLine (words : List String) : String :=
  String.ofList (Text.quotedLine (words.map String.toList))

theorem splitWords_quotedLine (words : List String) : splitWords (quotedLine words) = words := by
  simp [splitWords, quotedLine, Text.words_quotedLine]

end AgdaConsole
