import AgdaConsole.Text.ClusterTable
import AgdaConsole.Text.Interval

namespace AgdaConsole.Text

/-- What a character is to the characters beside it. -/
inductive ClusterRole
  | carriageReturn
  | newline
  | control
  | mark
  | joiner
  | spacing
  | prepend
  | regional
  | pictograph
  | consonant
  | lead
  | vowel
  | trail
  | openSyllable
  | closedSyllable
  | other
  deriving Repr, DecidableEq

/-- The role of a character. Of each 28 Korean syllables in a row the first has no consonant at
its end. -/
def clusterRole (c : Char) : ClusterRole :=
  let n := c.toNat
  if 0x20 ≤ n && n < 0x7F then .other
  else if n = 0x0D then .carriageReturn
  else if n = 0x0A then .newline
  else if inIntervals controlIntervals n then .control
  else if 0xAC00 ≤ n && n ≤ 0xD7A3 then
    if (n - 0xAC00) % 28 = 0 then .openSyllable else .closedSyllable
  else if n = 0x200D then .joiner
  else if 0x1F1E6 ≤ n && n ≤ 0x1F1FF then .regional
  else if inIntervals markIntervals n then .mark
  else if inIntervals spacingIntervals n then .spacing
  else if inIntervals prependIntervals n then .prepend
  else if inIntervals pictographIntervals n then .pictograph
  else if inIntervals consonantIntervals n then .consonant
  else if inIntervals leadIntervals n then .lead
  else if inIntervals vowelIntervals n then .vowel
  else if inIntervals trailIntervals n then .trail
  else .other

/-- A sign that joins consonants. -/
def isLinker (c : Char) : Bool := inIntervals linkerIntervals c.toNat

/-- A character that may stand between the consonants of a conjunct. The sign that keeps letters
apart may not. -/
def staysInConjunct (c : Char) : Bool :=
  (clusterRole c = .mark || clusterRole c = .joiner) && c ≠ '\u200C'

/-- A cluster, last character first, ends in a consonant and marks with a linker among them. -/
def awaitsConsonant (cluster : List Char) : Bool :=
  (cluster.takeWhile staysInConjunct).any isLinker &&
    (cluster.dropWhile staysInConjunct).head?.any fun c => clusterRole c = .consonant

/-- A cluster, last character first, ends in a pictograph and marks. -/
def showsPictograph (cluster : List Char) : Bool :=
  (cluster.dropWhile fun c => clusterRole c = .mark).head?.any fun c =>
    clusterRole c = .pictograph

/-- A character goes on with the cluster before it, which is given last character first. -/
def goesOn (cluster : List Char) (c : Char) : Bool :=
  match cluster with
  | [] => false
  | last :: before =>
    match clusterRole last, clusterRole c with
    | .carriageReturn, .newline => true
    | .carriageReturn, _ | .newline, _ | .control, _ => false
    | _, .carriageReturn | _, .newline | _, .control => false
    | _, .mark | _, .joiner | _, .spacing => true
    | .prepend, _ => true
    | .lead, .lead | .lead, .vowel | .lead, .openSyllable | .lead, .closedSyllable => true
    | .openSyllable, .vowel | .openSyllable, .trail | .vowel, .vowel | .vowel, .trail => true
    | .closedSyllable, .trail | .trail, .trail => true
    | .joiner, .pictograph => showsPictograph before
    | .regional, .regional => before.head?.all fun b => clusterRole b ≠ .regional
    | _, .consonant => awaitsConsonant cluster
    | _, _ => false

/-- The clusters of a text after the start of one, which is given last character first. -/
def clustersFrom (cluster : List Char) : List Char → List (List Char)
  | [] => [cluster.reverse]
  | c :: r =>
    if goesOn cluster c then clustersFrom (c :: cluster) r
    else cluster.reverse :: clustersFrom [c] r

/-- The clusters of a text, each of which is one character to its reader. -/
def clusters : List Char → List (List Char)
  | [] => []
  | c :: r => clustersFrom [c] r

theorem flatten_clustersFrom (cluster s : List Char) :
    (clustersFrom cluster s).flatten = cluster.reverse ++ s := by
  induction s generalizing cluster with
  | nil => simp [clustersFrom]
  | cons c r ih => rw [clustersFrom]; split <;> simp [ih]

/-- The clusters of a text make up the text. -/
theorem flatten_clusters (s : List Char) : (clusters s).flatten = s := by
  cases s with
  | nil => rfl
  | cons c r => simp [clusters, flatten_clustersFrom]

end AgdaConsole.Text
