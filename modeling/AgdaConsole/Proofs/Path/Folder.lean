import AgdaConsole.Proofs.Path.Absolute
import Mathlib.Data.List.DropRight

namespace AgdaConsole.Path

/-- The pieces that are kept end in one that stands for a part. -/
theorem exists_part_getLast {pieces : List (List Char)} (h : dropIdle pieces ≠ []) :
    ∃ part, partOf? ((dropIdle pieces).getLast h) = some part := by
  have hpart := List.rdropWhile_last_not (fun p => (partOf? p).isNone) pieces h
  exact Option.ne_none_iff_exists'.mp fun hnone => hpart (Option.isNone_iff_eq_none.mpr hnone)

theorem exists_ne_nil_of_dropIdle {pieces : List (List Char)} (h : dropIdle pieces ≠ []) :
    ∃ p ∈ dropIdle pieces, p ≠ [] := by
  obtain ⟨part, hpart⟩ := exists_part_getLast h
  refine ⟨_, List.getLast_mem h, fun hnil => ?_⟩
  rw [hnil] at hpart
  exact absurd hpart (by simp [partOf?])

theorem ofList_ne_empty {s : List Char} (h : s ≠ []) : String.ofList s ≠ "" := by
  intro he
  have hs := congrArg String.toList he
  rw [String.toList_ofList] at hs
  exact h hs

theorem folderOf_ne_empty (path : String) : folderOf path ≠ "" := by
  unfold folderOf
  extract_lets s kept above
  by_cases hkept : kept.isEmpty = true
  · rw [if_pos hkept]
    decide
  by_cases hroot : isAbsolute s = true
  · rw [if_neg hkept, if_pos hroot]
    exact ofList_ne_empty (by simp)
  by_cases habove : above.isEmpty = true
  · rw [if_neg hkept, if_neg hroot, if_pos habove]
    decide
  rw [if_neg hkept, if_neg hroot, if_neg habove]
  obtain ⟨p, hp, hne⟩ := exists_ne_nil_of_dropIdle (by simpa using habove)
  obtain ⟨c, hc⟩ := List.exists_mem_of_ne_nil p hne
  exact ofList_ne_empty (List.ne_nil_of_mem (Text.mem_intercalate hp hc))

/-- The folder that holds a file has an absolute path, whatever the path of the file is. -/
theorem exists_absolute?_folderOf (folder path : String) :
    ∃ dir, absolute? folder (folderOf path) = some dir := by
  have hne : (folderOf path).isEmpty = false := by
    simpa using folderOf_ne_empty path
  simp [absolute?, hne]

/-- The pieces that go stand for no part. -/
theorem filterMap_dropIdle (pieces : List (List Char)) :
    (dropIdle pieces).filterMap partOf? = pieces.filterMap partOf? := by
  let idle (p : List Char) : Bool := (partOf? p).isNone
  have hend : (pieces.rtakeWhile idle).filterMap partOf? = [] :=
    List.filterMap_eq_nil_iff.mpr fun p hp => by simpa [idle] using List.mem_rtakeWhile_imp hp
  have hsplit : dropIdle pieces ++ pieces.rtakeWhile idle = pieces :=
    List.rdropWhile_append_rtakeWhile
  have hparts := congrArg (List.filterMap partOf?) hsplit
  rwa [List.filterMap_append, hend, List.append_nil] at hparts

theorem dropIdle_isPrefix (pieces : List (List Char)) : dropIdle pieces <+: pieces :=
  List.rdropWhile_prefix (fun p => (partOf? p).isNone) pieces

/-- The pieces above the last one that stands for a part stand for the parts above the last. -/
theorem filterMap_above {pieces : List (List Char)} {part : Part}
    (h : (pieces.filterMap partOf?).getLast? = some part) :
    (dropIdle (dropIdle pieces).dropLast).filterMap partOf? ++ [part] =
      pieces.filterMap partOf? := by
  rw [← filterMap_dropIdle pieces] at h ⊢
  have hne : dropIdle pieces ≠ [] := by
    intro hnil
    rw [hnil] at h
    exact absurd h (by simp)
  obtain ⟨last, hlast⟩ := exists_part_getLast hne
  have hsplit := congrArg (List.filterMap partOf?) (List.dropLast_append_getLast hne)
  rw [List.filterMap_append, List.filterMap_cons_some hlast, List.filterMap_nil] at hsplit
  rw [← hsplit, List.getLast?_concat] at h
  rw [filterMap_dropIdle, ← hsplit, Option.some.inj h]

theorem body_slash_cons (s : List Char) : body ('/' :: s) = body s := body_append_slash [] s

theorem body_intercalate {above : List (List Char)} (h : ∀ p ∈ above, '/' ∉ p) :
    body (List.intercalate ['/'] above) = above.filterMap partOf? := by
  cases above with
  | nil => rfl
  | cons p rest => rw [body, Text.pieces_intercalate (List.cons_ne_nil p rest) h]

/-- The first pieces of a path that does not start at the root make no path that does. -/
theorem isAbsolute_intercalate {s : List Char} (hs : isAbsolute s = false)
    {above : List (List Char)} (h : above <+: Text.pieces '/' s) :
    isAbsolute (List.intercalate ['/'] above) = false := by
  cases above with
  | nil => rfl
  | cons p rest =>
    cases s with
    | nil =>
      obtain ⟨rfl, hrest⟩ := List.cons_prefix_cons.mp h
      rw [List.prefix_nil.mp hrest]
      rfl
    | cons c r =>
      have hc : c ≠ '/' := by
        rintro rfl
        exact Bool.noConfusion hs
      obtain ⟨q, qs, hq⟩ := List.exists_cons_of_ne_nil (Text.pieces_ne_nil '/' r)
      rw [Text.pieces, if_neg hc, hq, Text.consFirst] at h
      obtain ⟨rfl, -⟩ := List.cons_prefix_cons.mp h
      cases rest <;> simpa [isAbsolute, List.intercalate_cons_cons] using hc

/-- The last part of a path with a file name is that name. -/
theorem getLast?_body {path name : String} (h : fileName? path = some name) :
    (body path.toList).getLast? = some (.name name.toList) := by
  unfold fileName? at h
  split at h
  next n hn =>
    obtain rfl := Option.some.inj h
    rw [String.toList_ofList]
    rw [parts, List.getLast?_append] at hn
    cases hbody : (body path.toList).getLast? with
    | some part => rwa [hbody] at hn
    | none =>
      rw [hbody, Option.none_or] at hn
      have hstart := List.mem_of_getLast? hn
      unfold start at hstart
      split at hstart
      · exact absurd (List.mem_singleton.mp hstart) (by simp)
      · split at hstart
        · exact absurd (List.mem_singleton.mp hstart) (by simp)
        · exact absurd hstart List.not_mem_nil
  next => exact absurd h (by simp)

/-- The folder of a file leads to all parts of the path of the file but its name, and starts where
the path of the file starts. -/
theorem folderOf_of_fileName? {path name : String} (h : fileName? path = some name) :
    body (folderOf path).toList ++ [.name name.toList] = body path.toList ∧
      isAbsolute (folderOf path).toList = isAbsolute path.toList := by
  have hlast := getLast?_body h
  unfold folderOf
  extract_lets s kept above
  have hbody : (Text.pieces '/' (if isAbsolute s then s.tail else s)).filterMap partOf? =
      body s := by
    split
    next hroot =>
      obtain ⟨r, hr⟩ := List.head?_eq_some_iff.mp (beq_iff_eq.mp hroot)
      rw [hr, List.tail_cons, body_slash_cons]
      rfl
    next => rfl
  have habove : above.filterMap partOf? ++ [.name name.toList] = body s := by
    rw [← hbody]
    exact filterMap_above (hbody ▸ hlast)
  have hpre : above <+: Text.pieces '/' (if isAbsolute s then s.tail else s) :=
    ((dropIdle_isPrefix _).trans (List.dropLast_prefix _)).trans (dropIdle_isPrefix _)
  have hslash : ∀ p ∈ above, '/' ∉ p := fun p hp => Text.not_mem_of_mem_pieces (hpre.subset hp)
  have hkept : kept.isEmpty = false := by
    rw [List.isEmpty_eq_false_iff]
    intro hnil
    have hparts : kept.filterMap partOf? = body s := (filterMap_dropIdle _).trans hbody
    rw [hnil] at hparts
    exact absurd (hparts.trans habove.symm) (by simp)
  change _ = body s ∧ _ = isAbsolute s
  rw [hkept]
  cases hroot : isAbsolute s with
  | true =>
    rw [if_neg (by decide), if_pos rfl, String.toList_ofList, body_slash_cons,
      body_intercalate hslash]
    exact ⟨habove, rfl⟩
  | false =>
    rw [if_neg (by decide), if_neg (by decide)]
    split
    next hnil =>
      rw [List.isEmpty_iff.mp hnil] at habove
      exact ⟨habove, rfl⟩
    next =>
      rw [hroot] at hpre
      rw [String.toList_ofList, body_intercalate hslash]
      exact ⟨habove, isAbsolute_intercalate hroot hpre⟩

end AgdaConsole.Path
