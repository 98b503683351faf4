import AgdaConsole.Disk
import AgdaConsole.Proofs.Text.Pieces

namespace AgdaConsole

namespace Path

/-- The parts below the start of a path are names and double dots, as they are written. -/
theorem of_mem_body {path : List Char} {part : Part} (h : part ∈ body path) :
    partOf? part.text = some part ∧ '/' ∉ part.text := by
  obtain ⟨p, hp, hpart⟩ := List.mem_filterMap.mp h
  have htext : part.text = p := by
    unfold partOf? at hpart
    split at hpart
    · exact absurd hpart (by simp)
    · split at hpart
      · next hup =>
        rw [← Option.some.inj hpart]
        exact (beq_iff_eq.mp hup).symm
      · rw [← Option.some.inj hpart]
        rfl
  rw [htext]
  exact ⟨hpart, Text.not_mem_of_mem_pieces hp⟩

theorem body_text {part : Part} (h : partOf? part.text = some part) (hs : '/' ∉ part.text) :
    body part.text = [part] := by
  rw [body, Text.pieces_of_not_mem hs]
  exact List.filterMap_cons_some h

theorem body_append_slash (s t : List Char) : body (s ++ '/' :: t) = body s ++ body t := by
  rw [body, Text.pieces_append, List.filterMap_append]
  rfl

/-- A slash at the end of a path leads to nothing further. -/
theorem body_concat_slash (s : List Char) : body (s ++ ['/']) = body s := by
  rw [body_append_slash]
  exact List.append_nil _

theorem body_append (path piece : List Char) :
    body (append path piece) = body path ++ body piece := by
  unfold append
  split
  · next h =>
    rcases Bool.or_eq_true _ _ ▸ h with hempty | hslash
    · rw [List.isEmpty_iff.mp hempty]
      rfl
    · obtain ⟨s, rfl⟩ := List.getLast?_eq_some_iff.mp (beq_iff_eq.mp hslash)
      rw [List.append_assoc, List.singleton_append, body_append_slash, body_concat_slash]
  · exact body_append_slash path piece

theorem body_foldl_append {parts : List Part} (base : List Char)
    (h : ∀ part ∈ parts, partOf? part.text = some part ∧ '/' ∉ part.text) :
    body (parts.foldl (fun p part => append p part.text) base) = body base ++ parts := by
  induction parts generalizing base with
  | nil => exact (List.append_nil _).symm
  | cons part rest ih =>
    obtain ⟨hpart, hs⟩ := h part List.mem_cons_self
    rw [List.foldl_cons, ih _ fun x hx => h x (List.mem_cons_of_mem part hx), body_append,
      body_text hpart hs, List.append_assoc]
    rfl

/-- What a path is appended to when it is made absolute in a folder. -/
def base (folder path : List Char) : List Char :=
  if hasDoubleRoot path then ['/', '/'] else if isAbsolute path then ['/'] else folder

theorem isAbsolute_of_hasDoubleRoot {path : List Char} (h : hasDoubleRoot path = true) :
    isAbsolute path = true := by
  unfold hasDoubleRoot at h
  split at h
  · exact absurd h (by simp)
  · rfl
  · exact absurd h (by simp)

theorem base_of_isAbsolute {path : List Char} (h : isAbsolute path = true) (f g : List Char) :
    base f path = base g path := by
  simp only [base, h, if_true]

theorem base_of_relative {path : List Char} (h : isAbsolute path = false) (f : List Char) :
    base f path = f := by
  have hroot : hasDoubleRoot path = false := by
    rw [← Bool.not_eq_true]
    intro hroot
    exact absurd (isAbsolute_of_hasDoubleRoot hroot) (by simp [h])
  simp [base, h, hroot]

theorem body_base_of_isAbsolute {path : List Char} (h : isAbsolute path = true) (f : List Char) :
    body (base f path) = [] := by
  unfold base
  rw [if_pos h]
  split
  · rfl
  · rfl

/-- A path made absolute in a folder leads through the parts of the folder, unless it starts at the
root, and then through its own. -/
theorem body_absoluteFrom (folder path : List Char) : body (absoluteFrom folder path) =
    (if isAbsolute path then [] else body folder) ++ body path := by
  have hown : ∀ part ∈ body path, partOf? part.text = some part ∧ '/' ∉ part.text :=
    fun _ => of_mem_body
  have hfull := body_foldl_append (base folder path) hown
  have hbase : body (base folder path) = if isAbsolute path then [] else body folder := by
    cases h : isAbsolute path with
    | true => exact body_base_of_isAbsolute h folder
    | false => rw [base_of_relative h]; rfl
  rw [← hbase, ← hfull]
  unfold absoluteFrom
  dsimp only
  split
  · rw [body_append]
    exact List.append_nil _
  · rfl

/-- A path from the root is the same in all folders. -/
theorem absoluteFrom_of_isAbsolute {path : List Char} (h : isAbsolute path = true)
    (f g : List Char) : absoluteFrom f path = absoluteFrom g path := by
  have hbase := base_of_isAbsolute h f g
  unfold base at hbase
  simp only [absoluteFrom, hbase]

theorem isAbsolute_append {path : List Char} (h : isAbsolute path = true) (piece : List Char) :
    isAbsolute (append path piece) = true := by
  obtain ⟨r, rfl⟩ := List.head?_eq_some_iff.mp (beq_iff_eq.mp h)
  unfold append
  split
  · rfl
  · rfl

theorem isAbsolute_foldl_append {path : List Char} (h : isAbsolute path = true)
    (parts : List Part) :
    isAbsolute (parts.foldl (fun p part => append p part.text) path) = true := by
  induction parts generalizing path with
  | nil => exact h
  | cons part rest ih => exact ih (isAbsolute_append h part.text)

theorem isAbsolute_absoluteFrom {folder : List Char} (h : isAbsolute folder = true)
    (path : List Char) : isAbsolute (absoluteFrom folder path) = true := by
  have hbase : isAbsolute (base folder path) = true := by
    unfold base
    split
    · rfl
    · split
      · rfl
      · exact h
  have hfull := isAbsolute_foldl_append hbase (body path)
  unfold absoluteFrom
  dsimp only
  split
  · exact isAbsolute_append hfull []
  · exact hfull

theorem absolute?_eq_some {folder path : String} (h : path ≠ "") : absolute? folder path =
    some (String.ofList (absoluteFrom folder.toList path.toList)) := by
  simp [absolute?, h]

theorem ne_empty_of_absolute? {folder path full : String} (h : absolute? folder path = some full) :
    path ≠ "" := by
  rintro rfl
  exact absurd h (by simp [absolute?])

theorem isAbsolute_of_absolute? {folder path full : String}
    (hf : isAbsolute folder.toList = true) (h : absolute? folder path = some full) :
    isAbsolute full.toList = true := by
  rw [absolute?_eq_some (ne_empty_of_absolute? h)] at h
  rw [← Option.some.inj h, String.toList_ofList]
  exact isAbsolute_absoluteFrom hf _

/-- A path has one absolute path in two folders. -/
def MeansSame (f g path : String) : Prop :=
  ∃ full, absolute? f path = some full ∧ absolute? g path = some full

theorem meansSame_iff_of_absolute? {g path full : String} (h : absolute? g path = some full)
    (f : String) : MeansSame f g path ↔ absolute? f path = some full :=
  ⟨fun ⟨_, hf, hg⟩ => hf.trans (hg.symm.trans h), fun hf => ⟨full, hf, h⟩⟩

end Path

namespace Place

/-- Each name of a place can stand between the slashes of a path, and stands for itself there. -/
def Named (p : Place) : Prop :=
  ∀ n ∈ p, Path.partOf? n.toList = some (.name n.toList) ∧ '/' ∉ n.toList

instance (p : Place) : Decidable p.Named :=
  inferInstanceAs (Decidable (∀ n ∈ p, _ ∧ _))

theorem toList_path (p : Place) :
    p.path.toList = '/' :: List.intercalate ['/'] (p.map String.toList) := by
  rw [path, String.toList_append, String.toList_intercalate]
  rfl

theorem isAbsolute_path (p : Place) : Path.isAbsolute p.path.toList = true := by
  rw [toList_path]
  rfl

/-- The path of a place leads through its names. -/
theorem body_path {p : Place} (h : p.Named) :
    Path.body p.path.toList = p.map fun n => .name n.toList := by
  have hroot (s : List Char) : Path.body ('/' :: s) = Path.body s := Path.body_append_slash [] s
  rw [toList_path, hroot]
  cases p with
  | nil => rfl
  | cons n rest =>
    have hs : ∀ t ∈ (n :: rest).map String.toList, '/' ∉ t := by
      intro t ht
      obtain ⟨m, hm, rfl⟩ := List.mem_map.mp ht
      exact (h m hm).2
    rw [Path.body, Text.pieces_intercalate (by simp) hs, List.filterMap_map,
      ← List.filterMap_eq_map]
    exact List.filterMap_congr fun m hm => (h m hm).1

theorem eq_of_body_path {p q : Place} (hp : p.Named) (hq : q.Named)
    (h : Path.body p.path.toList = Path.body q.path.toList) : p = q := by
  rw [body_path hp, body_path hq] at h
  refine List.map_injective_iff.mpr (fun m n hmn => ?_) h
  exact String.toList_inj.mp (Path.Part.name.inj hmn)

/-- A path has one absolute path in two folders if it starts at the root or the folders are one,
and not otherwise. -/
theorem meansSame_iff {p q : Place} (hp : p.Named) (hq : q.Named) (path : String) :
    Path.MeansSame p.path q.path path ↔
      path ≠ "" ∧ (Path.isAbsolute path.toList = true ∨ p = q) := by
  constructor
  · rintro ⟨full, hfull, hsame⟩
    have hne := Path.ne_empty_of_absolute? hfull
    refine ⟨hne, ?_⟩
    cases hroot : Path.isAbsolute path.toList with
    | true => exact .inl rfl
    | false =>
      rw [Path.absolute?_eq_some hne] at hfull hsame
      have htexts := String.ofList_injective (Option.some.inj (hfull.trans hsame.symm))
      -- The two paths share the parts that are their own, so the folders have the same parts.
      have hbody := congrArg Path.body htexts
      rw [Path.body_absoluteFrom, Path.body_absoluteFrom, hroot] at hbody
      exact .inr (eq_of_body_path hp hq (List.append_cancel_right hbody))
  · rintro ⟨hne, hroot | rfl⟩
    · refine ⟨_, Path.absolute?_eq_some hne, ?_⟩
      rw [Path.absolute?_eq_some hne, Path.absoluteFrom_of_isAbsolute hroot]
    · exact ⟨_, Path.absolute?_eq_some hne, Path.absolute?_eq_some hne⟩

end Place

namespace Disk

variable {d : Disk}

theorem follow_named {parts : List Path.Part} {p q : Place} (hp : p.Named)
    (hparts : ∀ part ∈ parts, Path.partOf? part.text = some part ∧ '/' ∉ part.text)
    (h : d.follow p parts = .ok q) : q.Named := by
  induction parts generalizing p with
  | nil => exact Except.ok.inj h ▸ hp
  | cons part rest ih =>
    have hrest := fun x hx => hparts x (List.mem_cons_of_mem part hx)
    unfold follow at h
    split at h
    · exact absurd h (by simp)
    · split at h
      · exact ih (fun n hn => absurd hn List.not_mem_nil) hrest h
      · exact ih hp hrest h
      · exact ih (fun n hn => hp n (List.dropLast_subset p hn)) hrest h
      · next text =>
        refine ih (fun n hn => ?_) hrest h
        rcases List.mem_append.mp hn with hn | hn
        · exact hp n hn
        · rw [List.mem_singleton.mp hn, String.toList_ofList]
          exact hparts _ List.mem_cons_self
    · exact absurd h (by simp)

theorem follow_names {names p q : Place}
    (h : d.follow p (names.map fun n => .name n.toList) = .ok q) : q = p ++ names := by
  induction names generalizing p with
  | nil => rw [List.append_nil]; exact (Except.ok.inj h).symm
  | cons n rest ih =>
    rw [List.map_cons] at h
    unfold follow at h
    split at h
    · exact absurd h (by simp)
    · have hq := ih h
      rwa [String.ofList_toList, List.append_assoc] at hq
    · exact absurd h (by simp)

theorem follow_of_locate {folder p : Place} {path : String} (h : d.locate folder path = .ok p) :
    d.follow (if Path.isAbsolute path.toList then [] else folder) (Path.body path.toList) =
      .ok p := by
  unfold locate at h
  split at h
  · exact absurd h (by simp)
  · split at h
    · exact absurd h (by simp)
    · exact h

theorem locate_named {folder p : Place} {path : String} (hf : folder.Named)
    (h : d.locate folder path = .ok p) : p.Named := by
  refine follow_named ?_ (fun part hp => Path.of_mem_body hp) (follow_of_locate h)
  split
  · exact fun n hn => absurd hn List.not_mem_nil
  · exact hf

/-- The path of a place leads to that place if it leads anywhere. -/
theorem eq_of_locate_path {folder p q : Place} (hp : p.Named)
    (h : d.locate folder p.path = .ok q) : q = p := by
  have hfollow := follow_of_locate h
  rw [p.isAbsolute_path, Place.body_path hp] at hfollow
  exact follow_names hfollow

end Disk

end AgdaConsole
