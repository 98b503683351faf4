import AgdaConsole.Proofs.Config.Validity
import AgdaConsole.Proofs.Path.Folder

namespace AgdaConsole

namespace Path

theorem parts_of_isAbsolute {path : List Char} (h : isAbsolute path = true) :
    parts path = .root :: body path := by
  rw [parts, start, if_pos h]
  rfl

/-- A file name is one part of a path. -/
theorem body_fileName {path name : String} (h : fileName? path = some name) :
    body name.toList = [.name name.toList] := by
  have hpart := of_mem_body (List.mem_of_getLast? (getLast?_body h))
  exact body_text hpart.1 hpart.2

/-- The absolute path of the folder of a file leads to the absolute path of the file, when the name
of the file is appended. -/
theorem parts_append_fileName {folder path name : String} (h : fileName? path = some name)
    (hfolder : isAbsolute folder.toList = true) {dir full : String}
    (hdir : absolute? folder (folderOf path) = some dir)
    (hfull : absolute? folder path = some full) :
    parts (append dir.toList name.toList) = parts full.toList := by
  obtain ⟨hbody, hroot⟩ := folderOf_of_fileName? h
  have hdirRoot := isAbsolute_of_absolute? hfolder hdir
  have hfullRoot := isAbsolute_of_absolute? hfolder hfull
  rw [parts_of_isAbsolute (isAbsolute_append hdirRoot _), parts_of_isAbsolute hfullRoot,
    body_append, body_fileName h]
  rw [absolute?_eq_some (ne_empty_of_absolute? hdir)] at hdir
  rw [absolute?_eq_some (ne_empty_of_absolute? hfull)] at hfull
  rw [← Option.some.inj hdir, ← Option.some.inj hfull, String.toList_ofList, String.toList_ofList,
    body_absoluteFrom, body_absoluteFrom, hroot, List.append_assoc, hbody]

end Path

theorem Config.exists_fileName {config : Config} {prelude : String}
    (hvalid : config.validate = .ok ()) (hprelude : config.repl.prelude = some prelude) :
    ∃ name, Path.fileName? prelude = some name := by
  have hsuffix := ((validate_eq_ok_iff config).mp hvalid).2 prelude hprelude
  cases hname : Path.fileName? prelude with
  | some name => exact ⟨name, rfl⟩
  | none =>
    rw [Path.fileName, hname] at hsuffix
    exact absurd hsuffix (by decide)

namespace Scratch

/-- Importing a prelude writes its line, which is all that can fail, and gives the absolute path of
the folder of the prelude. -/
theorem importPrelude_eq (s : Scratch) {folder prelude dir : String}
    (hdir : Path.absolute? folder (Path.folderOf prelude) = some dir) :
    s.importPrelude folder prelude =
      ((s.append (importLine prelude)).1.map fun _ => dir, (s.append (importLine prelude)).2) := by
  unfold importPrelude
  split
  next e t ht => simp [ht, Except.map]
  next t ht => simp [ht, hdir, Except.map]

theorem append_of_disk {s : Scratch} (h : s.disk.isSome = true) (text : String) :
    (s.append text).1 = .ok () := by
  obtain ⟨t, ht⟩ := Option.isSome_iff_exists.mp h
  simp [append, write, ht]

theorem append_ne_prelude (s : Scratch) (text path : String) :
    (s.append text).1 ≠ .error (.prelude path) := by
  cases h : s.disk <;> simp [append, write, h]

theorem importPrelude_ne_prelude (s : Scratch) (folder p q : String) :
    (s.importPrelude folder p).1 ≠ .error (.prelude q) := by
  obtain ⟨dir, hdir⟩ := Path.exists_absolute?_folderOf folder p
  rw [importPrelude_eq s hdir]
  cases happend : (s.append (importLine p)).1 with
  | ok _ => simp [Except.map]
  | error e =>
    intro h
    obtain rfl : e = .prelude q := Except.error.inj h
    exact append_ne_prelude s (importLine p) q happend

/-- Where the scratch file can be written, a prelude of a valid configuration is imported, and the
folder that is searched for it holds it: the path of the folder is absolute, and with the name of
the file it leads through the same parts as the absolute path of the prelude. That a prelude cannot
be resolved happens to no path and to no scratch file. -/
theorem prelude_folder_law {config : Config} {prelude folder : String} {s : Scratch}
    (hvalid : config.validate = .ok ()) (hprelude : config.repl.prelude = some prelude)
    (hfolder : Path.isAbsolute folder.toList = true) (hdisk : s.disk.isSome = true) :
    (∃ dir name full,
      s.importPrelude folder prelude = (.ok dir, (s.append (importLine prelude)).2) ∧
        Path.isAbsolute dir.toList = true ∧ Path.fileName? prelude = some name ∧
        Path.absolute? folder prelude = some full ∧
        Path.parts (Path.append dir.toList name.toList) = Path.parts full.toList) ∧
    ∀ (t : Scratch) (p q : String), (t.importPrelude folder p).1 ≠ .error (.prelude q) := by
  obtain ⟨name, hname⟩ := Config.exists_fileName hvalid hprelude
  obtain ⟨dir, hdir⟩ := Path.exists_absolute?_folderOf folder prelude
  have hne : prelude ≠ "" := by
    rintro rfl
    have hempty : Path.fileName? "" = none := by decide
    exact absurd (hname.symm.trans hempty) (by simp)
  have hfull : Path.absolute? folder prelude =
      some (String.ofList (Path.absoluteFrom folder.toList prelude.toList)) :=
    Path.absolute?_eq_some hne
  refine ⟨⟨dir, name, _, ?_, Path.isAbsolute_of_absolute? hfolder hdir, hname, hfull,
    Path.parts_append_fileName hname hfolder hdir hfull⟩,
    fun t p q => importPrelude_ne_prelude t folder p q⟩
  rw [importPrelude_eq s hdir, append_of_disk hdisk]
  rfl

theorem prelude_folder_law_parent :
    let config : Config := { repl := { prelude := some "./a/..//P.lagda.md/." } }
    let s : Scratch := .create "/s/A.agda"
    config.validate = .ok () ∧ Path.isAbsolute "/w".toList = true ∧ s.disk.isSome = true ∧
      ∃ t, s.importPrelude "/w" "./a/..//P.lagda.md/." = (.ok "/w/a/..", t) ∧
        Path.parts (Path.append "/w/a/..".toList "P.lagda.md".toList) =
          Path.parts "/w/a/../P.lagda.md".toList := by
  intro config s
  have hvalid : config.validate = .ok () := by decide
  have hfolder : Path.isAbsolute "/w".toList = true := by decide
  have hdisk : s.disk.isSome = true := rfl
  obtain ⟨⟨dir, name, full, himport, -, hname, hfull, hparts⟩, -⟩ :=
    prelude_folder_law hvalid rfl hfolder hdisk
  have hdir : (s.importPrelude "/w" "./a/..//P.lagda.md/.").1 = .ok "/w/a/.." := by decide
  rw [himport] at hdir
  obtain rfl : dir = "/w/a/.." := Except.ok.inj hdir
  obtain rfl : "P.lagda.md" = name := by
    have h : Path.fileName? "./a/..//P.lagda.md/." = some "P.lagda.md" := by decide
    exact Option.some.inj (h.symm.trans hname)
  obtain rfl : "/w/a/../P.lagda.md" = full := by
    have h : Path.absolute? "/w" "./a/..//P.lagda.md/." = some "/w/a/../P.lagda.md" := by
      decide
    exact Option.some.inj (h.symm.trans hfull)
  exact ⟨hvalid, hfolder, hdisk, _, himport, hparts⟩

end Scratch

end AgdaConsole
