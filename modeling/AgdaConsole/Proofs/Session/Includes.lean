import AgdaConsole.Config
import AgdaConsole.Proofs.Session.Launches

namespace AgdaConsole

namespace Path

theorem same_iff {p q : String} : same p q = true ↔ parts p.toList = parts q.toList :=
  beq_iff_eq

/-- The paths of a list without those that are the same as an earlier one. -/
def firsts : List String → List String
  | [] => []
  | p :: ps => p :: (firsts ps).filter fun q => !same p q

theorem firsts_sublist (ps : List String) : (firsts ps).Sublist ps := by
  induction ps with
  | nil => exact List.Sublist.refl _
  | cons p ps ih => exact (List.filter_sublist.trans ih).cons_cons p

theorem firsts_pairwise (ps : List String) :
    (firsts ps).Pairwise fun p q => same p q = false := by
  induction ps with
  | nil => exact .nil
  | cons p ps ih =>
    refine List.pairwise_cons.mpr ⟨fun q hq => ?_, ih.filter _⟩
    have hkept := (List.mem_filter.mp hq).2
    simpa using hkept

theorem firsts_concat_of_new {ps : List String} {p : String}
    (h : ∀ q ∈ ps, same q p = false) : firsts (ps ++ [p]) = firsts ps ++ [p] := by
  induction ps with
  | nil => rfl
  | cons x ps ih =>
    have hx := h x List.mem_cons_self
    have hps : ∀ q ∈ ps, same q p = false := fun q hq => h q (List.mem_cons_of_mem x hq)
    rw [List.cons_append, firsts, ih hps]
    simp [firsts, hx]

theorem firsts_concat_of_same {ps : List String} {p : String}
    (h : ∃ q ∈ ps, same q p = true) : firsts (ps ++ [p]) = firsts ps := by
  induction ps with
  | nil =>
    obtain ⟨q, hq, -⟩ := h
    exact absurd hq List.not_mem_nil
  | cons x ps ih =>
    rw [List.cons_append, firsts, firsts]
    by_cases hps : ∃ q ∈ ps, same q p = true
    · rw [ih hps]
    · have hx : same x p = true := by
        obtain ⟨q, hq, hs⟩ := h
        rcases List.mem_cons.mp hq with rfl | hq
        · exact hs
        · exact absurd ⟨q, hq, hs⟩ hps
      have hnew : ∀ q ∈ ps, same q p = false := fun q hq => by
        simpa using fun hs => hps ⟨q, hq, hs⟩
      rw [firsts_concat_of_new hnew]
      simp [hx]

theorem exists_mem_firsts {ps : List String} {p : String} (hp : p ∈ ps) :
    ∃ q ∈ firsts ps, same q p = true := by
  induction ps with
  | nil => exact absurd hp List.not_mem_nil
  | cons x ps ih =>
    by_cases hx : same x p = true
    · exact ⟨x, List.mem_cons_self, hx⟩
    · have hm : p ∈ ps := by
        rcases List.mem_cons.mp hp with rfl | hm
        · exact absurd (same_iff.mpr rfl) hx
        · exact hm
      obtain ⟨q, hq, hs⟩ := ih hm
      have hxq : same x q = false := by
        rw [Bool.eq_false_iff]
        intro h
        exact hx (same_iff.mpr ((same_iff.mp h).trans (same_iff.mp hs)))
      refine ⟨q, List.mem_cons_of_mem x (List.mem_filter.mpr ⟨hq, ?_⟩), hs⟩
      simp [hxq]

end Path

theorem addPath_of_same {ps : List String} {p : String} (h : ∃ q ∈ ps, Path.same q p = true) :
    addPath ps p = ps := by
  have hany : (ps.any fun q => Path.same q p) = true := List.any_eq_true.mpr h
  unfold addPath
  rw [if_pos hany]

theorem addPath_of_new {ps : List String} {p : String} (h : ∀ q ∈ ps, Path.same q p = false) :
    addPath ps p = ps ++ [p] := by
  have hany : (ps.any fun q => Path.same q p) = false := List.any_eq_false.mpr fun q hq => by
    simp [h q hq]
  unfold addPath
  rw [hany]
  rfl

namespace Path

theorem firsts_concat (ps : List String) (p : String) :
    firsts (ps ++ [p]) = addPath (firsts ps) p := by
  by_cases h : ∃ q ∈ ps, same q p = true
  · have hkept : ∃ q ∈ firsts ps, same q p = true := by
      obtain ⟨q, hq, hs⟩ := h
      obtain ⟨r, hr, hrq⟩ := exists_mem_firsts hq
      exact ⟨r, hr, same_iff.mpr ((same_iff.mp hrq).trans (same_iff.mp hs))⟩
    rw [firsts_concat_of_same h, addPath_of_same hkept]
  · have hnew : ∀ q ∈ ps, same q p = false := fun q hq => by
      simpa using fun hs => h ⟨q, hq, hs⟩
    rw [firsts_concat_of_new hnew, addPath_of_new fun q hq => hnew q ((firsts_sublist ps).mem hq)]

theorem foldl_addPath (ps qs : List String) :
    qs.foldl addPath (firsts ps) = firsts (ps ++ qs) := by
  induction qs generalizing ps with
  | nil => rw [List.append_nil]; rfl
  | cons q qs ih =>
    rw [List.foldl_cons, ← firsts_concat, ih, List.append_assoc]
    rfl

theorem firsts_addPath (ps : List String) (p : String) :
    firsts (addPath ps p) = firsts (ps ++ [p]) := by
  by_cases h : ∃ q ∈ ps, same q p = true
  · rw [addPath_of_same h, firsts_concat_of_same h]
  · rw [addPath_of_new fun q hq => by simpa using fun hs => h ⟨q, hq, hs⟩]

/-- It does not matter whether repeated paths are left out when they are added to a list that may
have some itself, or only afterwards. -/
theorem firsts_foldl_addPath (ps qs : List String) :
    firsts (qs.foldl addPath ps) = firsts (ps ++ qs) := by
  induction qs generalizing ps with
  | nil => rw [List.append_nil]; rfl
  | cons q qs ih =>
    rw [List.foldl_cons, ih, ← foldl_addPath, firsts_addPath, foldl_addPath, List.append_assoc]
    rfl

end Path

def Setting.includePath? : Setting → Option String
  | .includePath p => some p
  | _ => none

theorem Config.includes_apply (c : Config) (settings : List Setting) :
    (c.apply settings).backend.includes =
      (settings.filterMap Setting.includePath?).foldl addPath c.backend.includes := by
  unfold apply
  induction settings generalizing c with
  | nil => rfl
  | cons x settings ih =>
    rw [List.foldl_cons, ih]
    cases x <;> rfl

theorem Config.firsts_includes_apply (c : Config) (settings : List Setting) (rest : List String) :
    Path.firsts ((c.apply settings).backend.includes ++ rest) =
      Path.firsts (c.backend.includes ++ settings.filterMap Setting.includePath? ++ rest) := by
  rw [includes_apply, ← Path.foldl_addPath, Path.firsts_foldl_addPath, Path.foldl_addPath]

theorem Invocation.checkArgs_eq {i : Invocation} {paths : List String} (h : i.includes = paths)
    (path : String) : i.checkArgs path = ["--no-main", "--compile"] ++
      (paths.map fun p => ["--include-path", p]).flatten ++ [path] := by
  rw [checkArgs, includeArgs, h]
  rfl

theorem Invocation.includes_addIncludes (i : Invocation) (paths : List String) :
    (i.addIncludes paths).includes = paths.foldl addPath i.includes := by
  unfold addIncludes
  induction paths generalizing i with
  | nil => rfl
  | cons p paths ih =>
    rw [List.foldl_cons, ih]
    rfl

theorem Config.includes_invocation (c : Config) (folder : String) :
    (c.invocation folder).includes = Path.firsts c.backend.includes := by
  unfold Config.invocation Invocation.make
  rw [Invocation.includes_addIncludes]
  exact Path.foldl_addPath [] c.backend.includes

namespace Session

/-- Every check of a session has the arguments of its start, whatever lines come. -/
theorem args_after {host : Host} {path : String} {invocation : Invocation} {prelude : Option String}
    {s₀ : Session} (h : start host (.create path) invocation prelude = (.ok (), s₀))
    (lines : List String) : let s := s₀.after host lines
      s.invocation = s₀.invocation ∧ s.scratch.path = path ∧
        ∀ r ∈ Event.runs s.log, r.args = s₀.invocation.checkArgs path := by
  obtain ⟨included, hstart⟩ := start_follows host path invocation prelude
  obtain ⟨s, hs, hfollows⟩ := hstart host.backend
  obtain rfl : s = s₀ := (Prod.mk.inj (hs.symm.trans h)).2
  have hafter := hfollows.after host lines
  have hinvocation : (s.after host lines).invocation = s.invocation :=
    hafter.invocation.trans hfollows.invocation.symm
  have hpath : (s.after host lines).scratch.path = path := congrArg Scratch.path hafter.scratch
  have hrecorded : s.Recorded host := by
    have hr := Recorded.start host (.create path) invocation prelude
    rwa [h] at hr
  refine ⟨hinvocation, hpath, fun r hr => ?_⟩
  rw [((Recorded.kept host).after hrecorded lines).args r hr, hinvocation, hpath]

/-- The folders that every check searches, in their order: those of the configuration, those of the
settings, and the one of the prelude, each where it is named first. Paths with the same parts count
as one, and what is written first is kept. So none is searched twice, none is lost, and none changes
its place among the others. -/
theorem include_law (host : Host) (path folder : String) (c : Config) (settings : List Setting) :
    let config := c.apply settings
    let named := c.backend.includes ++ settings.filterMap Setting.includePath? ++
      (preludeFolder host config.repl.prelude).toList
    let args := ["--no-main", "--compile"] ++
      ((Path.firsts named).map fun p => ["--include-path", p]).flatten ++ [path]
    (∃ s₀, start host (.create path) (config.invocation folder) config.repl.prelude =
        (.ok (), s₀) ∧
      ∀ lines, let s := s₀.after host lines
        s.invocation.checkArgs s.scratch.path = args ∧ ∀ r ∈ Event.runs s.log, r.args = args) ∧
    (Path.firsts named).Sublist named ∧
    ((Path.firsts named).Pairwise fun p q => Path.same p q = false) ∧
    ∀ p ∈ named, ∃ q ∈ Path.firsts named, Path.same q p = true := by
  intro config named args
  refine ⟨?_, Path.firsts_sublist named, Path.firsts_pairwise named,
    fun p hp => Path.exists_mem_firsts hp⟩
  obtain ⟨s₀, included, hs₀, hlaunched, -, hincludes⟩ :=
    start_launched host path (config.invocation folder) config.repl.prelude
  have hsearched : s₀.invocation.includes = Path.firsts named := by
    rw [hlaunched.invocation, hincludes, Config.includes_invocation, Path.foldl_addPath,
      Config.firsts_includes_apply]
  have hargs : s₀.invocation.checkArgs path = args := Invocation.checkArgs_eq hsearched path
  refine ⟨s₀, hs₀, fun lines => ?_⟩
  obtain ⟨hinvocation, hpath, hruns⟩ := args_after hs₀ lines
  intro s
  refine ⟨?_, fun r hr => (hruns r hr).trans hargs⟩
  rw [hinvocation, hpath]
  exact hargs

theorem include_law_lib :
    let backend : Backend :=
      { launch := fun _ => .ok ⟨"/bin/agda", "/s"⟩, reply := fun _ => ⟨"", ⟨0⟩, true⟩ }
    let host : Host := ⟨["w"], "/h", "/s/A.agda", backend, fun _ => ""⟩
    let c : Config :=
      ⟨{ includes := ["/lib", "lib", "/lib/"] }, ⟨some "/lib/P.agda", none⟩, {}⟩
    let settings : List Setting := [.includePath "//lib/.", .includePath "./lib"]
    let args := ["--no-main", "--compile", "--include-path", "/lib", "--include-path", "lib",
      "--include-path", "./lib", "/s/A.agda"]
    ∃ s₀, start host (.create "/s/A.agda") ((c.apply settings).invocation "/s")
        (c.apply settings).repl.prelude = (.ok (), s₀) ∧
      (∃ r, Event.runs s₀.log = [r] ∧ r.args = args) ∧
      ∀ lines, let s := s₀.after host lines
        s.invocation.checkArgs s.scratch.path = args ∧
          ∀ r ∈ Event.runs s.log, r.args = args := by
  intro backend host c settings args
  have hfolder : preludeFolder host (c.apply settings).repl.prelude = some "/lib" := by
    have hdir : Path.folderOf "/lib/P.agda" = "/lib" := by rfl
    change Path.absolute? _ (Path.folderOf "/lib/P.agda") = some "/lib"
    rw [hdir]
    rfl
  have hfirsts : Path.firsts ["/lib", "lib", "/lib/", "//lib/.", "./lib", "/lib"] =
      ["/lib", "lib", "./lib"] := by rfl
  have hlaw := (include_law host "/s/A.agda" "/s" c settings).1
  rw [hfolder] at hlaw
  change ∃ s₀, _ ∧ ∀ lines, _ = _ ++ ((Path.firsts
    ["/lib", "lib", "/lib/", "//lib/.", "./lib", "/lib"]).map _).flatten ++ _ ∧ _ at hlaw
  rw [hfirsts] at hlaw
  obtain ⟨s₀, hs₀, hlines⟩ := hlaw
  have hruns : (Event.runs (start host (.create "/s/A.agda") ((c.apply settings).invocation "/s")
      (c.apply settings).repl.prelude).2.log).length = 1 := by rfl
  rw [hs₀] at hruns
  obtain ⟨r, hr⟩ := List.length_eq_one_iff.mp hruns
  have hmem : r ∈ Event.runs (s₀.after host []).log := hr ▸ List.mem_singleton.mpr rfl
  exact ⟨s₀, hs₀, ⟨r, hr, (hlines []).2 r hmem⟩, hlines⟩

end Session

end AgdaConsole
