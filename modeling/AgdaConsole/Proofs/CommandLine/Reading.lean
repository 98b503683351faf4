import AgdaConsole.CommandLine.Scan

namespace AgdaConsole

section

variable {ε α β : Type}

theorem bind_eq_ok {x : Except ε α} {f : α → Except ε β} {b : β} :
    x.bind f = .ok b ↔ ∃ a, x = .ok a ∧ f a = .ok b := by
  cases x <;> simp [Except.bind]

theorem map_eq_ok {x : Except ε α} {f : α → β} {b : β} :
    x.map f = .ok b ↔ ∃ a, x = .ok a ∧ f a = b := by
  cases x <;> simp [Except.map]

theorem mapError_eq_ok {δ : Type} {x : Except ε α} {f : ε → δ} {a : α} :
    x.mapError f = .ok a ↔ x = .ok a := by
  cases x with
  | error e => exact iff_of_false (fun h => nomatch h) fun h => nomatch h
  | ok b =>
    have hb : (Except.ok b : Except ε α).mapError f = .ok b := rfl
    rw [hb, Except.ok.injEq, Except.ok.injEq]

end

namespace Level

/-- A word does not lead out of a level, is no value of a flag that takes any word, and does not
ask for help. -/
def Keeps (l : Level) (s : Scan) (w : String) : Prop :=
  match s.waiting? with
  | some f => f.takesAnyWord = false
  | none => l.enter? w = none ∧ (l.needsCommand && w == "help") = false

/-- The ways in which some words are read from a level on without an error. -/
inductive Scans : Level → Scan → List String → Reading → Prop
  | finish {l : Level} {s : Scan} {settings : List Setting} (h : s.finish l = .ok settings) :
      Scans l s [] [(l, settings)]
  | value {l : Level} {s : Scan} {w : String} {ws : List String} {f : Flag} {reading : Reading}
      (hf : s.waiting? = some f) (hany : f.takesAnyWord = true)
      (h : Scans l { s with pending := some (f, some w) } ws reading) : Scans l s (w :: ws) reading
  | enter {l m : Level} {s t : Scan} {w : String} {ws : List String} {reading : Reading}
      (hf : s.waiting? = none) (hm : l.enter? w = some m) (h : Scans m {} ws reading)
      (ht : s.settle = .ok t) : Scans l s (w :: ws) ((l, t.settings) :: reading)
  | dashes {l : Level} {s : Scan} {ws : List String} {settings : List Setting}
      (hk : l.Keeps s "--") (h : s.afterDashes l ws = .ok settings) :
      Scans l s ("--" :: ws) [(l, settings)]
  | word {l : Level} {s t : Scan} {w : String} {ws : List String} {reading : Reading}
      (hk : l.Keeps s w) (hd : w ≠ "--") (hw : s.word l w = .ok t) (h : Scans l t ws reading) :
      Scans l s (w :: ws) reading

variable {l : Level} {s : Scan} {ws : List String} {reading : Reading}

theorem scan_of_keeps {w : String} (hk : l.Keeps s w) : l.scan s (w :: ws) =
    if w == "--" then (s.afterDashes l ws).map fun settings => [(l, settings)]
    else (s.word l w).bind fun s => l.scan s ws := by
  unfold Keeps at hk
  split at hk
  · next f hf =>
    rw [scan, hf]
    simp only [hk]
    rfl
  · next hf =>
    obtain ⟨hm, hhelp⟩ := hk
    rw [scan, hf]
    simp only [hm, hhelp]
    rfl

theorem scans_of_scan (h : l.scan s ws = .ok reading) : l.Scans s ws reading := by
  induction ws generalizing l s reading with
  | nil =>
    obtain ⟨settings, hset, rfl⟩ := map_eq_ok.mp h
    exact .finish hset
  | cons w ws ih =>
    have hkeeps : l.Keeps s w → l.Scans s (w :: ws) reading := by
      intro hk
      rw [scan_of_keeps hk] at h
      split at h
      · next hd =>
        obtain rfl := beq_iff_eq.mp hd
        obtain ⟨settings, hset, rfl⟩ := map_eq_ok.mp h
        exact .dashes hk hset
      · next hd =>
        obtain ⟨t, hw, h⟩ := bind_eq_ok.mp h
        exact .word hk (by simpa using hd) hw (ih h)
    cases hf : s.waiting? with
    | some f =>
      cases hany : f.takesAnyWord with
      | true =>
        rw [scan, hf] at h
        simp only [hany, if_true] at h
        exact .value hf hany (ih h)
      | false =>
        refine hkeeps ?_
        rw [Keeps, hf]
        exact hany
    | none =>
      cases hm : l.enter? w with
      | some m =>
        rw [scan, hf] at h
        simp only [hm] at h
        obtain ⟨inner, hinner, h⟩ := bind_eq_ok.mp h
        obtain ⟨t, ht, rfl⟩ := map_eq_ok.mp h
        exact .enter hf hm (ih hinner) ht
      | none =>
        cases hhelp : l.needsCommand && w == "help" with
        | true =>
          rw [scan, hf] at h
          simp [hm, hhelp] at h
        | false =>
          refine hkeeps ?_
          rw [Keeps, hf]
          exact ⟨hm, hhelp⟩

theorem scan_of_scans (h : l.Scans s ws reading) : l.scan s ws = .ok reading := by
  induction h with
  | finish h =>
    rw [scan, h]
    rfl
  | value hf hany _ ih =>
    rw [scan, hf]
    simp only [hany, if_true]
    exact ih
  | enter hf hm _ ht ih =>
    rw [scan, hf]
    simp only [hm, ih, ht]
    rfl
  | dashes hk h =>
    rw [scan_of_keeps hk, if_pos (beq_self_eq_true _), h]
    rfl
  | word hk hd hw _ ih =>
    rw [scan_of_keeps hk, if_neg (by simpa using hd), hw]
    exact ih

end Level

end AgdaConsole
