import AgdaConsole.Disk
import Mathlib.Data.List.Basic

namespace AgdaConsole.Disk

variable {d : Disk} {p : Place}

theorem node?_put_self (hp : p ≠ []) (n : Node) : (d.put p n).node? p = some n := by
  simp [node?, put, hp]

theorem lookup_filter_ne {q : Place} (hq : q ≠ p) (nodes : List (Place × Node)) :
    (nodes.filter fun entry => entry.1 ≠ p).lookup q = nodes.lookup q := by
  induction nodes with
  | nil => rfl
  | cons entry rest ih =>
    obtain ⟨r, n⟩ := entry
    by_cases hr : r = p
    · have hqr : (q == r) = false := by simpa [hr] using hq
      rw [List.filter_cons_of_neg (by simp [hr]), ih, List.lookup_cons, hqr]
    · rw [List.filter_cons_of_pos (by simp [hr]), List.lookup_cons, List.lookup_cons, ih]

theorem node?_put_other {q : Place} (hq : q ≠ p) (n : Node) : (d.put p n).node? q = d.node? q := by
  have hqp : (q == p) = false := by simpa using hq
  unfold node?
  rw [put, List.lookup_cons, hqp, lookup_filter_ne hq]

theorem put_put (n m : Node) : (d.put p n).put p m = d.put p m := by
  simp [put]

theorem follow_put (h : d.node? p ≠ some .folder) (n : Node) {parts : List Path.Part}
    {q r : Place} (hf : d.follow q parts = .ok r) : (d.put p n).follow q parts = .ok r := by
  induction parts generalizing q with
  | nil => exact hf
  | cons part rest ih =>
    unfold follow at hf ⊢
    cases hq : d.node? q with
    | none => simp [hq] at hf
    | some node =>
      cases node with
      | text t => simp [hq] at hf
      | binary => simp [hq] at hf
      | folder =>
        -- A path leads on from folders only, so never through the place itself.
        have hne : q ≠ p := fun he => h (he ▸ hq)
        rw [hq] at hf
        rw [node?_put_other hne, hq]
        cases part with
        | root => exact ih hf
        | here => exact ih hf
        | up => exact ih hf
        | name text => exact ih hf

/-- The text at a place where a file can be. It is empty as long as there is no file. -/
def Holds (d : Disk) (p : Place) (text : String) : Prop :=
  d.node? p = some (.text text) ∨ d.node? p = none ∧ text = ""

/-- A path leads from a folder to a place, and may name a file there. -/
structure Reaches (d : Disk) (folder : Place) (path : String) (p : Place) : Prop where
  locate : d.locate folder path = .ok p
  file : folderOnly? path = none

theorem Holds.not_folder {text : String} (h : d.Holds p text) : d.node? p ≠ some .folder := by
  rcases h with h | ⟨h, -⟩
  · simp [h]
  · simp [h]

theorem Holds.ne_root {text : String} (h : d.Holds p text) : p ≠ [] := by
  rintro rfl
  exact h.not_folder rfl

theorem Holds.put {text : String} (h : d.Holds p text) (new : String) :
    (d.put p (.text new)).Holds p new :=
  .inl (node?_put_self h.ne_root _)

theorem Reaches.put {folder : Place} {path : String} {q : Place} (h : d.Reaches folder path q)
    (hp : d.node? p ≠ some .folder) (n : Node) : (d.put p n).Reaches folder path q := by
  refine ⟨?_, h.file⟩
  have hl := h.locate
  unfold Disk.locate at hl ⊢
  by_cases hempty : path.isEmpty = true
  · rw [if_pos hempty] at hl
    exact absurd hl (by simp)
  by_cases hnul : hasNul path = true
  · rw [if_neg hempty, if_pos hnul] at hl
    exact absurd hl (by simp)
  rw [if_neg hempty, if_neg hnul] at hl ⊢
  exact follow_put hp n hl

theorem Reaches.appendText {folder : Place} {path old : String} (h : d.Reaches folder path p)
    (hold : d.Holds p old) (new : String) :
    d.appendText folder path new = .ok (d.put p (.text (old ++ new))) := by
  unfold Disk.appendText
  rw [h.locate, h.file]
  rcases hold with hold | ⟨hnone, rfl⟩
  · simp [Except.bind, hold]
  · simp [Except.bind, hnone]

theorem Reaches.find {folder : Place} {path text : String} (h : d.Reaches folder path p)
    (ht : d.node? p = some (.text text)) : d.find folder path = .ok (.text text) := by
  unfold Disk.find
  rw [h.locate, h.file]
  simp [Except.bind, ht]

end AgdaConsole.Disk
