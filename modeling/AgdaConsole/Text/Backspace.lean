import AgdaConsole.Text.Bytes
import AgdaConsole.Text.Cluster

namespace AgdaConsole.Text

/-- A text that is being typed: its characters, and the sizes of its clusters, both last one
first. -/
structure Typing where
  text : List Char
  sizes : List Nat

/-- Type a cluster. A backspace takes the last cluster away, and does nothing if there is none.
The size of a cluster is kept in one byte, so that of a cluster of more bytes than a byte can count
only the last ones are taken away. -/
def Typing.type (t : Typing) (cluster : List Char) : Typing :=
  if cluster = ['\x08'] then
    match t.sizes with
    | [] => t
    | n :: sizes => ⟨dropBytes n t.text, sizes⟩
  else ⟨cluster.reverse ++ t.text, byteCount cluster % 256 :: t.sizes⟩

/-- What is left of a text when it is typed with its backspaces. -/
def typed (s : List Char) : List Char :=
  ((clusters s).foldl Typing.type ⟨[], []⟩).text.reverse

/-- The clusters that are kept when one more is typed after them. A backspace takes the last one
away. -/
def keepCluster (kept : List (List Char)) (cluster : List Char) : List (List Char) :=
  if cluster = ['\x08'] then kept.dropLast else kept ++ [cluster]

/-- The clusters that the backspaces of a text leave. -/
def keptClusters (s : List Char) : List (List Char) := (clusters s).foldl keepCluster []

/-- When some clusters are typed after those that are kept, the backspaces among them take no cluster
away that has more bytes than one byte can count. -/
def ErasesSmall (kept cs : List (List Char)) : Prop :=
  ∀ before, before ++ [['\x08']] <+: cs →
    ∀ cluster ∈ (before.foldl keepCluster kept).getLast?, byteCount cluster < 256

/-- A backspace takes back a cluster of fewer than 256 bytes that was typed before it. -/
theorem Typing.type_backspace (t : Typing) {cluster : List Char} (hc : cluster ≠ ['\x08'])
    (hn : byteCount cluster < 256) : (t.type cluster).type ['\x08'] = t := by
  have hd := dropBytes_byteCount_append cluster.reverse t.text
  rw [byteCount_reverse] at hd
  simp [Typing.type, hc, Nat.mod_eq_of_lt hn, hd]

theorem text_foldl_type (cs : List (List Char)) (h : ['\x08'] ∉ cs) (t : Typing) :
    (cs.foldl Typing.type t).text = cs.flatten.reverse ++ t.text := by
  induction cs generalizing t with
  | nil => simp
  | cons c r ih =>
    have hc : c ≠ ['\x08'] := fun hh => h (by simp [hh])
    have hr : ['\x08'] ∉ r := fun hh => h (List.mem_cons_of_mem c hh)
    simp [ih hr, Typing.type, hc]

theorem ErasesSmall.tail {kept cs : List (List Char)} {cluster : List Char}
    (h : ErasesSmall kept (cluster :: cs)) : ErasesSmall (keepCluster kept cluster) cs :=
  fun before hb => h (cluster :: before) (List.cons_prefix_cons.mpr ⟨rfl, hb⟩)

theorem not_mem_keepCluster {kept : List (List Char)} (hk : ['\x08'] ∉ kept)
    (cluster : List Char) : ['\x08'] ∉ keepCluster kept cluster := by
  unfold keepCluster
  split
  · exact fun h => hk ((List.dropLast_sublist kept).subset h)
  · next hc => simp [hk, Ne.symm hc]

/-- To type a cluster after those that are kept is to keep it with them. -/
theorem type_foldl_type {kept cs : List (List Char)} {cluster : List Char}
    (hk : ['\x08'] ∉ kept) (h : ErasesSmall kept (cluster :: cs)) :
    (kept.foldl Typing.type ⟨[], []⟩).type cluster =
      (keepCluster kept cluster).foldl Typing.type ⟨[], []⟩ := by
  by_cases hc : cluster = ['\x08']
  · subst hc
    rw [keepCluster, if_pos rfl]
    rcases List.eq_nil_or_concat kept with rfl | ⟨front, last, rfl⟩
    · rfl
    · have hlast : last ≠ ['\x08'] := fun he => hk (by simp [he])
      have hsmall : byteCount last < 256 :=
        h [] (List.cons_prefix_cons.mpr ⟨rfl, List.nil_prefix⟩) last (by simp)
      rw [List.concat_eq_append, List.foldl_append, List.dropLast_concat]
      exact Typing.type_backspace _ hlast hsmall
  · rw [keepCluster, if_neg hc, List.foldl_append]
    rfl

theorem foldl_type_eq {kept cs : List (List Char)} (hk : ['\x08'] ∉ kept)
    (h : ErasesSmall kept cs) : cs.foldl Typing.type (kept.foldl Typing.type ⟨[], []⟩) =
      (cs.foldl keepCluster kept).foldl Typing.type ⟨[], []⟩ ∧
    ['\x08'] ∉ cs.foldl keepCluster kept := by
  -- What is typed so far is always what typing the kept clusters alone would give.
  induction cs generalizing kept with
  | nil => exact ⟨rfl, hk⟩
  | cons cluster cs ih =>
    rw [List.foldl_cons, List.foldl_cons, type_foldl_type hk h]
    exact ih (not_mem_keepCluster hk cluster) h.tail

/-- What is left of a text is what its backspaces leave of its clusters. -/
theorem typed_eq_flatten {s : List Char} (h : ErasesSmall [] (clusters s)) :
    typed s = (keptClusters s).flatten := by
  obtain ⟨htyped, hkept⟩ := foldl_type_eq List.not_mem_nil h
  change (clusters s).foldl Typing.type ⟨[], []⟩ = _ at htyped
  rw [typed, htyped, text_foldl_type _ hkept, List.append_nil, List.reverse_reverse]
  rfl

/-- A text without backspaces stays as it is. -/
theorem typed_eq_self {s : List Char} (h : '\x08' ∉ s) : typed s = s := by
  have hn : ['\x08'] ∉ clusters s := fun hm =>
    h (flatten_clusters s ▸ List.mem_flatten.mpr ⟨_, hm, List.mem_singleton.mpr rfl⟩)
  simp [typed, text_foldl_type _ hn, flatten_clusters]

theorem text_type_subset (t : Typing) (cluster : List Char) :
    (t.type cluster).text ⊆ cluster ++ t.text := by
  unfold Typing.type
  split
  · split
    · exact List.subset_append_right cluster t.text
    · next n sizes _ =>
      have hsub : dropBytes n t.text ⊆ t.text := (dropBytes_suffix n t.text).subset
      exact List.Subset.trans hsub (List.subset_append_right cluster t.text)
  · intro c hc
    rcases List.mem_append.mp hc with hc | hc
    · exact List.mem_append_left _ (List.mem_reverse.mp hc)
    · exact List.mem_append_right _ hc

theorem text_foldl_type_subset (cs : List (List Char)) (t : Typing) :
    (cs.foldl Typing.type t).text ⊆ cs.flatten ++ t.text := by
  induction cs generalizing t with
  | nil => exact List.subset_append_right [] t.text
  | cons cluster rest ih =>
    intro c hc
    rw [List.flatten_cons]
    rcases List.mem_append.mp (ih _ hc) with hc | hc
    · exact List.mem_append_left _ (List.mem_append_right cluster hc)
    · rcases List.mem_append.mp (text_type_subset t cluster hc) with hc | hc
      · exact List.mem_append_left _ (List.mem_append_left _ hc)
      · exact List.mem_append_right _ hc

/-- Backspaces leave no character that was not typed. -/
theorem typed_subset (s : List Char) : typed s ⊆ s := by
  intro c hc
  have hm := text_foldl_type_subset (clusters s) ⟨[], []⟩ (List.mem_reverse.mp hc)
  rw [flatten_clusters, List.append_nil] at hm
  exact hm

end AgdaConsole.Text
