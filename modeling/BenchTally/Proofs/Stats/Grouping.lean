import BenchTally.Stats.Keyed
import Mathlib.Data.List.Perm.Subperm
import Mathlib.Data.List.Sort

set_option autoImplicit false
set_option relaxedAutoImplicit false

/-!
# Collections built element by element

A collection that is built from a list, one alteration for each element, holds under each key what
the elements of that key make in their order, as if there were no others. The keys are those that
occur.

## Main results

* `Keyed.entries_eq_map_keys` — a collection is given by its keys and the values under them.
* `Keyed.ext_get?` — a collection is given by what is under each key.
* `Keyed.get?_foldl_alter` — what a row of alterations leaves under a key.
* `Keyed.mem_keys_foldl_alter` — which keys it leaves.
* `Keyed.entries_groupOn` — grouping takes the elements of each key in their order.
* `Keyed.flatMap_groupOn` — groups can be read along any ascending keys that include theirs.
* `Keyed.flatMap_groupOn_perm` — nothing is lost or doubled in groups.
* `Keyed.entries_groupOn_entries` — the entries of a collection under coarser keys.
-/

namespace BenchTally.Keyed

variable {κ ν : Type} [Ord κ]

/-! ## Keys and entries -/

/-- Nothing is found in the empty collection. -/
@[simp]
lemma get?_empty (k : κ) : (Keyed.empty : Keyed κ ν).get? k = none := rfl

/-- The keys ascend. -/
lemma keys_ascending (t : Keyed κ ν) : t.keys.Pairwise fun a b => compare a b = .lt :=
  List.pairwise_map.2 t.ascending

section Lawful

variable [Std.TransOrd κ] [Std.LawfulEqOrd κ] [DecidableEq κ]

omit [Std.TransOrd κ] [DecidableEq κ] in
/-- Ascending keys are distinct. -/
lemma nodup_of_ascending {ks : List κ} (h : ks.Pairwise fun a b => compare a b = .lt) :
    ks.Nodup :=
  h.imp fun {a b} hab heq => by
    rw [heq, Std.ReflOrd.compare_self] at hab
    exact absurd hab (by decide)

omit [Ord κ] [Std.TransOrd κ] [Std.LawfulEqOrd κ] [DecidableEq κ] in
/-- Ascending lists with the same elements are the same, in whatever order they ascend. -/
lemma eq_of_ascending {cmp : κ → κ → Ordering} [Std.OrientedCmp cmp] {ks ks' : List κ}
    (h : ks.Pairwise fun a b => cmp a b = .lt) (h' : ks'.Pairwise fun a b => cmp a b = .lt)
    (hmem : ∀ k, k ∈ ks ↔ k ∈ ks') : ks = ks' := by
  have hirrefl : Std.Irrefl fun a b => cmp a b = .lt :=
    ⟨fun a hlt => by simp [Std.ReflCmp.compare_self] at hlt⟩
  have hantisymm : Std.Antisymm fun a b => cmp a b = .lt :=
    ⟨fun a b hlt hgt => absurd hgt (Std.OrientedCmp.not_lt_of_lt hlt)⟩
  exact h.eq_of_mem_iff h' hmem

omit [Ord κ] [Std.TransOrd κ] [Std.LawfulEqOrd κ] [DecidableEq κ] in
/-- What is less than an element of an ascending list stands before it. -/
lemma mem_of_ascending_append {cmp : κ → κ → Ordering} [Std.OrientedCmp cmp]
    {lesser greater : List κ} {k k' : κ}
    (h : (lesser ++ k :: greater).Pairwise fun a b => cmp a b = .lt)
    (hmem : k' ∈ lesser ++ k :: greater) (hlt : cmp k' k = .lt) : k' ∈ lesser := by
  obtain ⟨-, hright, -⟩ := List.pairwise_append.1 h
  rcases List.mem_append.1 hmem with hmem | hmem
  · exact hmem
  · rcases List.mem_cons.1 hmem with rfl | hmem
    · exact absurd hlt (Std.OrientedCmp.not_lt_of_lt hlt)
    · have hgt := (List.pairwise_cons.1 hright).1 k' hmem
      exact absurd hgt (Std.OrientedCmp.not_lt_of_lt hlt)

omit [Std.LawfulEqOrd κ] [DecidableEq κ] in
/-- If only one key occurs among ascending keys, it occurs once. -/
lemma eq_singleton_of_ascending {ks : List κ} {k : κ}
    (h : ks.Pairwise fun a b => compare a b = .lt) (hmem : ∀ k', k' ∈ ks ↔ k' = k) :
    ks = [k] :=
  eq_of_ascending h (List.pairwise_singleton _ k) (by simpa using hmem)

omit [Std.LawfulEqOrd κ] [DecidableEq κ] in
/-- Keys that have nothing to give may be left out. -/
lemma flatMap_of_ascending {β : Type} {ks ks' : List κ}
    (h : ks.Pairwise fun a b => compare a b = .lt) (h' : ks'.Pairwise fun a b => compare a b = .lt)
    (f : κ → List β) (hmem : ∀ k, f k ≠ [] → (k ∈ ks ↔ k ∈ ks')) :
    ks.flatMap f = ks'.flatMap f := by
  have hfilter : ∀ l : List κ, (l.filter fun k => !(f k).isEmpty).flatMap f = l.flatMap f := by
    intro l
    induction l with
    | nil => rfl
    | cons k l ih =>
      by_cases hk : f k = []
      · simp [hk, ih]
      · simp [hk, ih]
  rw [← hfilter ks, ← hfilter ks']
  congr 1
  refine eq_of_ascending (h.filter _) (h'.filter _) fun k => ?_
  simp only [List.mem_filter, Bool.not_eq_true', List.isEmpty_eq_false_iff]
  exact and_congr_left (hmem k)

omit [Std.TransOrd κ] [DecidableEq κ] in
/-- The keys are those under which there is a value. -/
lemma mem_keys_iff {t : Keyed κ ν} {k : κ} : k ∈ t.keys ↔ ∃ v, t.get? k = some v := by
  simp [keys, ← mem_entries_iff]

omit [Std.TransOrd κ] [DecidableEq κ] in
/-- **Keys with values.** If the value under each key is known, so are the entries. -/
lemma entries_eq_map_keys {t : Keyed κ ν} (v : κ → ν) (h : ∀ k ∈ t.keys, t.get? k = some (v k)) :
    t.entries = t.keys.map fun k => (k, v k) := by
  have hentry : ∀ p ∈ t.entries, p = (p.1, v p.1) := by
    rintro ⟨k, w⟩ hp
    have hget := h k (List.mem_map_of_mem hp)
    rw [mem_entries_iff.1 hp, Option.some.injEq] at hget
    rw [hget]
  rw [keys, List.map_map]
  conv_lhs => rw [← List.map_id t.entries]
  exact List.map_congr_left hentry

omit [DecidableEq κ] in
/-- **Collections with the same values** under all keys are the same. -/
lemma ext_get? {t t' : Keyed κ ν} (h : ∀ k, t.get? k = t'.get? k) : t = t' := by
  have hascending : t.entries.Pairwise fun a b => compareOn Prod.fst a b = .lt := t.ascending
  have hentries : t.entries = t'.entries := by
    refine eq_of_ascending hascending t'.ascending ?_
    rintro ⟨k, v⟩
    rw [mem_entries_iff, mem_entries_iff, h]
  cases t
  cases t'
  simpa using hentries

/-- An alteration that keeps no value makes another collection. -/
lemma alter_ne_self (t : Keyed κ ν) (k : κ) {f : Option ν → ν} (hf : ∀ v, f (some v) ≠ v) :
    t.alter k f ≠ t := by
  intro h
  have hget := get?_alter t k k f
  rw [h, if_pos rfl] at hget
  cases hv : t.get? k with
  | none => simp [hv] at hget
  | some v =>
    rw [hv] at hget
    exact hf v (Option.some.inj hget).symm

/-- Alterations under different keys can be exchanged. -/
lemma alter_comm (t : Keyed κ ν) {k k' : κ} (hk : k ≠ k') (f f' : Option ν → ν) :
    (t.alter k f).alter k' f' = (t.alter k' f').alter k f := by
  refine ext_get? fun i => ?_
  simp only [get?_alter]
  split_ifs <;> simp_all

/-- Two alterations under one key are one. -/
lemma alter_alter (t : Keyed κ ν) (k : κ) (f f' : Option ν → ν) :
    (t.alter k f).alter k f' = t.alter k fun v => f' (some (f v)) := by
  refine ext_get? fun i => ?_
  simp only [get?_alter]
  split_ifs <;> simp_all

/-! ## Alterations in a row -/

variable {α : Type} (key : α → κ)

/-- **Alterations in a row.** Under a key they leave what the alterations of that key make of the
value there, in their order.

**Proof sketch.** Induction on the list, for any collection at its start. The alteration of the
first element shows under its own key and under no other. -/
lemma get?_foldl_alter (f : α → Option ν → ν) (xs : List α) (t : Keyed κ ν) (k : κ) :
    (xs.foldl (fun t x => t.alter (key x) (f x)) t).get? k =
      (xs.filter fun x => key x = k).foldl (fun o x => some (f x o)) (t.get? k) := by
  induction xs generalizing t with
  | nil => rfl
  | cons x xs ih =>
    rw [List.foldl_cons, ih, get?_alter]
    by_cases hx : key x = k
    · subst hx
      simp
    · simp [hx, Ne.symm hx]

/-- Alterations in a row leave the keys of the altered elements. -/
lemma mem_keys_foldl_alter (f : α → Option ν → ν) {xs : List α} {k : κ} :
    k ∈ (xs.foldl (fun t x => t.alter (key x) (f x)) Keyed.empty).keys ↔
      ∃ x ∈ xs, key x = k := by
  have hsome : ∀ (ys : List α) (o : Option ν),
      (∃ v, ys.foldl (fun o x => some (f x o)) o = some v) ↔ ys ≠ [] ∨ ∃ v, o = some v := by
    intro ys
    induction ys with
    | nil => simp
    | cons y ys ih => simp [ih]
  rw [mem_keys_iff, get?_foldl_alter, hsome, get?_empty]
  simp [List.filter_eq_nil_iff]

/-- If each element is worked into a value that starts from `e`, the elements of a key leave the
fold over them. -/
lemma get?_foldl_alter_getD (e : ν) (step : ν → α → ν) {xs : List α} {k : κ}
    (h : ∃ x ∈ xs, key x = k) :
    (xs.foldl (fun t x => t.alter (key x) fun o => step (o.getD e) x) Keyed.empty).get? k =
      some ((xs.filter fun x => key x = k).foldl step e) := by
  have hfold : ∀ (ys : List α) (v : ν),
      ys.foldl (fun o x => some (step (o.getD e) x)) (some v) = some (ys.foldl step v) := by
    intro ys
    induction ys with
    | nil => exact fun _ => rfl
    | cons y ys ih => exact fun v => ih (step v y)
  rw [get?_foldl_alter]
  cases hys : xs.filter fun x => key x = k with
  | nil =>
    obtain ⟨x, hx, hk⟩ := h
    exact absurd hk (by simpa using List.filter_eq_nil_iff.1 hys x hx)
  | cons y ys => exact hfold ys (step e y)

/-! ## Grouping -/

/-- The keys of groups are those that occur. -/
lemma mem_keys_groupOn {xs : List α} {k : κ} :
    k ∈ (groupOn key xs).keys ↔ ∃ x ∈ xs, key x = k :=
  mem_keys_foldl_alter key _

/-- **Groups.** Grouping puts under each key that occurs its elements, in their order. -/
lemma entries_groupOn (xs : List α) :
    (groupOn key xs).entries =
      (groupOn key xs).keys.map fun k => (k, xs.filter fun x => key x = k) := by
  refine entries_eq_map_keys _ fun k hk => ?_
  rw [groupOn, get?_foldl_alter_getD key [] (fun group x => group ++ [x])
    ((mem_keys_groupOn key).1 hk), List.foldl_append_eq_append, List.nil_append,
    ← List.flatMap_def, List.flatMap_singleton']

/-- Groups hold elements of the list. -/
lemma mem_of_mem_entries_groupOn {key : α → κ} {xs : List α} {group : κ × List α} {x : α}
    (hgroup : group ∈ (groupOn key xs).entries) (hx : x ∈ group.2) : x ∈ xs := by
  rw [entries_groupOn] at hgroup
  obtain ⟨k, -, rfl⟩ := List.mem_map.1 hgroup
  exact (List.mem_filter.1 hx).1

/-- Groups hold elements under their own keys. -/
lemma key_of_mem_entries_groupOn {key : α → κ} {xs : List α} {group : κ × List α} {x : α}
    (hgroup : group ∈ (groupOn key xs).entries) (hx : x ∈ group.2) : key x = group.1 := by
  rw [entries_groupOn] at hgroup
  obtain ⟨k, -, rfl⟩ := List.mem_map.1 hgroup
  exact of_decide_eq_true (List.mem_filter.1 hx).2

/-- No group is empty. -/
lemma ne_nil_of_mem_entries_groupOn {key : α → κ} {xs : List α} {group : κ × List α}
    (hgroup : group ∈ (groupOn key xs).entries) : group.2 ≠ [] := by
  rw [entries_groupOn] at hgroup
  obtain ⟨k, hk, rfl⟩ := List.mem_map.1 hgroup
  obtain ⟨x, hx, hkey⟩ := (mem_keys_groupOn key).1 hk
  exact List.ne_nil_of_mem (List.mem_filter.2 ⟨hx, decide_eq_true hkey⟩)

/-- Elements of one key are one group. -/
lemma entries_groupOn_of_forall {key : α → κ} {xs : List α} {k : κ} (hne : xs ≠ [])
    (h : ∀ x ∈ xs, key x = k) : (groupOn key xs).entries = [(k, xs)] := by
  obtain ⟨x, hx⟩ := List.exists_mem_of_ne_nil xs hne
  have hkeys : (groupOn key xs).keys = [k] := by
    refine eq_singleton_of_ascending (keys_ascending _) fun k' => ?_
    rw [mem_keys_groupOn]
    exact ⟨fun ⟨y, hy, hk'⟩ => hk' ▸ h y hy, fun hk' => ⟨x, hx, hk' ▸ h x hx⟩⟩
  have hall : xs.filter (fun x => key x = k) = xs := by
    rw [List.filter_eq_self]
    exact fun x hx => decide_eq_true (h x hx)
  rw [entries_groupOn, hkeys, List.map_singleton, hall]

/-- **Groups read off any keys.** What is made of the groups can be made key by key along any
ascending keys, as long as all keys of the elements are among them. -/
lemma flatMap_groupOn {β : Type} {ks : List κ} (hks : ks.Pairwise fun a b => compare a b = .lt)
    {xs : List α} (hmem : ∀ x ∈ xs, key x ∈ ks) {f : List α → List β} (hf : f [] = []) :
    ((groupOn key xs).entries.flatMap fun group => f group.2) =
      ks.flatMap fun k => f (xs.filter fun x => key x = k) := by
  rw [entries_groupOn, List.flatMap_map]
  refine flatMap_of_ascending (keys_ascending _) hks _ fun k hk => ?_
  have hne : xs.filter (fun x => key x = k) ≠ [] := fun hnil => hk (by rw [hnil, hf])
  obtain ⟨x, hx⟩ := List.exists_mem_of_ne_nil _ hne
  simp only [List.mem_filter, decide_eq_true_eq] at hx
  rw [mem_keys_groupOn]
  exact ⟨fun _ => hx.2 ▸ hmem x hx.1, fun _ => ⟨x, hx⟩⟩

omit [Ord κ] [Std.TransOrd κ] [Std.LawfulEqOrd κ] in
/-- Elements taken key by key are those whose keys are among the given ones. -/
lemma perm_flatMap_filter {ks : List κ} (hks : ks.Nodup) (xs : List α) :
    (ks.flatMap fun k => xs.filter fun x => key x = k).Perm (xs.filter fun x => key x ∈ ks) := by
  induction ks with
  | nil => simp
  | cons k ks ih =>
    obtain ⟨hnot, hks⟩ := List.nodup_cons.1 hks
    have hsplit := List.filter_append_perm (fun x => decide (key x = k))
      (xs.filter fun x => key x ∈ k :: ks)
    have hfirst : (xs.filter fun x => key x ∈ k :: ks).filter (fun x => decide (key x = k)) =
        xs.filter fun x => key x = k := by
      rw [List.filter_filter]
      exact List.filter_congr fun x _ => by by_cases hx : key x = k <;> simp [hx]
    have hrest : (xs.filter fun x => key x ∈ k :: ks).filter (fun x => !decide (key x = k)) =
        xs.filter fun x => key x ∈ ks := by
      rw [List.filter_filter]
      refine List.filter_congr fun x _ => ?_
      by_cases hx : key x = k
      · simp [hx, hnot]
      · simp [hx]
    rw [hfirst, hrest] at hsplit
    exact ((ih hks).append_left _).trans hsplit

/-- **Nothing is lost or doubled in groups.** -/
lemma flatMap_groupOn_perm (xs : List α) :
    ((groupOn key xs).entries.flatMap Prod.snd).Perm xs := by
  rw [entries_groupOn, List.flatMap_map]
  refine (perm_flatMap_filter key (nodup_of_ascending (keys_ascending _)) xs).trans ?_
  rw [List.filter_eq_self.2 fun x hx => by simpa using (mem_keys_groupOn key).2 ⟨x, hx, rfl⟩]

omit [Std.TransOrd κ] [DecidableEq κ] in
/-- There are at most as many keys as elements, if each key is that of an element. -/
lemma size_le {t : Keyed κ ν} {xs : List α} (h : ∀ k ∈ t.keys, ∃ x ∈ xs, key x = k) :
    t.size ≤ xs.length := by
  have hsub : t.keys ⊆ xs.map key := fun k hk => List.mem_map.2 (h k hk)
  have hle := (List.subperm_of_subset (nodup_of_ascending (keys_ascending t)) hsub).length_le
  simpa only [size, keys, List.length_map] using hle

/-- There are at most as many groups as elements. -/
lemma size_groupOn_le (xs : List α) : (groupOn key xs).size ≤ xs.length :=
  size_le key fun _ => (mem_keys_groupOn key).1

/-- There are groups if there are elements. -/
lemma size_groupOn_eq_zero_iff {xs : List α} : (groupOn key xs).size = 0 ↔ xs = [] := by
  constructor
  · intro h
    refine List.eq_nil_iff_forall_not_mem.2 fun x hx => ?_
    obtain ⟨entry, hentry, -⟩ := List.mem_map.1 ((mem_keys_groupOn key).2 ⟨x, hx, rfl⟩)
    rw [List.eq_nil_of_length_eq_zero h] at hentry
    simp at hentry
  · rintro rfl
    rfl

/-! ## Coarser keys -/

variable {ι : Type} [Ord ι] [Std.TransOrd ι] [Std.LawfulEqOrd ι] [DecidableEq ι]
  {t : Keyed κ ν} {coarse : κ → ι}

omit [Std.TransOrd κ] [Std.LawfulEqOrd κ] [DecidableEq κ] in
/-- The coarser keys are those of the keys. -/
lemma mem_keys_groupOn_entries {g : ι} :
    g ∈ (groupOn (fun entry : κ × ν => coarse entry.1) t.entries).keys ↔
      ∃ k ∈ t.keys, coarse k = g := by
  rw [mem_keys_groupOn]
  simp [keys]

omit [Std.TransOrd κ] [Std.LawfulEqOrd κ] [DecidableEq κ] in
/-- **Entries under coarser keys.** The group of a coarser key holds the entries of its keys, in
their order. -/
lemma entries_groupOn_entries {v : κ → ν} (h : t.entries = t.keys.map fun k => (k, v k)) :
    (groupOn (fun entry : κ × ν => coarse entry.1) t.entries).entries =
      (groupOn (fun entry : κ × ν => coarse entry.1) t.entries).keys.map fun g =>
        (g, (t.keys.filter fun k => coarse k = g).map fun k => (k, v k)) := by
  have hgroup : ∀ g, t.entries.filter (fun entry => coarse entry.1 = g) =
      (t.keys.filter fun k => coarse k = g).map fun k => (k, v k) := by
    intro g
    rw [h, List.filter_map]
    rfl
  rw [entries_groupOn]
  simp only [hgroup]

end Lawful

end BenchTally.Keyed
