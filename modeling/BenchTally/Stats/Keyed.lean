set_option autoImplicit false
set_option relaxedAutoImplicit false

/-!
# Values under keys

A finite collection of values, at most one under each key, kept in ascending order of the keys.

## Main definitions

* `Keyed` — the collection.
* `Keyed.get?` — the value under a key.
* `Keyed.alter` — the collection with a new value under a key, made from the old one.
* `Keyed.groupOn` — the elements of a list under their keys.

## Main results

* `Keyed.get?_alter` — only the altered key has another value.
* `Keyed.mem_entries_iff` — the entries are the keys with their values.
-/

namespace BenchTally

/-- Values under keys, in ascending order of the keys. -/
structure Keyed (κ ν : Type) [Ord κ] where
  /-- The keys with their values. -/
  entries : List (κ × ν)
  /-- The keys ascend, so that each occurs once. -/
  ascending : entries.Pairwise fun a b => compare a.1 b.1 = .lt

namespace Keyed

variable {κ ν : Type} [Ord κ]

/-- No values. -/
protected def empty : Keyed κ ν :=
  ⟨[], .nil⟩

/-- The number of keys. -/
def size (t : Keyed κ ν) : Nat :=
  t.entries.length

/-- The keys, in ascending order. -/
def keys (t : Keyed κ ν) : List κ :=
  t.entries.map Prod.fst

/-- The value under a key in a list of entries. -/
def find? (k : κ) : List (κ × ν) → Option ν
  | [] => none
  | (k', v) :: r => if compare k k' = .eq then some v else find? k r

/-- The value under a key. -/
def get? (t : Keyed κ ν) (k : κ) : Option ν :=
  find? k t.entries

/-- Entries with a new value under a key; a new key takes its place in the order. -/
def alterEntries (k : κ) (f : Option ν → ν) : List (κ × ν) → List (κ × ν)
  | [] => [(k, f none)]
  | (k', v) :: r =>
    match compare k k' with
    | .lt => (k, f none) :: (k', v) :: r
    | .eq => (k', f (some v)) :: r
    | .gt => (k', v) :: alterEntries k f r

/-- Altering a key brings in no other key. -/
theorem key_of_mem_alterEntries {k : κ} {f : Option ν → ν} {l : List (κ × ν)} {p : κ × ν}
    (h : p ∈ alterEntries k f l) : p.1 = k ∨ ∃ q ∈ l, q.1 = p.1 := by
  induction l with
  | nil => simp_all [alterEntries]
  | cons a r ih =>
    obtain ⟨k', v⟩ := a
    unfold alterEntries at h
    split at h
    · rcases List.mem_cons.1 h with rfl | h
      · exact .inl rfl
      · exact .inr ⟨p, h, rfl⟩
    · rcases List.mem_cons.1 h with rfl | h
      · exact .inr ⟨(k', v), by simp, rfl⟩
      · exact .inr ⟨p, by simp [h], rfl⟩
    · rcases List.mem_cons.1 h with rfl | h
      · exact .inr ⟨(k', v), by simp, rfl⟩
      · rcases ih h with h | ⟨q, hq, he⟩
        · exact .inl h
        · exact .inr ⟨q, by simp [hq], he⟩

variable [Std.TransOrd κ]

/-- Altered entries still ascend. -/
theorem alterEntries_ascending (k : κ) (f : Option ν → ν) {l : List (κ × ν)}
    (h : l.Pairwise fun a b => compare a.1 b.1 = .lt) :
    (alterEntries k f l).Pairwise fun a b => compare a.1 b.1 = .lt := by
  induction l with
  | nil => simp [alterEntries]
  | cons a r ih =>
    obtain ⟨k', v⟩ := a
    obtain ⟨hhead, htail⟩ := List.pairwise_cons.1 h
    unfold alterEntries
    split
    · rename_i hlt
      refine List.pairwise_cons.2 ⟨fun q hq => ?_, h⟩
      rcases List.mem_cons.1 hq with rfl | hq
      · exact hlt
      · exact Std.TransCmp.lt_trans hlt (hhead q hq)
    · exact List.pairwise_cons.2 ⟨hhead, htail⟩
    · rename_i hgt
      refine List.pairwise_cons.2 ⟨fun q hq => ?_, ih htail⟩
      rcases key_of_mem_alterEntries hq with he | ⟨p, hp, he⟩
      · exact he ▸ Std.OrientedCmp.lt_of_gt hgt
      · exact he ▸ hhead p hp

/-- The collection with a new value under a key, made from the value that is there, if any. -/
def alter (t : Keyed κ ν) (k : κ) (f : Option ν → ν) : Keyed κ ν :=
  ⟨alterEntries k f t.entries, alterEntries_ascending k f t.ascending⟩

/-- The elements of a list under their keys, each key's elements in the order of the list. -/
def groupOn {α : Type} (key : α → κ) (xs : List α) : Keyed κ (List α) :=
  xs.foldl (fun t x => t.alter (key x) fun group => group.getD [] ++ [x]) .empty

/-! ## Values after an alteration -/

omit [Std.TransOrd κ] in
/-- A key below all keys has no value. -/
theorem find?_eq_none_of_lt {k : κ} {l : List (κ × ν)}
    (h : ∀ q ∈ l, compare k q.1 = .lt) : find? k l = none := by
  induction l with
  | nil => rfl
  | cons a r ih =>
    have ha := h a (by simp)
    simp only [find?, ha, reduceCtorEq, if_false]
    exact ih fun q hq => h q (by simp [hq])

variable [Std.LawfulEqOrd κ] [DecidableEq κ]

/-- The altered key has the new value, and every other key the value that it had. -/
theorem find?_alterEntries (k k₁ : κ) (f : Option ν → ν) {l : List (κ × ν)}
    (h : l.Pairwise fun a b => compare a.1 b.1 = .lt) :
    find? k₁ (alterEntries k f l) = if k₁ = k then some (f (find? k l)) else find? k₁ l := by
  induction l with
  | nil => simp [alterEntries, find?]
  | cons a r ih =>
    obtain ⟨k', v⟩ := a
    obtain ⟨hhead, htail⟩ := List.pairwise_cons.1 h
    unfold alterEntries
    split
    · rename_i hlt
      have hnone : find? k ((k', v) :: r) = none := by
        refine find?_eq_none_of_lt fun q hq => ?_
        rcases List.mem_cons.1 hq with rfl | hq
        · exact hlt
        · exact Std.TransCmp.lt_trans hlt (hhead q hq)
      rw [hnone]
      simp [find?]
    · rename_i heq
      have hk : k = k' := Std.LawfulEqOrd.compare_eq_iff_eq.1 heq
      subst hk
      by_cases hk₁ : k₁ = k <;> simp [find?, hk₁]
    · rename_i hgt
      have hne : k ≠ k' := fun he => by
        rw [he, Std.ReflOrd.compare_self] at hgt
        exact absurd hgt (by decide)
      by_cases hk' : k₁ = k'
      · subst hk'
        simp [find?, Ne.symm hne]
      · simp [find?, hk', hne, ih htail]

/-- Altering a key gives it the new value and leaves every other key alone. -/
theorem get?_alter (t : Keyed κ ν) (k k₁ : κ) (f : Option ν → ν) :
    (t.alter k f).get? k₁ = if k₁ = k then some (f (t.get? k)) else t.get? k₁ :=
  find?_alterEntries k k₁ f t.ascending

omit [Std.TransOrd κ] [DecidableEq κ] in
/-- An entry's value is the value under its key. -/
theorem find?_eq_some_iff {k : κ} {v : ν} {l : List (κ × ν)}
    (h : l.Pairwise fun a b => compare a.1 b.1 = .lt) :
    find? k l = some v ↔ (k, v) ∈ l := by
  induction l with
  | nil => simp [find?]
  | cons a r ih =>
    obtain ⟨k', v'⟩ := a
    obtain ⟨hhead, htail⟩ := List.pairwise_cons.1 h
    by_cases hk : k = k'
    · subst hk
      have hnot : (k, v) ∉ r := fun hm => by
        have := hhead _ hm
        rw [Std.ReflOrd.compare_self] at this
        exact absurd this (by decide)
      simp only [find?, Std.ReflOrd.compare_self, if_true, Option.some.injEq, List.mem_cons,
        Prod.mk.injEq, true_and, hnot, or_false]
      exact eq_comm
    · simp [find?, hk, ih htail]

omit [Std.TransOrd κ] [DecidableEq κ] in
/-- The entries are the keys with their values. -/
theorem mem_entries_iff {t : Keyed κ ν} {k : κ} {v : ν} :
    (k, v) ∈ t.entries ↔ t.get? k = some v :=
  (find?_eq_some_iff t.ascending).symm

end Keyed

end BenchTally
