import BenchTally.Text.Utf8

set_option autoImplicit false
set_option relaxedAutoImplicit false

/-!
# Regular expressions over bytes

Expressions built from sets of bytes, and a matcher that goes through an expression part by part:
before each part it holds the places of the text at which the part may start, and after it those at
which the part may end.

## Main definitions

* `ByteSet` — a set of bytes, as ranges, or everything outside them.
* `Regex` — the expressions.
* `Regex.Matches` — which texts an expression describes.
* `Regex.ends` — the places at which an expression may end.
* `Regex.accepts` — the matcher.

## Main results

* `Regex.mem_ends_iff` — the places at which an expression may end are those that it reaches.
* `Regex.accepts_iff` — the matcher accepts exactly the texts that the expression describes.

## Implementation notes

Places ascend, each held once. So the work is at most the size of the expression times the length
of the text, whatever stands in the expression, and little where few places are open.
-/

namespace BenchTally

/-- A set of bytes: those in some range, ends included, or those in none. -/
structure ByteSet where
  /-- Whether the ranges are left out instead of taken. -/
  negated : Bool
  /-- The ranges. -/
  ranges : List (UInt8 × UInt8)
  deriving DecidableEq, Repr

namespace ByteSet

/-- Membership in a set. -/
def contains (s : ByteSet) (b : UInt8) : Bool :=
  (s.ranges.any fun r => r.1 ≤ b && b ≤ r.2) != s.negated

/-- All bytes. -/
def all : ByteSet :=
  ⟨true, []⟩

/-- One byte alone. -/
def single (b : UInt8) : ByteSet :=
  ⟨false, [(b, b)]⟩

/-- All bytes but one. -/
def allBut (b : UInt8) : ByteSet :=
  ⟨true, [(b, b)]⟩

end ByteSet

/-- Regular expressions over bytes. -/
inductive Regex where
  /-- The empty text. -/
  | empty
  /-- One byte of a set. -/
  | byte (set : ByteSet)
  /-- Any number of bytes of a set. -/
  | run (set : ByteSet)
  /-- One text after the other. -/
  | seq (first second : Regex)
  /-- One text or the other. -/
  | alt (left right : Regex)
  deriving DecidableEq, Repr

namespace Regex

/-- The texts that an expression describes. -/
inductive Matches : Regex → Bytes → Prop where
  /-- The empty text. -/
  | empty : Matches .empty []
  /-- A byte of the set. -/
  | byte {s : ByteSet} {b : UInt8} : s.contains b = true → Matches (.byte s) [b]
  /-- Bytes of the set. -/
  | run {s : ByteSet} {u : Bytes} : (∀ b ∈ u, s.contains b = true) → Matches (.run s) u
  /-- Two texts in a row. -/
  | seq {r s : Regex} {u v : Bytes} : Matches r u → Matches s v → Matches (.seq r s) (u ++ v)
  /-- A text of the left side. -/
  | altLeft {r s : Regex} {u : Bytes} : Matches r u → Matches (.alt r s) u
  /-- A text of the right side. -/
  | altRight {r s : Regex} {u : Bytes} : Matches s u → Matches (.alt r s) u

/-- One expression after another, where an empty text needs no place. -/
def andThen : Regex → Regex → Regex
  | .empty, s => s
  | r, .empty => r
  | r, s => .seq r s

/-- Leaving out an empty text changes nothing. -/
theorem matches_andThen {r s : Regex} {w : Bytes} :
    Matches (r.andThen s) w ↔ Matches (.seq r s) w := by
  unfold andThen
  split
  · constructor
    · exact fun h => .seq .empty h
    · intro h
      cases h with
      | seq hu hv => cases hu; simpa using hv
  · constructor
    · exact fun h => by simpa using Matches.seq h .empty
    · intro h
      cases h with
      | seq hu hv => cases hv; simpa using hu
  · exact Iff.rfl

/-! ## The matcher -/

/-- The byte at a place belongs to a set. -/
def holds (text : Array UInt8) (s : ByteSet) (i : Nat) : Bool :=
  text[i]?.any s.contains

/-- The first of at most `n` places from a place on, up to the first byte outside a set. -/
def stretch (text : Array UInt8) (s : ByteSet) (i : Nat) : (n : Nat) → List Nat
  | 0 => []
  | n + 1 => i :: if holds text s i then stretch text s (i + 1) n else []

/-- The places that bytes of a set lead to. What a place leads to beyond the next one, that one
leads to as well. -/
def spread (text : Array UInt8) (s : ByteSet) : List Nat → List Nat
  | [] => []
  | [i] => stretch text s i (text.size + 1 - i)
  | i :: j :: rest => stretch text s i (j - i) ++ spread text s (j :: rest)

/-- The places of either list. -/
def union : List Nat → List Nat → List Nat
  | [], js => js
  | is, [] => is
  | i :: is, j :: js =>
    if i < j then i :: union is (j :: js)
    else if j < i then j :: union (i :: is) js
    else i :: union is js
  termination_by is js => is.length + js.length
  decreasing_by all_goals simp only [List.length_cons]; omega

/-- The places at which an expression may end, if it may start at the given ones. -/
def ends (text : Array UInt8) : Regex → List Nat → List Nat
  | .empty, starts => starts
  | .byte s, starts => (starts.filter (holds text s)).map (· + 1)
  | .run s, starts => spread text s starts
  | .seq r s, starts => ends text s (ends text r starts)
  | .alt r s, starts => union (ends text r starts) (ends text s starts)

/-- Whether a text matches an expression. -/
def accepts (r : Regex) (text : Bytes) : Bool :=
  let bytes := text.toArray
  (ends bytes r [0]).contains bytes.size

/-! ## The places that an expression reaches -/

/-- An expression leads from one place of a text to another. -/
def Reaches (text : Array UInt8) : Regex → Nat → Nat → Prop
  | .empty, i, j => j = i
  | .byte s, i, j => holds text s i = true ∧ j = i + 1
  | .run s, i, j => i ≤ j ∧ ∀ k, i ≤ k → k < j → holds text s k = true
  | .seq r s, i, j => ∃ k, Reaches text r i k ∧ Reaches text s k j
  | .alt r s, i, j => Reaches text r i j ∨ Reaches text s i j

/-- Places in ascending order, none beyond the end of a text. -/
structure Places (text : Array UInt8) (is : List Nat) : Prop where
  /-- The places ascend. -/
  ascending : is.Pairwise (· < ·)
  /-- No place lies beyond the end. -/
  le_size : ∀ i ∈ is, i ≤ text.size

/-- A place that holds a byte lies before the end. -/
theorem lt_size_of_holds {text : Array UInt8} {s : ByteSet} {i : Nat}
    (h : holds text s i = true) : i < text.size := by
  unfold holds at h
  by_cases hi : i < text.size
  · exact hi
  · rw [Array.getElem?_eq_none (by omega)] at h
    simp at h

/-- A stretch goes on as long as the bytes belong to the set. -/
theorem mem_stretch_iff {text : Array UInt8} {s : ByteSet} {n i k : Nat} :
    k ∈ stretch text s i n ↔
      i ≤ k ∧ k < i + n ∧ ∀ m, i ≤ m → m < k → holds text s m = true := by
  induction n generalizing i with
  | zero =>
    simp only [stretch, List.not_mem_nil, false_iff]
    omega
  | succ n ih =>
    simp only [stretch, List.mem_cons]
    constructor
    · rintro (rfl | h)
      · exact ⟨Nat.le_refl _, by omega, fun m h₁ h₂ => by omega⟩
      · split at h
        · rename_i hi
          obtain ⟨h₁, h₂, h₃⟩ := ih.1 h
          refine ⟨by omega, by omega, fun m hm hk => ?_⟩
          rcases Nat.eq_or_lt_of_le hm with rfl | hm
          · exact hi
          · exact h₃ m hm hk
        · simp at h
    · rintro ⟨h₁, h₂, h₃⟩
      rcases Nat.eq_or_lt_of_le h₁ with rfl | h₁
      · exact .inl rfl
      · rw [if_pos (h₃ i (Nat.le_refl _) h₁)]
        exact .inr (ih.2 ⟨h₁, by omega, fun m hm hk => h₃ m (by omega) hk⟩)

/-- The places of a stretch ascend. -/
theorem stretch_ascending (text : Array UInt8) (s : ByteSet) (n i : Nat) :
    (stretch text s i n).Pairwise (· < ·) := by
  induction n generalizing i with
  | zero => exact .nil
  | succ n ih =>
    rw [stretch]
    refine List.pairwise_cons.2 ⟨fun k hk => ?_, ?_⟩
    · split at hk
      · have := (mem_stretch_iff.1 hk).1
        omega
      · simp at hk
    · split
      · exact ih (i + 1)
      · exact .nil

/-- Bytes of a set lead to what the expression for them reaches. -/
theorem mem_spread_iff {text : Array UInt8} {s : ByteSet} {is : List Nat} (h : Places text is)
    {k : Nat} : k ∈ spread text s is ↔ ∃ i ∈ is, Reaches text (.run s) i k := by
  fun_induction spread text s is with
  | case1 => simp
  | case2 i =>
    have hi := h.le_size i (by simp)
    rw [mem_stretch_iff]
    simp only [List.mem_singleton, exists_eq_left, Reaches]
    constructor
    · exact fun ⟨h₁, _, h₃⟩ => ⟨h₁, h₃⟩
    · rintro ⟨h₁, h₃⟩
      refine ⟨h₁, ?_, h₃⟩
      rcases Nat.eq_or_lt_of_le h₁ with rfl | h₁
      · omega
      · have := lt_size_of_holds (h₃ (k - 1) (by omega) (by omega))
        omega
  | case3 i j rest ih =>
    obtain ⟨hhead, htail⟩ := List.pairwise_cons.1 h.ascending
    have ht : Places text (j :: rest) :=
      ⟨htail, fun m hm => h.le_size m (List.mem_cons_of_mem _ hm)⟩
    have hij := hhead j (by simp)
    rw [List.mem_append, mem_stretch_iff, ih ht]
    simp only [List.mem_cons (a := _) (b := i), or_and_right, exists_or, exists_eq_left, Reaches]
    constructor
    · rintro (⟨h₁, _, h₃⟩ | h')
      · exact .inl ⟨h₁, h₃⟩
      · exact .inr h'
    · rintro (⟨h₁, h₃⟩ | h')
      · by_cases hk : k < j
        · exact .inl ⟨h₁, by omega, h₃⟩
        · exact .inr ⟨j, by simp, by omega, fun m hm => h₃ m (by omega)⟩
      · exact .inr h'

/-- The places that bytes of a set lead to ascend. -/
theorem spread_ascending {text : Array UInt8} {s : ByteSet} {is : List Nat} (h : Places text is) :
    (spread text s is).Pairwise (· < ·) := by
  fun_induction spread text s is with
  | case1 => exact .nil
  | case2 i => exact stretch_ascending ..
  | case3 i j rest ih =>
    obtain ⟨hhead, htail⟩ := List.pairwise_cons.1 h.ascending
    have ht : Places text (j :: rest) :=
      ⟨htail, fun m hm => h.le_size m (List.mem_cons_of_mem _ hm)⟩
    have hij := hhead j (by simp)
    refine List.pairwise_append.2 ⟨stretch_ascending .., ih ht, fun a ha b hb => ?_⟩
    have h₁ := (mem_stretch_iff.1 ha).2.1
    obtain ⟨m, hm, hmb, _⟩ := (mem_spread_iff ht).1 hb
    have : j ≤ m := by
      rcases List.mem_cons.1 hm with rfl | hm
      · exact Nat.le_refl _
      · exact Nat.le_of_lt ((List.pairwise_cons.1 htail).1 m hm)
    omega

/-- The places of both lists. -/
theorem mem_union_iff {is js : List Nat} {k : Nat} : k ∈ union is js ↔ k ∈ is ∨ k ∈ js := by
  fun_induction union is js with
  | case1 => simp
  | case2 => simp
  | case3 i is j js _ ih => simp only [List.mem_cons, ih]; grind
  | case4 i is j js _ _ ih => simp only [List.mem_cons, ih]; grind
  | case5 i is j js _ _ ih => simp only [List.mem_cons, ih]; grind

/-- The places of both lists ascend. -/
theorem union_ascending {is js : List Nat} (hi : is.Pairwise (· < ·)) (hj : js.Pairwise (· < ·)) :
    (union is js).Pairwise (· < ·) := by
  fun_induction union is js with
  | case1 => exact hj
  | case2 => exact hi
  | case3 i is j js h ih =>
    obtain ⟨h₁, h₂⟩ := List.pairwise_cons.1 hi
    have h₃ := (List.pairwise_cons.1 hj).1
    refine List.pairwise_cons.2 ⟨fun k hk => ?_, ih h₂ hj⟩
    rcases mem_union_iff.1 hk with hk | hk
    · exact h₁ k hk
    · rcases List.mem_cons.1 hk with rfl | hk
      · exact h
      · exact Nat.lt_trans h (h₃ k hk)
  | case4 i is j js _ h ih =>
    obtain ⟨h₁, h₂⟩ := List.pairwise_cons.1 hj
    have h₃ := (List.pairwise_cons.1 hi).1
    refine List.pairwise_cons.2 ⟨fun k hk => ?_, ih hi h₂⟩
    rcases mem_union_iff.1 hk with hk | hk
    · rcases List.mem_cons.1 hk with rfl | hk
      · exact h
      · exact Nat.lt_trans h (h₃ k hk)
    · exact h₁ k hk
  | case5 i is j js _ _ ih =>
    obtain ⟨h₁, h₂⟩ := List.pairwise_cons.1 hi
    obtain ⟨h₃, h₄⟩ := List.pairwise_cons.1 hj
    refine List.pairwise_cons.2 ⟨fun k hk => ?_, ih h₂ h₄⟩
    rcases mem_union_iff.1 hk with hk | hk
    · exact h₁ k hk
    · have := h₃ k hk
      omega

/-- An expression leads to places of the text. -/
theorem le_size_of_reaches {text : Array UInt8} {r : Regex} {i j : Nat}
    (h : Reaches text r i j) (hi : i ≤ text.size) : j ≤ text.size := by
  induction r generalizing i j with
  | empty => exact h ▸ hi
  | byte s =>
    have := lt_size_of_holds h.1
    have := h.2
    omega
  | run s =>
    rcases Nat.eq_or_lt_of_le h.1 with rfl | hlt
    · exact hi
    · have := lt_size_of_holds (h.2 (j - 1) (by omega) (by omega))
      omega
  | seq r s ihr ihs =>
    obtain ⟨k, hr, hs⟩ := h
    exact ihs hs (ihr hr hi)
  | alt r s ihr ihs => exact h.elim (ihr · hi) (ihs · hi)

/-- From places of a text, an expression may end at the places that it reaches from one of them;
the matcher holds them in order. -/
theorem mem_ends_iff {text : Array UInt8} {r : Regex} {is : List Nat} (h : Places text is) :
    (∀ j, j ∈ ends text r is ↔ ∃ i ∈ is, Reaches text r i j) ∧ Places text (ends text r is) := by
  suffices hs : (∀ j, j ∈ ends text r is ↔ ∃ i ∈ is, Reaches text r i j) ∧
      (ends text r is).Pairwise (· < ·) by
    refine ⟨hs.1, hs.2, fun j hj => ?_⟩
    obtain ⟨i, hi, hr⟩ := (hs.1 j).1 hj
    exact le_size_of_reaches hr (h.le_size i hi)
  induction r generalizing is with
  | empty => exact ⟨fun j => by simp [ends, Reaches], h.ascending⟩
  | byte s =>
    constructor
    · intro j
      simp only [ends, List.mem_map, List.mem_filter, Reaches]
      constructor
      · rintro ⟨i, ⟨hi, hb⟩, rfl⟩
        exact ⟨i, hi, hb, rfl⟩
      · rintro ⟨i, hi, hb, rfl⟩
        exact ⟨i, ⟨hi, hb⟩, rfl⟩
    · exact List.pairwise_map.2 ((h.ascending.filter _).imp fun hab => by omega)
  | run s => exact ⟨fun j => mem_spread_iff h, spread_ascending h⟩
  | seq r s ihr ihs =>
    obtain ⟨hr, hra⟩ := ihr h
    have hp : Places text (ends text r is) := ⟨hra, fun j hj => by
      obtain ⟨i, hi, hij⟩ := (hr j).1 hj
      exact le_size_of_reaches hij (h.le_size i hi)⟩
    obtain ⟨hs, hsa⟩ := ihs hp
    refine ⟨fun j => ?_, hsa⟩
    simp only [ends, hs, hr, Reaches]
    constructor
    · rintro ⟨k, ⟨i, hi, hik⟩, hkj⟩
      exact ⟨i, hi, k, hik, hkj⟩
    · rintro ⟨i, hi, k, hik, hkj⟩
      exact ⟨k, ⟨i, hi, hik⟩, hkj⟩
  | alt r s ihr ihs =>
    obtain ⟨hr, hra⟩ := ihr h
    obtain ⟨hs, hsa⟩ := ihs h
    refine ⟨fun j => ?_, union_ascending hra hsa⟩
    simp only [ends, mem_union_iff, hr, hs, Reaches]
    constructor
    · rintro (⟨i, hi, h'⟩ | ⟨i, hi, h'⟩)
      · exact ⟨i, hi, .inl h'⟩
      · exact ⟨i, hi, .inr h'⟩
    · rintro ⟨i, hi, h' | h'⟩
      · exact .inl ⟨i, hi, h'⟩
      · exact .inr ⟨i, hi, h'⟩

/-! ## The matcher accepts what the expression describes -/

/-- The byte after a part of a text. -/
theorem holds_append {s : ByteSet} (a : Bytes) (b : UInt8) (c : Bytes) :
    holds (a ++ b :: c).toArray s a.length = s.contains b := by
  simp [holds]

/-- An expression does not lead back. -/
theorem le_of_reaches {text : Array UInt8} {r : Regex} {i j : Nat} (h : Reaches text r i j) :
    i ≤ j := by
  induction r generalizing i j with
  | empty => exact Nat.le_of_eq h.symm
  | byte s => have := h.2; omega
  | run s => exact h.1
  | seq r s ihr ihs =>
    obtain ⟨k, hr, hs⟩ := h
    exact Nat.le_trans (ihr hr) (ihs hs)
  | alt r s ihr ihs => exact h.elim ihr ihs

/-- An expression leads across exactly the texts that it describes. -/
theorem reaches_iff_matches {r : Regex} {a u c : Bytes} :
    Reaches (a ++ u ++ c).toArray r a.length (a.length + u.length) ↔ Matches r u := by
  induction r generalizing a u c with
  | empty =>
    constructor
    · intro h
      have hu : u = [] := List.length_eq_zero_iff.1 (by simpa [Reaches] using h)
      exact hu ▸ .empty
    · intro h
      cases h
      simp [Reaches]
  | byte s =>
    constructor
    · rintro ⟨hb, hl⟩
      obtain ⟨b, rfl⟩ : ∃ b, u = [b] := List.length_eq_one_iff.1 (by omega)
      rw [List.append_assoc, List.singleton_append, holds_append] at hb
      exact .byte hb
    · intro h
      cases h with
      | @byte _ b hb =>
        rw [List.append_assoc, List.singleton_append]
        exact ⟨by rw [holds_append]; exact hb, rfl⟩
  | run s =>
    constructor
    · rintro ⟨_, h⟩
      refine .run fun b hb => ?_
      obtain ⟨u₁, u₂, rfl⟩ := List.append_of_mem hb
      have := h (a.length + u₁.length) (by omega) (by simp)
      rw [show a ++ (u₁ ++ b :: u₂) ++ c = (a ++ u₁) ++ b :: (u₂ ++ c) by simp,
        ← List.length_append, holds_append] at this
      exact this
    · intro h
      cases h with
      | run h =>
        refine ⟨by omega, fun k hk hlt => ?_⟩
        have hlt' : k - a.length < u.length := by omega
        have hget : (a ++ u ++ c)[k]? = some u[k - a.length] := by
          rw [List.append_assoc, List.getElem?_append_right hk, List.getElem?_append_left hlt',
            List.getElem?_eq_getElem hlt']
        simp only [holds, List.getElem?_toArray, hget, Option.any_some]
        exact h _ (List.getElem_mem hlt')
  | seq r s ihr ihs =>
    constructor
    · rintro ⟨k, hr, hs⟩
      have h₁ := le_of_reaches hr
      have h₂ := le_of_reaches hs
      obtain ⟨n, rfl⟩ : ∃ n, k = a.length + n := ⟨k - a.length, by omega⟩
      have hn : (u.take n).length = n := by rw [List.length_take]; omega
      have hfirst : a ++ u ++ c = a ++ u.take n ++ (u.drop n ++ c) := by
        rw [List.append_assoc, List.append_assoc, ← List.append_assoc (u.take n),
          List.take_append_drop]
      have hsecond : a ++ u ++ c = a ++ u.take n ++ u.drop n ++ c := by
        rw [hfirst, List.append_assoc (a ++ u.take n)]
      have hend : a.length + u.length = (a ++ u.take n).length + (u.drop n).length := by
        rw [List.length_append, hn, List.length_drop]
        omega
      have hmid : a.length + n = (a ++ u.take n).length := by rw [List.length_append, hn]
      rw [← List.take_append_drop n u]
      refine .seq ((ihr (a := a) (c := u.drop n ++ c)).1 ?_)
        ((ihs (a := a ++ u.take n) (c := c)).1 ?_)
      · rwa [← hfirst, hn]
      · rwa [← hsecond, ← hend, ← hmid]
    · intro h
      cases h with
      | @seq _ _ u v hu hv =>
        refine ⟨a.length + u.length, ?_, ?_⟩
        · simpa [List.append_assoc] using (ihr (a := a) (u := u) (c := v ++ c)).2 hu
        · simpa [List.append_assoc, Nat.add_assoc] using
            (ihs (a := a ++ u) (u := v) (c := c)).2 hv
  | alt r s ihr ihs =>
    simp only [Reaches, ihr, ihs]
    constructor
    · rintro (h | h)
      · exact .altLeft h
      · exact .altRight h
    · intro h
      cases h with
      | altLeft h => exact .inl h
      | altRight h => exact .inr h

/-- The matcher accepts exactly the texts that the expression describes. -/
theorem accepts_iff {r : Regex} {w : Bytes} : r.accepts w = true ↔ Matches r w := by
  have hp : Places w.toArray [0] := ⟨by simp, by simp⟩
  have h := (mem_ends_iff (r := r) hp).1 w.length
  have hm := reaches_iff_matches (r := r) (a := []) (u := w) (c := [])
  simp only [List.nil_append, List.append_nil, List.length_nil, Nat.zero_add] at hm
  simp only [accepts, List.size_toArray, List.contains_iff_mem, h, List.mem_singleton,
    exists_eq_left, hm]

end Regex

end BenchTally
