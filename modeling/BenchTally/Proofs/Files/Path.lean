import BenchTally.Files.Path
import BenchTally.Proofs.Text.Separator

set_option autoImplicit false
set_option relaxedAutoImplicit false

/-!
# Pieces of paths

## Main results

* `Path.pieces_join` — a name below a directory is the last piece of its path.
* `Path.components_join` — a name below a directory is the last component of its path.
* `Path.slash_not_mem_components` — no component of a path holds a slash.
-/

namespace BenchTally

namespace Path

/-- A name is a relative path. -/
lemma isAbsolute_of_slash_not_mem {c : Bytes} (hc : slash ∉ c) : isAbsolute ⟨c⟩ = false := by
  cases c with
  | nil => rfl
  | cons a r => simpa [isAbsolute] using fun h => hc (by simp [h])

/-- **The path of a name in a directory.** The name is the last piece; the others are those of the
directory's path, less an empty piece that a slash at the end of that path makes. -/
lemma pieces_join (p : Path) {c : Bytes} (hc : slash ∉ c) :
    ∃ dirs, (p.join ⟨c⟩).pieces = dirs ++ [c] ∧
      (p.pieces = dirs ∨ p.pieces = dirs ++ [[]]) := by
  have hpiece : Text.splitOn slash c = [c] := Text.splitOn_of_not_mem hc
  unfold join
  rw [isAbsolute_of_slash_not_mem hc, if_neg (by decide)]
  split_ifs with h
  · rcases List.eq_nil_or_concat' p.bytes with hnil | ⟨b, a, hb⟩
    · exact ⟨[], by simp [pieces, hnil, hpiece], .inr (by simp [pieces, hnil])⟩
    · have ha : a = slash := by simpa [hb] using h
      subst ha
      refine ⟨Text.splitOn slash b, ?_, .inr ?_⟩
      · rw [pieces, hb, List.append_assoc, List.singleton_append, Text.splitOn_append_cons, hpiece]
      · rw [pieces, hb, Text.splitOn_append_cons, Text.splitOn_nil]
  · exact ⟨p.pieces, by rw [pieces, Text.splitOn_append_cons, hpiece, ← pieces], .inl rfl⟩

/-- A relative path below a directory starts where the directory's path does. -/
lemma isAbsolute_join {p : Path} {c : Bytes} (hc : slash ∉ c) :
    (p.join ⟨c⟩).isAbsolute = p.isAbsolute := by
  unfold join
  rw [isAbsolute_of_slash_not_mem hc, if_neg (by decide)]
  rcases hp : p.bytes with _ | ⟨a, r⟩
  · simpa [isAbsolute, hp] using isAbsolute_of_slash_not_mem hc
  · split_ifs <;> simp [isAbsolute, hp]

/-- Different names in a directory have different paths. -/
lemma join_inj {p : Path} {c d : Bytes} (hc : slash ∉ c) (hd : slash ∉ d) :
    p.join ⟨c⟩ = p.join ⟨d⟩ ↔ c = d := by
  unfold join
  simp only [isAbsolute_of_slash_not_mem hc, isAbsolute_of_slash_not_mem hd,
    Bool.false_eq_true, if_false]
  split_ifs <;> simp

/-- **The components of a name in a directory** are those of the directory's path and the name. -/
lemma components_join (p : Path) {c : Bytes} (hslash : slash ∉ c) (hnil : c ≠ [])
    (hhere : c ≠ here) : (p.join ⟨c⟩).components = p.components ++ [c] := by
  obtain ⟨dirs, hjoin, hdirs⟩ := pieces_join p hslash
  have hlast : List.filter (fun c : Bytes => !c.isEmpty && c != here) [c] = [c] := by
    simp [hnil, hhere]
  have hempty : List.filter (fun c : Bytes => !c.isEmpty && c != here) [[]] = [] := rfl
  have hnone : ([] : Bytes) ≠ here := by decide
  unfold components
  rw [hjoin]
  dsimp only
  cases dirs with
  | nil =>
    rcases hdirs with hdirs | hdirs
    · exact absurd hdirs (Text.splitOn_ne_nil _ _)
    · simp only [List.nil_append] at hdirs ⊢
      simp only [hdirs, hlast, hempty, List.head?_cons, Option.some.injEq, hhere, hnone, if_false]
      rfl
  | cons d ds =>
    rcases hdirs with hdirs | hdirs
    · rw [hdirs, List.filter_append, hlast, ← List.append_assoc]
      rfl
    · rw [hdirs, List.filter_append, List.filter_append, hlast, hempty, List.append_nil,
        ← List.append_assoc]
      rfl

/-- The file name of a name in a directory is the name. -/
lemma fileName_join (p : Path) {c : Bytes} (hslash : slash ∉ c) (hnil : c ≠ [])
    (hhere : c ≠ here) : (p.join ⟨c⟩).fileName = c := by
  rw [fileName, components_join p hslash hnil hhere, List.getLastD_concat]

/-- The last component of a path is its file name. -/
lemma components_eq_concat {p : Path} (h : p.components ≠ []) :
    p.components = p.components.dropLast ++ [p.fileName] := by
  rw [fileName, List.getLastD_eq_getLast?, List.getLast?_eq_some_getLast h, Option.getD_some,
    List.dropLast_append_getLast h]

lemma same_refl (p : Path) : p.same p := by
  simp [same]

/-- Equal paths have the same components. -/
lemma components_eq_of_same {p q : Path} (h : p.same q = true) : p.components = q.components := by
  simp only [same, Bool.and_eq_true, beq_iff_eq] at h
  exact h.2

/-- No piece of a path holds a slash. -/
lemma slash_not_mem_pieces (p : Path) : ∀ c ∈ p.pieces, slash ∉ c :=
  fun _ => Text.not_mem_of_mem_splitOn

/-- No component of a path holds a slash. -/
lemma slash_not_mem_components (p : Path) : ∀ c ∈ p.components, slash ∉ c := by
  intro c hc
  rw [components, List.mem_append, List.mem_filter] at hc
  rcases hc with hc | ⟨hc, -⟩
  · split_ifs at hc
    · rw [List.mem_singleton.1 hc]
      decide
    · simp at hc
  · exact slash_not_mem_pieces p c hc

/-- The last component of a path holds no slash. -/
lemma slash_not_mem_fileName (p : Path) : slash ∉ p.fileName := by
  unfold fileName
  rw [List.getLastD_eq_getLast?]
  cases h : p.components.getLast? with
  | none => simp
  | some c => exact slash_not_mem_components p c (List.mem_of_getLast? h)

end Path

end BenchTally
