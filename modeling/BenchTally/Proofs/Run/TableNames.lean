import BenchTally.Proofs.Files.Path
import BenchTally.Proofs.Run.RoundTrip
import BenchTally.Proofs.Text.Ascii

set_option autoImplicit false
set_option relaxedAutoImplicit false

/-!
# Names of tables

The keys of summary tables and of charts are read off configurations that come from file names.
Written, they are distinct as long as the keys are, and hold no slash.

## Main definitions

* `ConfigKey.OfFileName` — what the texts of a configuration are like that a file name spells.
* `NamesTables` — a way to name tables after configurations.

## Main results

* `Run.ofFileName_of_ofName` — the configurations that file names spell are of that kind.
* `ConfigKey.Separable.outputKey_text_inj`, `ConfigKey.Separable.chartKey_text_inj` — distinct keys
  are written differently.
* `ConfigKey.Separable.ofName_outputKey_text`, `ConfigKey.Separable.ofName_chartKey_text` — the
  files of tables are never taken for files of runs.
-/

namespace BenchTally

/-- The pieces of the written form of fields, the last of which no separator may follow. -/
lemma splitOnPair_joinFields (fields : List (List Char)) {last : List Char}
    (hfields : ∀ f ∈ fields, Text.IsPiece '_' f) (hlast : ¬ ['_', '_'] <:+: last) :
    Text.splitOnPair '_' (joinFields (fields ++ [last])).toList = fields ++ [last] := by
  rw [joinFields, String.toList_ofList]
  exact Text.splitOnPair_intercalate fields hfields hlast

/-- The key of a summary table is written with its fields in a row. -/
lemma OutputKey.text_eq (g : OutputKey) : g.text = g.workload ++ "__" ++ g.storageEngine := by
  rw [← String.toList_inj]
  simp [text, joinFields, fieldSeparator, List.intercalate]

/-- The key of a chart is written with its fields in a row. -/
lemma ChartKey.text_eq (g : ChartKey) :
    g.text = g.workload ++ "__" ++ g.storageEngine ++ "__" ++
      String.ofList (Decimal.writeNat g.workers) := by
  rw [← String.toList_inj]
  simp [text, joinFields, fieldSeparator, List.intercalate]

namespace ConfigKey

namespace Separable

variable {k k' : ConfigKey}

/-- The written key of a summary table comes apart into the fields of the key. -/
lemma splitOnPair_outputKey_text (h : k.Separable) :
    Text.splitOnPair '_' k.outputKey.text.toList =
      [k.workload.toList, k.storageEngine.toList] := by
  refine splitOnPair_joinFields [k.workload.toList] (fun f hf => ?_)
    (h k.storageEngine (by simp [texts])).no_pair
  rw [List.mem_singleton.1 hf]
  exact h k.workload (by simp [texts])

/-- The written key of a chart comes apart into the fields of the key. -/
lemma splitOnPair_chartKey_text (h : k.Separable) :
    Text.splitOnPair '_' k.chartKey.text.toList =
      [k.workload.toList, k.storageEngine.toList, Decimal.writeNat k.workers] := by
  refine splitOnPair_joinFields [k.workload.toList, k.storageEngine.toList] (fun f hf => ?_)
    (isPiece_writeNat k.workers).no_pair
  simp only [List.mem_cons, List.not_mem_nil, or_false] at hf
  rcases hf with rfl | rfl
  · exact h k.workload (by simp [texts])
  · exact h k.storageEngine (by simp [texts])

/-- **Summary tables have names of their own.** -/
lemma outputKey_text_inj (h : k.Separable) (h' : k'.Separable) :
    k.outputKey.text = k'.outputKey.text ↔ k.outputKey = k'.outputKey := by
  refine ⟨fun heq => ?_, fun heq => by rw [heq]⟩
  have hfields := h.splitOnPair_outputKey_text
  rw [heq, h'.splitOnPair_outputKey_text] at hfields
  simp only [List.cons.injEq, String.toList_inj, and_true] at hfields
  simp [outputKey, hfields]

/-- **Charts have names of their own.** -/
lemma chartKey_text_inj (h : k.Separable) (h' : k'.Separable) :
    k.chartKey.text = k'.chartKey.text ↔ k.chartKey = k'.chartKey := by
  refine ⟨fun heq => ?_, fun heq => by rw [heq]⟩
  have hfields := h.splitOnPair_chartKey_text
  rw [heq, h'.splitOnPair_chartKey_text] at hfields
  simp only [List.cons.injEq, String.toList_inj, and_true] at hfields
  obtain ⟨hworkload, hengine, hworkers⟩ := hfields
  have hnumber := Decimal.writeNat_inj.1 hworkers
  simp [chartKey, hworkload, hengine, hnumber]

/-- **The file of a summary table is never named like a run.** -/
lemma ofName_outputKey_text (h : k.Separable) (r : Run) :
    Run.ofName (k.outputKey.text ++ ".csv").toList ≠ .ok r := by
  rw [String.toList_append]
  refine Run.ofName_append_ne_ok (x := ['c', 's', 'v']) (by decide) ?_ r
  rw [h.splitOnPair_outputKey_text]
  simp

/-- **The file of a chart is never named like a run.** -/
lemma ofName_chartKey_text (h : k.Separable) (r : Run) :
    Run.ofName (k.chartKey.text ++ ".csv").toList ≠ .ok r := by
  rw [String.toList_append]
  refine Run.ofName_append_ne_ok (x := ['c', 's', 'v']) (by decide) ?_ r
  rw [h.splitOnPair_chartKey_text]
  simp

end Separable

/-- The texts of a configuration that a file name spells: fields that come apart, without the byte
that file names lack. -/
structure OfFileName (k : ConfigKey) : Prop where
  separable : k.Separable
  slash_not_mem : ∀ s ∈ k.texts, '/' ∉ s.toList

namespace OfFileName

variable {k : ConfigKey}

lemma slash_not_mem_outputKey_text (h : k.OfFileName) : '/' ∉ k.outputKey.text.toList := by
  have hworkload := h.slash_not_mem k.workload (by simp [texts])
  have hengine := h.slash_not_mem k.storageEngine (by simp [texts])
  simp [outputKey, OutputKey.text, joinFields, fieldSeparator, List.intercalate, hworkload,
    hengine]

lemma slash_not_mem_chartKey_text (h : k.OfFileName) : '/' ∉ k.chartKey.text.toList := by
  have hworkload := h.slash_not_mem k.workload (by simp [texts])
  have hengine := h.slash_not_mem k.storageEngine (by simp [texts])
  have hworkers : '/' ∉ Decimal.writeNat k.workers := Decimal.not_mem_writeNat (by decide)
  simp [chartKey, ChartKey.text, joinFields, fieldSeparator, List.intercalate, hworkload,
    hengine, hworkers]

end OfFileName

end ConfigKey

/-- A way to name tables: the names of the tables of configurations that file names spell hold no
slash, and no two tables have the same name. -/
structure NamesTables {κ : Type} (key : ConfigKey → κ) (text : κ → String) : Prop where
  slash_not_mem : ∀ {k : ConfigKey}, k.OfFileName → '/' ∉ (text (key k)).toList
  inj : ∀ {k k' : ConfigKey}, k.OfFileName → k'.OfFileName → text (key k) = text (key k') →
    key k = key k'

lemma namesTables_outputKey : NamesTables ConfigKey.outputKey OutputKey.text :=
  ⟨fun h => h.slash_not_mem_outputKey_text,
    fun h h' => (h.separable.outputKey_text_inj h'.separable).1⟩

lemma namesTables_chartKey : NamesTables ConfigKey.chartKey ChartKey.text :=
  ⟨fun h => h.slash_not_mem_chartKey_text,
    fun h h' => (h.separable.chartKey_text_inj h'.separable).1⟩

/-- **Configurations that file names spell.** Their texts hold no slash, since file names do not. -/
lemma Run.ofFileName_of_ofName {p : Path} {r : Run}
    (h : Run.ofName (Text.decodeLossy p.fileName) = .ok r) : r.config.OfFileName := by
  obtain ⟨hsep, d, e, hspelled⟩ := Run.ofName_eq_ok_iff.1 h
  refine ⟨hsep, fun s hs hmem => ?_⟩
  have htext : '/' ∈ r.config.text.toList :=
    (ConfigKey.mem_text_iff (by decide) (by decide)).2 ⟨s, hs, hmem⟩
  have hname : '/' ∈ Text.decodeLossy p.fileName := by
    rw [hspelled.eq]
    simp only [List.mem_append, htext, true_or]
  have hbyte := Text.mem_of_mem_decodeLossy (by decide) hname
  exact Path.slash_not_mem_fileName p hbyte

end BenchTally
