import BenchTally.Proofs.Analysis.Rejections
import BenchTally.Proofs.Analysis.Stages

set_option autoImplicit false
set_option relaxedAutoImplicit false

/-!
# What an analysis reads

All that an analysis plans follows from the names and contents of its usable files.

## Main definitions

* `Variant.usableFiles` — the usable files of some configurations, by name and content.
* `Variant.ReadsBy` — a way to read files by their contents.

## Main results

* `values_intake` — what is read follows from the usable files.
* `Variant.ReadsBy.filter_usable_congr` — for some configurations it follows from the usable files
  of these.
* `harvest_congr` — the same usable files make the same plan.
-/

namespace BenchTally

section Intake

variable {β : Type} {read : Path → Except ContentError β} {announce : Bool} {files : List Path}

/-- The configurations of usable files are among those of the names. -/
lemma mem_keys_filesByConfig {result : ConfigKey × β} (h : result ∈ usable read files) :
    result.1 ∈ (filesByConfig files).keys := by
  rw [← filterMap_contentOf?] at h
  obtain ⟨x, hx, hcontent⟩ := List.mem_filterMap.1 h
  exact (Keyed.mem_keys_groupOn Prod.fst).2 ⟨x, hx, (key_of_contentOf? hcontent).symm⟩

/-- **What is read follows from the usable files**, which are taken configuration by
configuration. -/
lemma values_intake (read : Path → Except ContentError β) (announce : Bool) (files : List Path) :
    (intake read announce files).values =
      (Keyed.groupOn Prod.fst (usable read files)).entries.flatMap Prod.snd := by
  rw [Keyed.flatMap_groupOn (f := fun group => group) Prod.fst
    (Keyed.keys_ascending (filesByConfig files)) (fun _ => mem_keys_filesByConfig) rfl]
  dsimp only [intake]
  rw [filesByConfig, Keyed.entries_groupOn, List.flatMap_map]
  refine List.flatMap_congr fun k _ => ?_
  rw [← filter_filterMap_key (contentOf? read) fun _ _ => key_of_contentOf?, filterMap_contentOf?]

/-- An analysis reads the usable files, in an order of its own. -/
lemma values_intake_perm : (intake read announce files).values.Perm (usable read files) := by
  rw [values_intake]
  exact Keyed.flatMap_groupOn_perm Prod.fst _

end Intake

/-! ## Usable files by name and content -/

/-- Whether a file is usable for an analysis, and is of one of the given configurations. -/
def Variant.uses (variant : Variant) (tree : FileTree) (among : ConfigKey → Bool) (file : Path) :
    Bool :=
  match runOf file with
  | .ok run => among run.config && (variant.fault? tree file).isNone
  | .error _ => false

/-- The usable files of the given configurations, in their order: their names, with what can be
read from them. -/
def Variant.usableFiles (variant : Variant) (tree : FileTree) (files : List Path)
    (among : ConfigKey → Bool) : List (Bytes × Except PathError Bytes) :=
  (files.filter (variant.uses tree among)).map fun file => (file.fileName, tree.readFile file)

section Files

variable {variant : Variant} {tree t₁ t₂ : FileTree} {before after files : List Path} {file : Path}
  {among : ConfigKey → Bool}

/-- Whether a content is usable depends on the content only. -/
lemma Variant.fault?_congr (h : t₂.readFile file = t₁.readFile file) :
    variant.fault? t₂ file = variant.fault? t₁ file := by
  cases variant <;> simp only [fault?, BenchTally.fault?, readSummary, readTimeline, h]

/-- Files with the same contents are usable in the same way. -/
lemma Variant.usableFiles_congr (h : ∀ f ∈ files, t₂.readFile f = t₁.readFile f) :
    variant.usableFiles t₂ files among = variant.usableFiles t₁ files among := by
  have huses : ∀ f ∈ files, variant.uses t₂ among f = variant.uses t₁ among f := fun f hf => by
    simp only [uses, fault?_congr (h f hf)]
  rw [usableFiles, usableFiles, List.filter_congr huses]
  refine List.map_congr_left fun f hf => ?_
  rw [h f (List.mem_filter.1 hf).1]

/-- A file that cannot be used does not count. -/
lemma Variant.usableFiles_insert
    (hfile : ∀ run, runOf file = .ok run → variant.fault? tree file ≠ none) :
    variant.usableFiles tree (before ++ file :: after) among =
      variant.usableFiles tree (before ++ after) among := by
  have hnot : variant.uses tree among file = false := by
    unfold uses
    cases hrun : runOf file with
    | error e => rfl
    | ok run => simp [Option.isNone_eq_false_iff.2 (Option.isSome_iff_ne_none.2 (hfile run hrun))]
  rw [usableFiles, usableFiles, List.filter_append, List.filter_append,
    List.filter_cons_of_neg (by simp [hnot])]

end Files

section Congr

variable {β : Type} {variant : Variant} {tree t₁ t₂ : FileTree} {files files₁ files₂ : List Path}
  {among : ConfigKey → Bool}

/-- The result of a file with the given name and content. -/
def resultOf? (content : Except PathError Bytes → Except ContentError β)
    (file : Bytes × Except PathError Bytes) : Option (ConfigKey × β) :=
  match Run.ofName (Text.decodeLossy file.1), content file.2 with
  | .ok run, .ok value => some (run.config, value)
  | _, _ => none

/-- A way to read files by their contents, which are usable for an analysis exactly if they can be
read that way. -/
structure Variant.ReadsBy (variant : Variant) (content : Except PathError Bytes →
    Except ContentError β) (read : FileTree → Path → Except ContentError β) : Prop where
  read_eq : ∀ tree file, read tree file = content (tree.readFile file)
  fault?_eq : ∀ tree file, variant.fault? tree file = BenchTally.fault? (read tree) file

variable {content : Except PathError Bytes → Except ContentError β}
  {read : FileTree → Path → Except ContentError β}

/-- What is read for some configurations is read from the names and contents of the usable files of
these. -/
lemma Variant.ReadsBy.filter_usable (h : variant.ReadsBy content read) (tree : FileTree)
    (files : List Path) (among : ConfigKey → Bool) :
    (usable (read tree) files).filter (fun result => among result.1) =
      (variant.usableFiles tree files among).filterMap (resultOf? content) := by
  rw [usableFiles, List.filterMap_map, List.filterMap_filter, usable, List.filter_filterMap]
  refine List.filterMap_congr fun file _ => ?_
  have hsame : Run.ofName (Text.decodeLossy file.fileName) = runOf file := rfl
  simp only [uses, Function.comp_apply, resultOf?, hsame, usableResult?, h.fault?_eq,
    BenchTally.fault?, h.read_eq]
  cases runOf file with
  | error e => rfl
  | ok run =>
    cases content (tree.readFile file) with
    | error e => simp
    | ok value => by_cases h : among run.config <;> simp [h]

/-- **What is read for some configurations follows from the usable files of these.** -/
lemma Variant.ReadsBy.filter_usable_congr (h : variant.ReadsBy content read)
    (hfiles : variant.usableFiles t₁ files₁ among = variant.usableFiles t₂ files₂ among) :
    (usable (read t₁) files₁).filter (fun result => among result.1) =
      (usable (read t₂) files₂).filter fun result => among result.1 := by
  rw [h.filter_usable, h.filter_usable, hfiles]

/-- All that is read follows from the usable files. -/
lemma Variant.ReadsBy.usable_congr (h : variant.ReadsBy content read)
    (hfiles : variant.usableFiles t₁ files₁ (fun _ => true) =
      variant.usableFiles t₂ files₂ fun _ => true) :
    usable (read t₁) files₁ = usable (read t₂) files₂ := by
  have hall := h.filter_usable_congr hfiles
  simpa only [List.filter_true] using hall

end Congr

/-! ## The two ways to read a content -/

/-- The totals of a content. -/
def summaryOf (content : Except PathError Bytes) : Except ContentError RunSummary :=
  match content.toOption.bind Text.decode? with
  | some content => RunSummary.ofText content.toList
  | none => .error .unreadable

/-- The samples of a content. -/
def timelineOf (content : Except PathError Bytes) : Except ContentError (List (Sample Float)) :=
  match content with
  | .ok content => Timeline.ofBytes content
  | .error _ => .error .malformedRecord

lemma readsBy_throughput : Variant.throughput.ReadsBy summaryOf readSummary :=
  ⟨fun _ _ => rfl, fun _ _ => rfl⟩

lemma readsBy_metrics : Variant.metrics.ReadsBy summaryOf readSummary :=
  ⟨fun _ _ => rfl, fun _ _ => rfl⟩

lemma readsBy_timeline : Variant.timeline.ReadsBy timelineOf readTimeline :=
  ⟨fun _ _ => rfl, fun _ _ => rfl⟩

/-- **The same usable files make the same plan.** -/
lemma harvest_congr {variant : Variant} {t₁ t₂ : FileTree} {files₁ files₂ : List Path} (out : Path)
    (h : variant.usableFiles t₁ files₁ (fun _ => true) =
      variant.usableFiles t₂ files₂ fun _ => true) :
    (harvest t₁ variant out files₁).plan = (harvest t₂ variant out files₂).plan ∧
      (harvest t₁ variant out files₁).used = (harvest t₂ variant out files₂).used := by
  cases variant with
  | throughput =>
    simp only [harvest, harvestThroughput, values_intake, readsBy_throughput.usable_congr h,
      and_self]
  | metrics =>
    simp only [harvest, harvestMetrics, values_intake, readsBy_metrics.usable_congr h, and_self]
  | timeline =>
    simp only [harvest, harvestTimeline, values_intake, readsBy_timeline.usable_congr h, and_self]

end BenchTally
