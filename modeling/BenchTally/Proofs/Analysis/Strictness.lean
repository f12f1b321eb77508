import BenchTally.Proofs.Analysis.Rejections
import BenchTally.Proofs.Analysis.Throughput

set_option autoImplicit false
set_option relaxedAutoImplicit false

/-!
# Strict and lenient analyses

## Main results

* `analyse_strict` — a strict analysis does what the lenient one does if that leaves no file out,
  and otherwise ends with the first file that the lenient one leaves out, before anything is
  written.
-/

namespace BenchTally

variable {tree : FileTree} {settings : Settings} {variant : Variant} {listing : Listing}

/-- A strict analysis concludes if nothing is rejected. -/
lemma analyse_strict_of_none (hlisting : listFiles tree settings = .ok listing)
    (hnone : firstRejection? (harvest tree variant settings.outputDir listing.files).findings =
      none) :
    analyse tree { settings with strict := true } variant =
      conclude tree (listing.failures.map Event.unlisted) listing.files.length
        (harvest tree variant settings.outputDir listing.files) := by
  have h : listFiles tree { settings with strict := true } = .ok listing := hlisting
  simp only [analyse, h, hnone]

/-- A strict analysis ends with the first rejection. -/
lemma analyse_strict_of_some {before : List Finding} {file : Path} {cause : FileError}
    (hlisting : listFiles tree settings = .ok listing)
    (hsome : firstRejection? (harvest tree variant settings.outputDir listing.files).findings =
      some (before, file, cause)) :
    analyse tree { settings with strict := true } variant =
      ⟨.error (.rejected file cause),
        listing.failures.map Event.unlisted ++ before.map Finding.event, tree⟩ := by
  have h : listFiles tree { settings with strict := true } = .ok listing := hlisting
  simp only [analyse, h, hsome]

/-- **Strict and lenient analyses.** If the lenient analysis leaves no file out, the strict one has
the same outcome: the same report or error, the same log and the same tree. Otherwise the strict one
is rejected with the first file that the lenient one leaves out and the cause of it, reports no file
as left out, and changes nothing. This file is, with the names in ascending order, the first whose
name names no run, if there is one; otherwise it is the first with an unusable content, in the order
of the configurations and then of the names.

**Proof sketch.** What the lenient analysis leaves out are the rejections on reading, in their order
(`skipped_analyse_lenient`), and the strict one looks for the first of them before it writes. -/
theorem analyse_strict (tree : FileTree) (settings : Settings) (variant : Variant) :
    ((analyse tree { settings with strict := false } variant).skipped = [] →
      analyse tree { settings with strict := true } variant =
        analyse tree { settings with strict := false } variant) ∧
    (∀ file cause,
      (analyse tree { settings with strict := false } variant).skipped.head? =
        some (file, cause) →
      (analyse tree { settings with strict := true } variant).result =
          .error (.rejected file cause) ∧
        (analyse tree { settings with strict := true } variant).skipped = [] ∧
        (analyse tree { settings with strict := true } variant).tree = tree ∧
        ∃ (listing : Listing) (names : List Bytes), listFiles tree settings = .ok listing ∧
          names.Pairwise (· < ·) ∧
          listing.files = names.map (fun name => settings.inputDir.join ⟨name⟩) ∧
          FirstUnusable variant tree listing.files file cause) := by
  cases hlisting : listFiles tree settings with
  | error e =>
    have hfail : ∀ strict, analyse tree { settings with strict := strict } variant =
        ⟨.error (.config e), [], tree⟩ := fun strict => by
      have h : listFiles tree { settings with strict := strict } = .error e := hlisting
      simp only [analyse, h]
    refine ⟨fun _ => by rw [hfail, hfail], fun file cause h => ?_⟩
    rw [hfail] at h
    simp [Outcome.skipped] at h
  | ok listing =>
    have hlenient : listFiles tree { settings with strict := false } = .ok listing := hlisting
    rw [skipped_analyse_lenient rfl hlenient]
    constructor
    · intro hnone
      rw [analyse_strict_of_none hlisting (firstRejection?_eq_none_iff.2 hnone),
        analyse_lenient rfl hlenient]
    · intro file cause hhead
      obtain ⟨names, hascending, hfiles⟩ := listFiles_ascending hlisting
      cases hfirst : firstRejection?
          (harvest tree variant settings.outputDir listing.files).findings with
      | none =>
        rw [firstRejection?_eq_none_iff.1 hfirst] at hhead
        simp at hhead
      | some found =>
        obtain ⟨before, file', cause'⟩ := found
        obtain ⟨after, hfindings, hbefore⟩ := firstRejection?_eq_some hfirst
        have hnotes : NotesNoSkips before := fun event hevent =>
          notesNoSkips_harvest tree variant settings.outputDir listing.files event
            (by rw [hfindings]; exact List.mem_append_left _ hevent)
        have hsame : (file', cause') = (file, cause) := by
          rw [hfindings, rejections, List.filterMap_append, ← rejections, hbefore] at hhead
          simpa [Finding.rejected?] using hhead
        rw [Prod.mk.injEq] at hsame
        obtain ⟨rfl, rfl⟩ := hsame
        rw [analyse_strict_of_some hlisting hfirst]
        refine ⟨rfl, ?_, rfl, listing, names, rfl, hascending, hfiles,
          firstUnusable_of_harvest hhead⟩
        simp only [Outcome.skipped, List.filterMap_append, filterMap_skipped?_unlisted,
          skipped_of_findings hnotes, hbefore, List.append_nil]

/-- With the result file alone a strict analysis does what a lenient one does; next to a file whose
name names no run it is rejected with that file. -/
theorem analyse_strict_sampleTree :
    analyse sampleTree { sampleSettings with strict := true } .throughput =
        analyse sampleTree { sampleSettings with strict := false } .throughput ∧
      (analyse strayTree { sampleSettings with strict := true } .timeline).result =
        .error (.rejected strayFile (.name .missingRepetition)) := by
  constructor
  · obtain ⟨summary, hread⟩ := readSummary_sampleTree
    refine (analyse_strict sampleTree sampleSettings .throughput).1 ?_
    have hlisting : listFiles sampleTree { sampleSettings with strict := false } =
        .ok ⟨[sampleFile], []⟩ := listFiles_sampleTree
    rw [skipped_analyse_lenient rfl hlisting]
    refine rejections_intake_eq_nil fun f hf => ?_
    rw [List.mem_singleton.1 hf]
    exact ⟨sampleRun, summary, runOf_sampleFile, hread⟩
  · refine ((analyse_strict strayTree sampleSettings .timeline).2 _ _ ?_).1
    have hnames : [sampleFile, strayFile].filterMap nameFault? =
        [(strayFile, .name .missingRepetition)] := by
      simp [nameFault?, runOf_sampleFile, runOf_strayFile]
    have hlisting : listFiles strayTree { sampleSettings with strict := false } =
        .ok ⟨[sampleFile, strayFile], []⟩ := listFiles_strayTree
    rw [skipped_analyse_lenient rfl hlisting, harvest, harvestTimeline, rejections_intake,
      hnames]
    rfl

end BenchTally
