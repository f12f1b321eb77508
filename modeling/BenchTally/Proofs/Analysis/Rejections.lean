import BenchTally.Analysis.Report
import BenchTally.Proofs.Analysis.Collected
import BenchTally.Proofs.Stats.Tallies

set_option autoImplicit false
set_option relaxedAutoImplicit false

/-!
# Rejected files

## Main definitions

* `Outcome.skipped` — the files that an analysis reports as left out.
* `rejections` — the files that reading rejects.
* `Variant.fault?` — what is wrong with the content of a file, for a kind of analysis.
* `FirstUnusable` — the first file that an analysis cannot use.

## Main results

* `firstRejection?_eq_some` — the first rejection among findings.
* `rejections_intake` — reading rejects wrong names first, and then unusable contents configuration
  by configuration.
* `firstUnusable_of_intake` — the first rejection is that of the first unusable file.
* `skipped_conclude` — what an analysis reports as left out is what was rejected.
* `analyse_cases` — the three ways in which an analysis can go.
* `counts_analyse` — what a report counts.
-/

namespace BenchTally

/-! ## Reports of rejections -/

/-- The file that an event reports as left out, with the cause. -/
def Event.skipped? : Event → Option (Path × FileError)
  | .skipped file cause => some (file, cause)
  | _ => none

/-- The files that an analysis reports as left out, with the causes, in order. -/
def Outcome.skipped (o : Outcome) : List (Path × FileError) :=
  o.log.filterMap Event.skipped?

/-- The file that a finding rejects, with the cause. -/
def Finding.rejected? : Finding → Option (Path × FileError)
  | .note _ => none
  | .rejection file cause => some (file, cause)

/-- The files that are rejected among findings, with the causes, in order. -/
def rejections (findings : List Finding) : List (Path × FileError) :=
  findings.filterMap Finding.rejected?

/-- No note among the findings reports a file as left out. -/
def NotesNoSkips (findings : List Finding) : Prop :=
  ∀ event, .note event ∈ findings → event.skipped? = none

variable {findings before : List Finding} {file : Path} {cause : FileError}

/-- Findings are reported with their rejections as the files left out. -/
lemma skipped_of_findings (h : NotesNoSkips findings) :
    (findings.map Finding.event).filterMap Event.skipped? = rejections findings := by
  rw [List.filterMap_map, rejections]
  refine List.filterMap_congr fun finding hfinding => ?_
  cases finding with
  | note event => exact h event hfinding
  | rejection file cause => rfl

/-- The number of rejections among findings. -/
lemma countP_isRejection (findings : List Finding) :
    findings.countP Finding.isRejection = (rejections findings).length := by
  rw [rejections, List.length_filterMap_eq_countP]
  exact List.countP_congr fun finding _ => by cases finding <;> rfl

lemma firstRejection?_eq_none_iff : firstRejection? findings = none ↔ rejections findings = [] := by
  induction findings with
  | nil => simp [firstRejection?, rejections]
  | cons finding findings ih =>
    cases finding with
    | note event => simpa [firstRejection?, rejections, Finding.rejected?] using ih
    | rejection file cause => simp [firstRejection?, rejections, Finding.rejected?]

/-- **The first rejection** has no rejection among the findings before it. -/
lemma firstRejection?_eq_some (h : firstRejection? findings = some (before, file, cause)) :
    ∃ after, findings = before ++ .rejection file cause :: after ∧ rejections before = [] := by
  induction findings generalizing before with
  | nil => simp [firstRejection?] at h
  | cons finding findings ih =>
    cases finding with
    | note event =>
      simp only [firstRejection?, Option.map_eq_some_iff, Prod.mk.injEq, Prod.exists] at h
      obtain ⟨rest, file', cause', hrest, rfl, rfl, rfl⟩ := h
      obtain ⟨after, rfl, hnone⟩ := ih hrest
      exact ⟨after, rfl, hnone⟩
    | rejection file' cause' =>
      simp only [firstRejection?, Option.some.injEq, Prod.mk.injEq] at h
      obtain ⟨rfl, rfl, rfl⟩ := h
      exact ⟨findings, rfl, rfl⟩

/-! ## Rejections on reading -/

/-- What is wrong with the name of a file. -/
def nameFault? (file : Path) : Option (Path × FileError) :=
  match runOf file with
  | .ok _ => none
  | .error cause => some (file, .name cause)

section Intake

variable {β : Type} {read : Path → Except ContentError β}

/-- What is wrong with the content of a file. -/
def fault? (read : Path → Except ContentError β) (file : Path) : Option ContentError :=
  match read file with
  | .ok _ => none
  | .error cause => some cause

/-- What is wrong with the content of a file of a configuration. -/
def contentFault? (read : Path → Except ContentError β) (file : ConfigKey × Path) :
    Option (Path × FileError) :=
  (fault? read file.2).map fun cause => (file.2, .content cause)

/-- **What reading rejects**: all wrong names in the order of the files, and then the unusable
contents, configuration by configuration. -/
lemma rejections_intake (read : Path → Except ContentError β) (announce : Bool)
    (files : List Path) :
    rejections (intake read announce files).findings =
      files.filterMap nameFault? ++
        (filesByConfig files).entries.flatMap fun group =>
          group.2.filterMap (contentFault? read) := by
  have hname : ∀ file, (nameRejection? file).bind Finding.rejected? = nameFault? file := by
    intro file
    unfold nameRejection? nameFault?
    cases runOf file <;> rfl
  have hcontent : ∀ file : ConfigKey × Path,
      (contentRejection? read file.2).bind Finding.rejected? = contentFault? read file := by
    intro file
    unfold contentRejection? contentFault? fault?
    cases read file.2 <;> rfl
  simp only [rejections, intake, List.filterMap_append, List.filterMap_filterMap, hname,
    List.filterMap_flatMap]
  congr 1
  refine List.flatMap_congr fun group _ => ?_
  rw [configFindings, List.filterMap_append, List.filterMap_filterMap]
  simp only [hcontent]
  cases announce <;> rfl

/-- Files that can be used are not rejected. -/
lemma rejections_intake_eq_nil {announce : Bool} {files : List Path}
    (h : ∀ f ∈ files, ∃ run value, runOf f = .ok run ∧ read f = .ok value) :
    rejections (intake read announce files).findings = [] := by
  rw [rejections_intake, List.append_eq_nil_iff]
  refine ⟨List.filterMap_eq_nil_iff.2 fun f hf => ?_, List.flatMap_eq_nil_iff.2 fun group hg => ?_⟩
  · obtain ⟨run, value, hrun, -⟩ := h f hf
    simp [nameFault?, hrun]
  · refine List.filterMap_eq_nil_iff.2 fun x hx => ?_
    obtain ⟨run, value, -, hvalue⟩ := h x.2 (exists_runOf_of_mem_filesByConfig hg hx).1
    simp [contentFault?, fault?, hvalue]

/-- The notes on reading announce configurations. -/
lemma exists_processing_of_mem_intake {announce : Bool} {files : List Path} {event : Event}
    (h : .note event ∈ (intake read announce files).findings) : ∃ k, event = .processing k := by
  rcases List.mem_append.1 h with hevent | hevent
  · obtain ⟨file, -, hfile⟩ := List.mem_filterMap.1 hevent
    unfold nameRejection? at hfile
    split at hfile <;> simp at hfile
  · obtain ⟨group, -, hgroup⟩ := List.mem_flatMap.1 hevent
    rcases List.mem_append.1 hgroup with hgroup | hgroup
    · split_ifs at hgroup
      · simp only [List.mem_singleton, Finding.note.injEq] at hgroup
        exact ⟨group.1, hgroup⟩
      · simp at hgroup
    · obtain ⟨file, -, hfile⟩ := List.mem_filterMap.1 hgroup
      unfold contentRejection? at hfile
      split at hfile <;> simp at hfile

end Intake

/-! ## The first unusable file -/

/-- What is wrong with the content of a file, for an analysis of the given kind. -/
def Variant.fault? (variant : Variant) (tree : FileTree) (file : Path) : Option ContentError :=
  match variant with
  | .throughput | .metrics => BenchTally.fault? (readSummary tree) file
  | .timeline => BenchTally.fault? (readTimeline tree) file

/-- The first file that an analysis cannot use, with the cause: the first whose name names no run,
and if all names name runs the first with an unusable content in the order of the configurations,
and for each configuration in the order of the files. -/
inductive FirstUnusable (variant : Variant) (tree : FileTree) (files : List Path) :
    Path → FileError → Prop
  /-- The name names no run, and those before it do. -/
  | name {before after : List Path} {file : Path} {cause : NameError}
      (hfiles : files = before ++ file :: after)
      (hbefore : ∀ f ∈ before, ∃ run, runOf f = .ok run)
      (hfile : runOf file = .error cause) :
      FirstUnusable variant tree files file (.name cause)
  /-- All names name runs, the content is unusable, and those before it are usable. -/
  | content {before after : List Path} {file : Path} {run : Run} {cause : ContentError}
      (hnames : ∀ f ∈ files, ∃ run, runOf f = .ok run)
      (hfiles : files = before ++ file :: after)
      (hrun : runOf file = .ok run)
      (hfile : variant.fault? tree file = some cause)
      (hsame : ∀ f ∈ before, ∀ run', runOf f = .ok run' → run'.config = run.config →
        variant.fault? tree f = none)
      (hless : ∀ f ∈ files, ∀ run', runOf f = .ok run' → compare run'.config run.config = .lt →
        variant.fault? tree f = none) :
      FirstUnusable variant tree files file (.content cause)

section First

variable {β : Type} {read : Path → Except ContentError β} {files : List Path}
  {variant : Variant} {tree : FileTree}

lemma nameFault?_eq_none_iff : nameFault? file = none ↔ ∃ run, runOf file = .ok run := by
  unfold nameFault?
  cases runOf file <;> simp

lemma nameFault?_eq_some {f : Path} (h : nameFault? f = some (file, cause)) :
    f = file ∧ ∃ e, runOf file = .error e ∧ cause = .name e := by
  unfold nameFault? at h
  split at h
  · simp at h
  · rename_i e hrun
    simp only [Option.some.injEq, Prod.mk.injEq] at h
    obtain ⟨rfl, rfl⟩ := h
    exact ⟨rfl, e, hrun, rfl⟩

/-- What the files of one configuration have wrong is read off the files in their order. -/
lemma filterMap_contentFault? (files : List Path) (k : ConfigKey) :
    ((files.filterMap configOf?).filter fun x => x.1 = k).filterMap (contentFault? read) =
      files.filterMap fun f =>
        ((configOf? f).filter fun x => x.1 = k).bind (contentFault? read) := by
  rw [List.filter_filterMap, List.filterMap_filterMap]

/-- What the file of a run has wrong counts for the configuration of the run only. -/
lemma bind_contentFault? {f : Path} {run : Run} (hrun : runOf f = .ok run) (k : ConfigKey) :
    ((configOf? f).filter fun x => x.1 = k).bind (contentFault? read) =
      if run.config = k then contentFault? read (run.config, f) else none := by
  rw [configOf?, hrun, Option.filter_some]
  by_cases hk : run.config = k <;> simp [hk]

/-- A file that names a run is in the group of its configuration. -/
lemma mem_entries_filesByConfig {f : Path} {run : Run} (hf : f ∈ files) (hrun : runOf f = .ok run) :
    (run.config, (files.filterMap configOf?).filter fun x => x.1 = run.config) ∈
      (filesByConfig files).entries := by
  have hconfig : (run.config, f) ∈ files.filterMap configOf? :=
    List.mem_filterMap.2 ⟨f, hf, by rw [configOf?, hrun]⟩
  rw [filesByConfig, Keyed.entries_groupOn]
  exact List.mem_map.2 ⟨run.config, (Keyed.mem_keys_groupOn Prod.fst).2 ⟨_, hconfig, rfl⟩, rfl⟩

/-- The group of a configuration holds the files that name a run of it. -/
lemma eq_of_mem_entries_filesByConfig {k : ConfigKey} {members : List (ConfigKey × Path)}
    (h : (k, members) ∈ (filesByConfig files).entries) :
    members = (files.filterMap configOf?).filter fun x => x.1 = k := by
  rw [filesByConfig, Keyed.entries_groupOn] at h
  obtain ⟨k', -, heq⟩ := List.mem_map.1 h
  cases heq
  rfl

/-- **The first rejection on reading** is that of the first unusable file.

**Proof sketch.** If a name is rejected, the first rejection is that of the first such name.
Otherwise it is in the first group that has one. The groups before it hold the files of the lesser
configurations, and the group itself holds the files of its configuration in their order. -/
lemma firstUnusable_of_intake {announce : Bool}
    (hfault : ∀ f, fault? read f = variant.fault? tree f)
    (h : (rejections (intake read announce files).findings).head? = some (file, cause)) :
    FirstUnusable variant tree files file cause := by
  rw [rejections_intake, List.head?_append, Option.or_eq_some_iff] at h
  rcases h with hname | ⟨hnames, hcontent⟩
  · rw [List.head?_filterMap, List.findSome?_eq_some_iff] at hname
    obtain ⟨before, f, after, hfiles, hf, hbefore⟩ := hname
    obtain ⟨rfl, e, hrun, rfl⟩ := nameFault?_eq_some hf
    exact .name hfiles (fun f hf => nameFault?_eq_none_iff.1 (hbefore f hf)) hrun
  · rw [List.head?_eq_none_iff, List.filterMap_eq_nil_iff] at hnames
    replace hnames : ∀ f ∈ files, ∃ run, runOf f = .ok run := fun f hf =>
      nameFault?_eq_none_iff.1 (hnames f hf)
    rw [List.head?_flatMap, List.findSome?_eq_some_iff] at hcontent
    obtain ⟨lesser, group, greater, hgroups, hgroup, hlesser⟩ := hcontent
    have hascending : (filesByConfig files).entries.Pairwise fun a b =>
        compareOn Prod.fst a b = .lt := (filesByConfig files).ascending
    obtain ⟨k, members⟩ := group
    have hmember : (k, members) ∈ (filesByConfig files).entries := by simp [hgroups]
    obtain rfl := eq_of_mem_entries_filesByConfig hmember
    rw [filterMap_contentFault?, List.head?_filterMap, List.findSome?_eq_some_iff] at hgroup
    obtain ⟨before, f, after, hfiles, hf, hbefore⟩ := hgroup
    obtain ⟨run, hrun⟩ := hnames f (by simp [hfiles])
    rw [bind_contentFault? hrun] at hf
    split_ifs at hf with hk
    subst hk
    obtain ⟨e, he, heq⟩ := Option.map_eq_some_iff.1 hf
    simp only [Prod.mk.injEq] at heq
    obtain ⟨rfl, rfl⟩ := heq
    have hnone : ∀ {f run'}, runOf f = .ok run' → contentFault? read (run'.config, f) = none →
        variant.fault? tree f = none := by
      intro f run' _ hf
      simpa [contentFault?, hfault] using hf
    refine .content hnames hfiles hrun (by rw [← hfault, he]) (fun f hf run' hrun' hsame => ?_)
      fun f hf run' hrun' hlt => ?_
    · have hb := hbefore f hf
      rw [bind_contentFault? hrun', if_pos hsame] at hb
      exact hnone hrun' hb
    · -- The group of a lesser configuration stands before the group of the rejection.
      have hmem := mem_entries_filesByConfig hf hrun'
      rw [hgroups] at hascending hmem
      have hb := hlesser _ (Keyed.mem_of_ascending_append hascending hmem hlt)
      rw [filterMap_contentFault?, List.head?_eq_none_iff, List.filterMap_eq_nil_iff] at hb
      have hb' := hb f hf
      rw [bind_contentFault? hrun', if_pos rfl] at hb'
      exact hnone hrun' hb'

lemma exists_processing_of_mem_harvest {output : Path} {event : Event}
    (h : .note event ∈ (harvest tree variant output files).findings) :
    ∃ k, event = .processing k := by
  cases variant <;> exact exists_processing_of_mem_intake h

lemma notesNoSkips_harvest (tree : FileTree) (variant : Variant) (output : Path)
    (files : List Path) : NotesNoSkips (harvest tree variant output files).findings := by
  intro event hevent
  obtain ⟨k, rfl⟩ := exists_processing_of_mem_harvest hevent
  rfl

lemma firstUnusable_of_harvest {output : Path}
    (h : (rejections (harvest tree variant output files).findings).head? = some (file, cause)) :
    FirstUnusable variant tree files file cause := by
  cases variant <;> exact firstUnusable_of_intake (fun _ => rfl) h

end First

/-! ## Reports of analyses -/

section Analyses

variable {tree : FileTree} {settings : Settings} {variant : Variant}

/-- A conclusion reports what was found and what is written, and then at most that all is done. -/
lemma log_conclude (tree : FileTree) (log : List Event) (collected : Nat) (h : Harvest) :
    ∃ ending, (conclude tree log collected h).log = log ++ h.findings.map Finding.event ++
        (writeSheets tree h.plan.sheets).written.map Event.created ++ ending ∧
      ∀ event ∈ ending, ∃ n, event = .done n := by
  unfold conclude
  dsimp only
  split
  · exact ⟨[], (List.append_nil _).symm, by simp⟩
  · exact ⟨[_], rfl, fun event hevent => ⟨_, List.mem_singleton.1 hevent⟩⟩

/-- What a conclusion reports as left out is what was rejected before. -/
lemma skipped_conclude {log : List Event} (collected : Nat) {h : Harvest}
    (hlog : log.filterMap Event.skipped? = []) (hnotes : NotesNoSkips h.findings) :
    (conclude tree log collected h).skipped = rejections h.findings := by
  obtain ⟨ending, hconclude, hending⟩ := log_conclude tree log collected h
  have hcreated : ∀ files : List Path, (files.map Event.created).filterMap Event.skipped? = [] :=
    fun files => by simp [List.filterMap_map, Event.skipped?, Function.comp_def]
  have hend : ending.filterMap Event.skipped? = [] := List.filterMap_eq_nil_iff.2 fun event he => by
    obtain ⟨n, rfl⟩ := hending event he
    rfl
  simp only [Outcome.skipped, hconclude, List.filterMap_append, hlog, hcreated, hend,
    skipped_of_findings hnotes, List.nil_append, List.append_nil]

/-- Entries that cannot be listed are no files that are left out. -/
lemma filterMap_skipped?_unlisted (failures : List ListingError) :
    (failures.map Event.unlisted).filterMap Event.skipped? = [] := by
  simp [List.filterMap_map, Event.skipped?, Function.comp_def]

variable {listing : Listing}

/-- **How an analysis goes.** Without a listing it fails; a strict one ends with the first
rejection; and otherwise it concludes, a strict one only if nothing was rejected. -/
lemma analyse_cases (tree : FileTree) (settings : Settings) (variant : Variant) :
    (∃ e, listFiles tree settings = .error e ∧
      analyse tree settings variant = ⟨.error (.config e), [], tree⟩) ∨
    ∃ listing, listFiles tree settings = .ok listing ∧
      ((∃ log file cause, analyse tree settings variant =
          ⟨.error (.rejected file cause), log, tree⟩) ∨
        (settings.strict = true →
          rejections (harvest tree variant settings.outputDir listing.files).findings = []) ∧
        analyse tree settings variant =
          conclude tree (listing.failures.map Event.unlisted) listing.files.length
            (harvest tree variant settings.outputDir listing.files)) := by
  unfold analyse
  cases hlisting : listFiles tree settings with
  | error e => exact .inl ⟨e, rfl, rfl⟩
  | ok listing =>
    refine .inr ⟨listing, rfl, ?_⟩
    dsimp only
    split
    · exact .inl ⟨_, _, _, rfl⟩
    · rename_i hnot
      refine .inr ⟨fun hstrict => ?_, rfl⟩
      rw [← firstRejection?_eq_none_iff]
      cases hfirst : firstRejection?
          (harvest tree variant settings.outputDir listing.files).findings with
      | none => rfl
      | some found => exact (hnot found.1 found.2.1 found.2.2 hstrict hfirst).elim

/-- A lenient analysis concludes whatever it comes across. -/
lemma analyse_lenient (hstrict : settings.strict = false)
    (hlisting : listFiles tree settings = .ok listing) :
    analyse tree settings variant =
      conclude tree (listing.failures.map Event.unlisted) listing.files.length
        (harvest tree variant settings.outputDir listing.files) := by
  simp only [analyse, hlisting, hstrict]

/-- What a lenient analysis leaves out is what it rejects. -/
lemma skipped_analyse_lenient (hstrict : settings.strict = false)
    (hlisting : listFiles tree settings = .ok listing) :
    (analyse tree settings variant).skipped =
      rejections (harvest tree variant settings.outputDir listing.files).findings := by
  rw [analyse_lenient hstrict hlisting]
  exact skipped_conclude _ (filterMap_skipped?_unlisted _) (notesNoSkips_harvest _ _ _ _)

/-- The counts in the report of a conclusion. -/
lemma counts_conclude {log : List Event} {collected : Nat} {h : Harvest} {report : Report}
    (hok : (conclude tree log collected h).result = .ok report) :
    report.collected = collected ∧ report.used = h.used ∧
      report.skipped = (rejections h.findings).length ∧
      report.configurations = h.plan.configurations := by
  rw [conclude] at hok
  split at hok
  · simp at hok
  · rw [← Except.ok.inj hok]
    exact ⟨rfl, rfl, countP_isRejection _, rfl⟩

/-- The counts in the report of a lenient analysis. -/
lemma counts_analyse_lenient {report : Report} (hstrict : settings.strict = false)
    (hlisting : listFiles tree settings = .ok listing)
    (h : (analyse tree settings variant).result = .ok report) :
    report.collected = listing.files.length ∧
      report.used = (harvest tree variant settings.outputDir listing.files).used ∧
      report.skipped =
        (rejections (harvest tree variant settings.outputDir listing.files).findings).length ∧
      report.configurations =
        (harvest tree variant settings.outputDir listing.files).plan.configurations := by
  rw [analyse_lenient hstrict hlisting] at h
  exact counts_conclude h

/-- **A successful analysis** has concluded: its report has the counts of what was read, and it
reports the rejections as files left out; a strict one has none. -/
lemma counts_analyse {report : Report} (h : (analyse tree settings variant).result = .ok report) :
    ∃ listing, listFiles tree settings = .ok listing ∧
      (settings.strict = true →
        rejections (harvest tree variant settings.outputDir listing.files).findings = []) ∧
      (analyse tree settings variant).skipped =
        rejections (harvest tree variant settings.outputDir listing.files).findings ∧
      report.collected = listing.files.length ∧
      report.used = (harvest tree variant settings.outputDir listing.files).used ∧
      report.skipped =
        (rejections (harvest tree variant settings.outputDir listing.files).findings).length ∧
      report.configurations =
        (harvest tree variant settings.outputDir listing.files).plan.configurations := by
  obtain ⟨_, -, hend⟩ | ⟨listing, hlisting, ⟨log, file, cause, hend⟩ | ⟨hstrict, hend⟩⟩ :=
    analyse_cases tree settings variant
  · simp [hend] at h
  · simp [hend] at h
  · rw [hend] at h ⊢
    exact ⟨listing, hlisting, hstrict, skipped_conclude _ (filterMap_skipped?_unlisted _)
      (notesNoSkips_harvest _ _ _ _), counts_conclude h⟩

end Analyses

end BenchTally
