import BenchTally.Analysis.Intake
import BenchTally.Analysis.Listing
import BenchTally.Output.TimelineSheets

set_option autoImplicit false
set_option relaxedAutoImplicit false

/-!
# Analyses

An analysis lists the result files, reads them, reduces what it read to sheets, and writes these.
A strict analysis ends with the first file that it cannot use, before anything is written; any
other analysis leaves such files out.

## Main definitions

* `Report` — what an analysis did.
* `Outcome` — the report or the error, the events on the way, and the tree afterwards.
* `analyse` — the analysis of a tree with given settings.
-/

namespace BenchTally

/-- What an analysis did. -/
structure Report where
  /-- The number of files listed. -/
  collected : Nat
  /-- The number of files read. -/
  used : Nat
  /-- The number of files left out. -/
  skipped : Nat
  /-- The number of configurations that there are results for. -/
  configurations : Nat
  /-- The files written, in order. -/
  written : List Path
  deriving DecidableEq, Repr

/-- How an analysis ended. -/
structure Outcome where
  /-- The report, or the error that ended the analysis early. -/
  result : Except AnalysisError Report
  /-- The events on the way, in order. -/
  log : List Event
  /-- The tree afterwards. -/
  tree : FileTree

/-- What follows from the files that were read: sheets with their directories, and the number of
configurations behind them. -/
structure Plan where
  /-- The sheets to write, with their directories. -/
  sheets : List (Path × Sheet)
  /-- The number of configurations. -/
  configurations : Nat

/-- What reading came to, for any kind of analysis. -/
structure Harvest where
  /-- Events and rejections, in order. -/
  findings : List Finding
  /-- The number of files read. -/
  used : Nat
  /-- What is to be written. -/
  plan : Plan

/-- The directory of the throughput sheets within the output directory, for an analysis that
writes two kinds of sheets. -/
def throughputDir (output : Path) : Path :=
  output.join (Path.ofString "throughput")

/-- The directory of the makespan sheets within the output directory, for an analysis that writes
two kinds of sheets. -/
def makespanDir (output : Path) : Path :=
  output.join (Path.ofString "makespan")

/-- Reads the files of an analysis of throughput. -/
def harvestThroughput (tree : FileTree) (output : Path) (files : List Path) : Harvest :=
  let found := intake (readSummary tree) false files
  let tally := SummaryTally.ofRuns found.values
  { findings := found.findings
    used := found.values.length
    plan := ⟨(throughputSheets tally).map (output, ·), tally.size⟩ }

/-- Reads the files of an analysis of throughput and makespan. -/
def harvestMetrics (tree : FileTree) (output : Path) (files : List Path) : Harvest :=
  let found := intake (readSummary tree) false files
  let tally := SummaryTally.ofRuns found.values
  { findings := found.findings
    used := found.values.length
    plan :=
      ⟨(throughputSheets tally).map (throughputDir output, ·) ++
        (makespanSheets tally).map (makespanDir output, ·), tally.size⟩ }

/-- Reads the files of an analysis of throughput over time. -/
def harvestTimeline (tree : FileTree) (output : Path) (files : List Path) : Harvest :=
  let found := intake (readTimeline tree) true files
  let tally := TimelineTally.ofRuns found.values
  { findings := found.findings
    used := found.values.length
    plan := ⟨(timelineSheets tally).map (output, ·), tally.size⟩ }

/-- Reads the files of an analysis. -/
def harvest (tree : FileTree) (variant : Variant) (output : Path) (files : List Path) : Harvest :=
  match variant with
  | .throughput => harvestThroughput tree output files
  | .metrics => harvestMetrics tree output files
  | .timeline => harvestTimeline tree output files

/-- The event that a finding is reported as, where a rejected file is left out. -/
def Finding.event : Finding → Event
  | .note event => event
  | .rejection file cause => .skipped file cause

/-- The first rejection among findings, with the findings before it. -/
def firstRejection? : List Finding → Option (List Finding × Path × FileError)
  | [] => none
  | .rejection file cause :: _ => some ([], file, cause)
  | .note event :: rest =>
    (firstRejection? rest).map fun (before, found) => (.note event :: before, found)

/-- Writes what was planned, and reports. -/
def conclude (tree : FileTree) (log : List Event) (collected : Nat) (h : Harvest) : Outcome :=
  let writing := writeSheets tree h.plan.sheets
  let log := log ++ h.findings.map Finding.event ++ writing.written.map Event.created
  match writing.failure with
  | some e => ⟨.error (.write e), log, writing.tree⟩
  | none =>
    { result := .ok {
        collected
        used := h.used
        skipped := h.findings.countP Finding.isRejection
        configurations := h.plan.configurations
        written := writing.written }
      log := log ++ [.done writing.written.length]
      tree := writing.tree }

/-- The analysis of the result files in a tree. -/
def analyse (tree : FileTree) (settings : Settings) (variant : Variant) : Outcome :=
  match listFiles tree settings with
  | .error e => ⟨.error (.config e), [], tree⟩
  | .ok listing =>
    let log := listing.failures.map Event.unlisted
    let h := harvest tree variant settings.outputDir listing.files
    match settings.strict, firstRejection? h.findings with
    | true, some (before, file, cause) =>
      ⟨.error (.rejected file cause), log ++ before.map Finding.event, tree⟩
    | _, _ => conclude tree log listing.files.length h

/-- The warnings about the choices of a user: once the input directory is found, that the outputs
land in it. -/
def Options.warnings (o : Options) (tree : FileTree) (variant : Variant) : List Event :=
  if tree.isDir o.input && o.outputIsInput variant then [.outputIsInput] else []

/-- The analysis that follows from the choices of a user. -/
def Options.analyse (o : Options) (tree : FileTree) (variant : Variant) : Outcome :=
  match o.settings tree variant with
  | .error e => ⟨.error (.config e), o.warnings tree variant, tree⟩
  | .ok settings =>
    let outcome := BenchTally.analyse tree settings variant
    { outcome with log := o.warnings tree variant ++ outcome.log }

end BenchTally
