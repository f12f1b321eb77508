import BenchTally.Proofs.Analysis.RawNames
import BenchTally.Proofs.Analysis.Relisting
import BenchTally.Proofs.Glob.Rows
import BenchTally.Proofs.Run.Labels

set_option autoImplicit false
set_option relaxedAutoImplicit false

/-!
# What a listing holds

The pattern of result files is matched against the bytes of a name, and the grammar of runs against
the text that they are read as. Where both have a say, the pattern hides nothing.

## Main definitions

* `FileTree.HoldsResult` — a name in a directory that is one of a result file.
* `Lists` — files that are all matching ones of a directory, in the order of their names.

## Main results

* `accepts_of_ofName` — a name that names a run and has the extension matches the pattern.
* `listFiles_complete` — what is listed of an input directory, with any pattern and with the one
  that is taken unless told otherwise.
* `listFiles_dashTree` — of a directory whose path stands for the standard input nothing is listed.
-/

namespace BenchTally

open FileTree

variable {tree : FileTree} {directory : Path} {place : Place} {name : Bytes}

/-! ## Names of runs match -/

/-- The extension of result files. -/
def resultExtension : Bytes :=
  Text.encode ".csv"

/-- A file name with the extension whose first part names a configuration ends in digits in
parentheses and the extension. -/
lemma Path.NamedFor.fileName_eq {file : Path} {k : ConfigKey} (h : file.NamedFor k)
    (hextension : resultExtension <:+ file.fileName) :
    ∃ d, Decimal.IsDigits d ∧ file.fileName =
      file.configName ++ Text.encode "(" ++ Text.encode (String.ofList d) ++
        Text.encode ").csv" := by
  obtain ⟨d, e, hdigits, he, hname⟩ := h.rest
  obtain ⟨q, hq⟩ := hextension
  have hcsv : resultExtension = 0x2e :: Text.encode "csv" := rfl
  have hdot : 0x2e ∉ Text.encode "csv" := by decide
  refine ⟨d, hdigits, ?_⟩
  have hends : file.configName ++ 0x28 :: Text.encode (String.ofList d) ++ 0x29 :: e =
      q ++ 0x2e :: Text.encode "csv" := by
    rw [← hname, ← hq, hcsv]
  rcases he with rfl | ⟨x, rfl, hx⟩
  · -- A parenthesis at the end is not the end of the extension.
    have hlast : (q ++ 0x2e :: Text.encode "csv").getLast? = some 0x29 := by
      rw [← hends]
      exact List.getLast?_concat
    rw [show 0x2e :: Text.encode "csv" = [0x2e, 0x63, 0x73] ++ [0x76] from rfl,
      ← List.append_assoc, List.getLast?_concat] at hlast
    exact absurd hlast (by decide)
  · have hcut : file.configName ++ 0x28 :: Text.encode (String.ofList d) ++ [0x29] = q ∧
        x = Text.encode "csv" := by
      rw [← Text.append_cons_inj hx hdot, ← hends]
      simp
    rw [hname, hcut.2]
    simp only [List.append_assoc, List.cons_append]
    rfl

/-- **A name that names a run and has the extension** matches the pattern of result files. -/
lemma accepts_of_ofName {run : Run} (hname : IsName name)
    (hrun : Run.ofName (Text.decodeLossy name) = .ok run) (hextension : resultExtension <:+ name) :
    Glob.standard.accepts name = true := by
  have hnamed : (Path.join ⟨[]⟩ ⟨name⟩).NamedFor run.config := by
    apply Path.namedFor_of_runOf
    rwa [runOf_join _ hname]
  have hfile : (Path.join ⟨[]⟩ ⟨name⟩).fileName = name := hname.fileName_join _
  obtain ⟨d, -, heq⟩ := hnamed.fileName_eq (by rwa [hfile])
  rw [hfile] at heq
  have hslash : Path.slash ∉ name := hname.slash_not_mem
  apply Glob.accepts_standard_iff.2
  refine ⟨_, _, heq, fun hmem => hslash ?_, fun hmem => hslash ?_⟩
  · rw [heq]
    simp only [List.mem_append]
    exact .inl (.inl (.inl hmem))
  · rw [heq]
    simp only [List.mem_append]
    exact .inl (.inr hmem)

/-! ## Listings -/

/-- A name in a directory is one of a result file: a file with links followed, with the extension,
and named for a run. -/
structure FileTree.HoldsResult (t : FileTree) (directory : Path) (place : Place) (name : Bytes) :
    Prop where
  /-- The name is one of a file. -/
  holdsFile : t.HoldsFile directory place name
  /-- The name has the extension. -/
  extension : resultExtension <:+ name
  /-- What the name is read as names a run. -/
  exists_run : ∃ run, Run.ofName (Text.decodeLossy name) = .ok run

/-- Files are those of a directory whose names match a pattern, in the order of their names. -/
structure Lists (tree : FileTree) (glob : Glob) (directory : Path) (place : Place)
    (files : List Path) : Prop where
  /-- There is one for each name that matches and is one of a file; the names strictly ascend. -/
  exists_names : ∃ names : List Bytes, names.Pairwise (· < ·) ∧
    files = names.map (fun name => directory.join ⟨name⟩) ∧
    ∀ name, name ∈ names ↔ glob.accepts name = true ∧ tree.HoldsFile directory place name
  /-- It does not matter in which order the names are found. -/
  of_perm : ∀ found : List Bytes, found.Perm (tree.names place) →
    files = ((found.mergeSort fun a b => decide (a ≤ b)).map
      fun name => (name, entryOf tree directory place name)).filterMap (Entry.matchingFile? glob)

/-- A listing holds the files of its directory, unless this stands for the standard input. -/
lemma lists_of_listFiles {settings : Settings} {listing : Listing}
    (hplace : tree.placeOf settings.inputDir = .ok place)
    (hstdin : settings.inputDir.same standardInput = false)
    (h : listFiles tree settings = .ok listing) :
    Lists tree settings.glob settings.inputDir place listing.files where
  exists_names := by
    obtain ⟨names, hascending, hfiles, hmem⟩ := listFiles_holdsFile hplace h
    refine ⟨names, hascending, hfiles, fun name => ?_⟩
    rw [hmem, and_iff_right hstdin]
  of_perm := by
    intro found hfound
    rw [mergeSort_of_perm hfound]
    have hdir := isDir_of_listFiles h
    rw [listFiles, hdir] at h
    simp only [Bool.not_true, Bool.false_eq_true, if_false, Except.ok.injEq, entries, hplace,
      hstdin] at h
    rw [← h]

/-- A name that matches and is one of a file stands for one file of the listing. -/
lemma Lists.count_eq_one {glob : Glob} {files : List Path}
    (h : Lists tree glob directory place files) (hnodup : files.Nodup)
    (haccepts : glob.accepts name = true) (hholds : tree.HoldsFile directory place name) :
    files.count (directory.join ⟨name⟩) = 1 := by
  obtain ⟨names, -, hfiles, hmem⟩ := h.exists_names
  apply List.count_eq_one_of_mem hnodup
  rw [hfiles]
  exact List.mem_map_of_mem ((hmem name).2 ⟨haccepts, hholds⟩)

/-- The pattern that is taken unless told otherwise gives settings. -/
lemma Options.settings_of_defaultPattern {options : Options} (variant : Variant)
    (hdir : tree.isDir options.input = true) (hpattern : options.pattern = defaultPattern) :
    ∃ settings, options.settings tree variant = .ok settings ∧
      settings.inputDir = options.input ∧ settings.glob = Glob.standard := by
  simp only [Options.settings, hdir, hpattern, Glob.parse_defaultPattern]
  exact ⟨_, rfl, rfl, rfl⟩

/-- **What is listed.** Let a path lead to a directory, and not stand for the standard input. With
any pattern the listing holds exactly the files in the directory that match, with links followed and
in strictly ascending order of their names, in whatever order these are found; no file is listed
twice. The pattern that is taken unless told otherwise is one, and every result file is listed
exactly once with it.

**Proof sketch.** The names are sorted and then chosen from, so that the order in which they are
found does not matter (`lists_of_listFiles`). A name that is read as one of a run consists of other
bytes, digits in parentheses and an extension; with the right extension it matches the pattern, as
no name holds a slash (`accepts_of_ofName`). -/
theorem listFiles_complete (hformed : tree.WellFormed) (hdir : tree.isDir directory = true)
    (hstdin : directory.same standardInput = false) :
    ∃ place, tree.placeOf directory = .ok place ∧
      (∀ settings : Settings, settings.inputDir = directory →
        ∃ listing, listFiles tree settings = .ok listing ∧
          Lists tree settings.glob directory place listing.files ∧ listing.files.Nodup) ∧
      ∀ (options : Options) (variant : Variant), options.input = directory →
        options.pattern = defaultPattern →
        ∃ settings listing, options.settings tree variant = .ok settings ∧
          listFiles tree settings = .ok listing ∧
          ∀ name, tree.HoldsResult directory place name →
            listing.files.count (directory.join ⟨name⟩) = 1 := by
  obtain ⟨place, hplace⟩ : ∃ place, tree.placeOf directory = .ok place := by
    unfold FileTree.isDir at hdir
    cases hplace : tree.placeOf directory with
    | ok place => exact ⟨place, rfl⟩
    | error e => simp [hplace] at hdir
  have hlists : ∀ settings : Settings, settings.inputDir = directory →
      ∃ listing, listFiles tree settings = .ok listing ∧
        Lists tree settings.glob directory place listing.files ∧ listing.files.Nodup := by
    rintro settings rfl
    obtain ⟨listing, hlisting⟩ := exists_listing hdir
    exact ⟨listing, hlisting, lists_of_listFiles hplace hstdin hlisting,
      nodup_listFiles hformed hlisting⟩
  refine ⟨place, hplace, hlists, ?_⟩
  rintro options variant rfl hpattern
  obtain ⟨settings, hsettings, hinput, hglob⟩ :=
    options.settings_of_defaultPattern variant hdir hpattern
  obtain ⟨listing, hlisting, hfiles, hnodup⟩ := hlists settings hinput
  refine ⟨settings, listing, hsettings, hlisting, fun name hresult => ?_⟩
  obtain ⟨run, hrun⟩ := hresult.exists_run
  obtain ⟨n, hn⟩ := Option.ne_none_iff_exists'.1 hresult.holdsFile.node?_ne_none
  have haccepts := accepts_of_ofName (hformed.isName hn) hrun hresult.extension
  rw [← hglob] at haccepts
  exact hfiles.count_eq_one hnodup haccepts hresult.holdsFile

/-- The result file of the sample tree is listed once. -/
theorem listFiles_complete_sampleTree :
    ∃ settings listing, Options.settings ⟨some (.ofString "in"), none, defaultPattern, false⟩
        sampleTree .throughput = .ok settings ∧
      listFiles sampleTree settings = .ok listing ∧ listing.files.count sampleFile = 1 := by
  have husable : IsUsable sampleSettings.inputDir := by decide
  have hdir : sampleTree.isDir (.ofString "in") = true := isDir_of_opens opens_sampleTree husable
  have hplace : sampleTree.placeOf (.ofString "in") = .ok [Text.encode "w", Text.encode "in"] :=
    opens_sampleTree.placeOf husable
  obtain ⟨place, hplace', -, hdefault⟩ :=
    listFiles_complete wellFormed_sampleTree hdir (by decide)
  rw [hplace, Except.ok.injEq] at hplace'
  subst hplace'
  obtain ⟨settings, listing, hsettings, hlisting, hcount⟩ :=
    hdefault ⟨some (.ofString "in"), none, defaultPattern, false⟩ .throughput rfl rfl
  refine ⟨settings, listing, hsettings, hlisting, ?_⟩
  have hnode : sampleTree.node? ([Text.encode "w", Text.encode "in"] ++
      [Text.encode "a__1__b__2__c__3__0(1).csv"]) = some (.file (Text.encode sampleContent)) := by
    decide
  have hfile : (Path.ofString "in").join ⟨Text.encode "a__1__b__2__c__3__0(1).csv"⟩ =
      sampleFile := by decide
  rw [← hfile]
  apply hcount
  refine ⟨.inl ⟨_, hnode⟩, ⟨Text.encode "a__1__b__2__c__3__0(1)", by decide⟩,
    sampleRun, ?_⟩
  rw [Text.decodeLossy_encode]
  decide

/-! ## The standard input -/

/-- A working directory with an input directory whose path stands for the standard input, and which
holds one result file. -/
def dashTree : FileTree :=
  ((FileTree.ofWorkDir (Text.encode "w")).set [Text.encode "w", Text.encode "-"] .dir).set
    [Text.encode "w", Text.encode "-", Text.encode "a__1__b__2__c__3__0(1).csv"]
    (.file (Text.encode sampleContent))

/-- The settings for this directory, with nothing else told. -/
def dashSettings : Settings where
  inputDir := standardInput
  outputDir := Variant.throughput.defaultOutput
  pattern := defaultPattern
  glob := Glob.standard
  strict := false

/-- **A result file that is not listed.** It is in the directory, and its name matches. -/
theorem listFiles_dashTree :
    Options.settings ⟨some standardInput, none, defaultPattern, false⟩ dashTree .throughput =
      .ok dashSettings ∧
    dashTree.placeOf standardInput = .ok [Text.encode "w", Text.encode "-"] ∧
    dashTree.HoldsResult standardInput [Text.encode "w", Text.encode "-"]
      (Text.encode "a__1__b__2__c__3__0(1).csv") ∧
    dashSettings.glob.accepts (Text.encode "a__1__b__2__c__3__0(1).csv") = true ∧
    listFiles dashTree dashSettings = .ok ⟨[], []⟩ := by
  have hopen : dashTree.Opens standardInput [Text.encode "w", Text.encode "-"] :=
    have hname : IsNameIn ⟨[]⟩ (Text.encode "-") := by decide
    (opens_workDir (by decide)).join hname (by decide)
  have husable : IsUsable standardInput := by decide
  have hdir := isDir_of_opens hopen husable
  have hnode : dashTree.node? ([Text.encode "w", Text.encode "-"] ++
      [Text.encode "a__1__b__2__c__3__0(1).csv"]) = some (.file (Text.encode sampleContent)) := by
    decide
  have hresult : dashTree.HoldsResult standardInput [Text.encode "w", Text.encode "-"]
      (Text.encode "a__1__b__2__c__3__0(1).csv") := by
    refine ⟨.inl ⟨_, hnode⟩, ⟨Text.encode "a__1__b__2__c__3__0(1)", by decide⟩,
      sampleRun, ?_⟩
    rw [Text.decodeLossy_encode]
    decide
  refine ⟨?_, hopen.placeOf husable, hresult, by decide,
    listFiles_of_same hdir (by decide)⟩
  have hinput : Options.input ⟨some standardInput, none, defaultPattern, false⟩ = standardInput :=
    rfl
  simp only [Options.settings, hinput, hdir, Glob.parse_defaultPattern]
  rfl

end BenchTally
