import BenchTally.Analysis.Intake
import BenchTally.Analysis.Listing
import BenchTally.Proofs.Files.Earlier
import BenchTally.Proofs.Stats.Grouping
import Mathlib.Data.List.Nodup
import Mathlib.Data.List.Lex
import Mathlib.Order.Defs.LinearOrder

set_option autoImplicit false
set_option relaxedAutoImplicit false

/-!
# Collected files

## Main definitions

* `FileTree.HoldsFile` — a name in a directory that is one of a file, with links followed.

## Main results

* `listFiles_holdsFile` — the files of a listing are all those whose names match.
* `listFiles_ascending` — the files of a listing stand in the input directory, in strictly ascending
  order of their names.
* `listFiles_of_opens` — files that are all that is in a directory, with names that match, are its
  listing.
* `exists_runOf_of_mem_filesByConfig` — what is grouped under a configuration are files whose names
  name runs of it.
-/

namespace BenchTally

/-! ## Names in a directory -/

/-- A place in a directory is given by its name. -/
lemma FileTree.nameIn?_eq_some_iff {directory place : Place} {name : Bytes} :
    nameIn? directory place = some name ↔ place = directory ++ [name] := by
  unfold nameIn?
  constructor
  · intro h
    split at h
    · rename_i last hlast
      split_ifs at h with hdir
      rw [Option.some.injEq] at h
      rw [← hdir, ← h, List.dropLast_append_getLast? _ hlast]
    · simp at h
  · rintro rfl
    simp

/-- A name occurs once in a directory. -/
lemma FileTree.nodup_names (t : FileTree) (directory : Place) : (t.names directory).Nodup := by
  refine List.Nodup.filterMap (fun a b name ha hb => ?_) t.nodes.nodup_keys
  rw [Option.mem_def, nameIn?_eq_some_iff] at ha hb
  rw [ha, hb]

/-- Sorted names that are distinct ascend. -/
lemma mergeSort_ascending {names : List Bytes} (hnodup : names.Nodup) :
    (names.mergeSort fun a b => decide (a ≤ b)).Pairwise (· < ·) := by
  have hsorted : (names.mergeSort fun a b => decide (a ≤ b)).Pairwise fun a b => decide (a ≤ b) :=
    List.pairwise_mergeSort (by simpa using fun a b c => List.le_trans)
      (by simpa using fun a b => List.le_total a b) _
  have hdistinct : (names.mergeSort fun a b => decide (a ≤ b)).Nodup :=
    (List.mergeSort_perm _ _).nodup_iff.2 hnodup
  refine (hsorted.and hdistinct).imp fun {a b} hab => ?_
  exact Std.lt_of_le_of_ne (of_decide_eq_true hab.1) hab.2

/-- The names in a directory ascend. -/
lemma sortedNames_ascending (tree : FileTree) (place : Place) :
    (sortedNames tree place).Pairwise (· < ·) :=
  mergeSort_ascending (tree.nodup_names place)

/-- The names in a directory come into the same order, whatever order they are found in. -/
lemma mergeSort_of_perm {tree : FileTree} {place : Place} {names : List Bytes}
    (h : names.Perm (tree.names place)) :
    (names.mergeSort fun a b => decide (a ≤ b)) = sortedNames tree place := by
  have hnodup : names.Nodup := h.nodup_iff.2 (tree.nodup_names place)
  apply (mergeSort_ascending hnodup).eq_of_mem_iff (sortedNames_ascending tree place)
  intro name
  rw [sortedNames, List.mem_mergeSort, List.mem_mergeSort, h.mem_iff]

/-- Names in order are the names of a directory if these are found in some order. -/
lemma sortedNames_eq {tree : FileTree} {place : Place} {names : List Bytes}
    (hascending : names.Pairwise (· < ·)) (hperm : names.Perm (tree.names place)) :
    sortedNames tree place = names := by
  apply (sortedNames_ascending tree place).eq_of_mem_iff hascending
  intro name
  rw [sortedNames, List.mem_mergeSort, hperm.mem_iff]

/-- The names in a directory, in order, are those at which something stands. -/
lemma mem_sortedNames_iff {tree : FileTree} {place : Place} {name : Bytes} :
    name ∈ sortedNames tree place ↔ tree.node? (place ++ [name]) ≠ none := by
  rw [sortedNames, List.mem_mergeSort, FileTree.names, List.mem_filterMap]
  have hname : (∃ x ∈ tree.nodes.keys, FileTree.nameIn? place x = some name) ↔
      place ++ [name] ∈ tree.nodes.keys := by
    constructor
    · rintro ⟨x, hx, heq⟩
      rwa [← FileTree.nameIn?_eq_some_iff.1 heq]
    · exact fun h => ⟨_, h, FileTree.nameIn?_eq_some_iff.2 rfl⟩
  rw [hname, Std.ExtTreeMap.mem_keys, FileTree.node?, if_neg (by simp),
    ← Std.ExtTreeMap.isSome_getElem?_iff_mem, Option.isSome_iff_ne_none]

/-- A name in a directory is one of a file: the file stands there, or a link that leads to one. -/
def FileTree.HoldsFile (t : FileTree) (directory : Path) (place : Place) (name : Bytes) : Prop :=
  (∃ content, t.node? (place ++ [name]) = some (.file content)) ∨
    ∃ target, t.node? (place ++ [name]) = some (.link target) ∧
      ∃ content, t.readFile (directory.join ⟨name⟩) = .ok content

/-- What stands in a directory has a name there. -/
lemma FileTree.HoldsFile.node?_ne_none {t : FileTree} {directory : Path} {place : Place}
    {name : Bytes} (h : t.HoldsFile directory place name) : t.node? (place ++ [name]) ≠ none := by
  rcases h with ⟨content, hnode⟩ | ⟨target, hnode, -⟩
  · simp [hnode]
  · simp [hnode]

/-- What is listed as a file. -/
lemma entryOf_eq_file_iff {tree : FileTree} {directory path : Path} {place : Place}
    {name : Bytes} : entryOf tree directory place name = .file path ↔
      tree.HoldsFile directory place name ∧ path = directory.join ⟨name⟩ := by
  unfold entryOf FileTree.HoldsFile FileTree.readFile
  dsimp only
  cases hnode : tree.node? (place ++ [name]) with
  | none => simp
  | some node =>
    cases node with
    | dir => simp
    | file content => simp [eq_comm]
    | link link =>
      cases htarget : tree.placeOf (directory.join ⟨name⟩) with
      | error cause => simp
      | ok target =>
        dsimp only
        split
        · simp [*, eq_comm]
        · rename_i hnot
          split_ifs <;> grind

/-! ## Listings -/

/-- What was listed is a directory. -/
lemma isDir_of_listFiles {tree : FileTree} {settings : Settings} {listing : Listing}
    (h : listFiles tree settings = .ok listing) : tree.isDir settings.inputDir = true := by
  unfold listFiles at h
  split_ifs at h with hdir
  simpa using hdir

/-- A directory can be listed. -/
lemma exists_listing {tree : FileTree} {settings : Settings}
    (hdir : tree.isDir settings.inputDir = true) :
    ∃ listing, listFiles tree settings = .ok listing := by
  simp [listFiles, hdir]

/-- **The entries of a directory** that a path leads to are those of its names, in order. -/
lemma entries_of_opens {tree : FileTree} {directory : Path} {place : Place}
    (hopen : tree.Opens directory place) (husable : FileTree.IsUsable directory)
    (hstdin : directory.same standardInput = false) :
    entries tree directory =
      (sortedNames tree place).map fun name => (name, entryOf tree directory place name) := by
  rw [entries, hopen.placeOf husable]
  exact if_neg (by simp [hstdin])

/-- **The listing of files.** Files with matching names make up the listing if they are all that is
in the directory, in the order of their names. -/
lemma listFiles_of_opens {tree : FileTree} {settings : Settings} {place : Place} {files : List Path}
    (hopen : tree.Opens settings.inputDir place) (husable : FileTree.IsUsable settings.inputDir)
    (hstdin : settings.inputDir.same standardInput = false)
    (hascending : (files.map Path.fileName).Pairwise (· < ·))
    (hperm : (files.map Path.fileName).Perm (tree.names place))
    (hfiles : ∀ file ∈ files, entryOf tree settings.inputDir place file.fileName = .file file)
    (haccepts : ∀ file ∈ files, settings.glob.accepts file.fileName = true) :
    listFiles tree settings = .ok ⟨files, []⟩ := by
  have hentries : entries tree settings.inputDir =
      files.map fun file => (file.fileName, .file file) := by
    rw [entries_of_opens hopen husable hstdin, sortedNames_eq hascending hperm, List.map_map]
    exact List.map_congr_left fun file hfile => congrArg (Prod.mk _) (hfiles file hfile)
  have hmatching : (entries tree settings.inputDir).filterMap
      (Entry.matchingFile? settings.glob) = files := by
    rw [hentries, List.filterMap_map]
    exact (List.filterMap_congr fun file hfile => if_pos (haccepts file hfile)).trans
      List.filterMap_some
  have hfailures : (entries tree settings.inputDir).filterMap Entry.failure? = [] := by
    rw [hentries, List.filterMap_eq_nil_iff]
    exact List.forall_mem_map.2 fun _ _ => rfl
  simp only [listFiles, FileTree.isDir_of_opens hopen husable, hmatching, hfailures]
  rfl

/-- Nothing is listed of a directory whose path stands for the standard input. -/
lemma listFiles_of_same {tree : FileTree} {settings : Settings}
    (hdir : tree.isDir settings.inputDir = true)
    (hstdin : settings.inputDir.same standardInput = true) :
    listFiles tree settings = .ok ⟨[], []⟩ := by
  have hentries : entries tree settings.inputDir = [] := by
    unfold entries
    split
    · rfl
    · exact if_pos hstdin
  simp [listFiles, hdir, hentries]

/-- A choice of elements with what is made of them. -/
lemma filterMap_eq_map_filter {α β : Type} {f : α → Option β} {g : α → β} (xs : List α)
    (h : ∀ x y, f x = some y → y = g x) :
    xs.filterMap f = (xs.filter fun x => (f x).isSome).map g := by
  induction xs with
  | nil => rfl
  | cons x xs ih =>
    cases hx : f x with
    | none => simp [hx, ih]
    | some y => simp [hx, ih, h x y hx]

/-- The file that a name stands for, if it is one of a file and matches. -/
lemma matchingFile?_eq_some_iff {glob : Glob} {tree : FileTree} {directory file : Path}
    {place : Place} {name : Bytes} :
    Entry.matchingFile? glob (name, entryOf tree directory place name) = some file ↔
      glob.accepts name = true ∧ tree.HoldsFile directory place name ∧
        file = directory.join ⟨name⟩ := by
  have hmatches : Entry.matchingFile? glob (name, entryOf tree directory place name) = some file ↔
      glob.accepts name = true ∧ entryOf tree directory place name = .file file := by
    cases entryOf tree directory place name <;> simp [Entry.matchingFile?]
  rw [hmatches, entryOf_eq_file_iff]

/-- The collected files of a directory are those of the names that match and are names of files. -/
lemma filterMap_matchingFile? (glob : Glob) (tree : FileTree) (directory : Path) (place : Place)
    (names : List Bytes) :
    (names.map fun name => (name, entryOf tree directory place name)).filterMap
        (Entry.matchingFile? glob) =
      (names.filter fun name => (Entry.matchingFile? glob
        (name, entryOf tree directory place name)).isSome).map
          fun name => directory.join ⟨name⟩ := by
  rw [List.filterMap_map]
  exact filterMap_eq_map_filter names fun name file h => (matchingFile?_eq_some_iff.1 h).2.2

/-- The collected files are those of some names in a directory. -/
lemma listFiles_sublist {tree : FileTree} {settings : Settings} {listing : Listing}
    (h : listFiles tree settings = .ok listing) :
    ∃ (place : Place) (names : List Bytes), names.Sublist (sortedNames tree place) ∧
      listing.files = names.map fun name => settings.inputDir.join ⟨name⟩ := by
  unfold listFiles at h
  split_ifs at h
  simp only [Except.ok.injEq] at h
  subst h
  unfold entries
  cases tree.placeOf settings.inputDir with
  | error e => exact ⟨[], [], List.nil_sublist _, rfl⟩
  | ok place =>
    simp only
    split_ifs
    · exact ⟨[], [], List.nil_sublist _, rfl⟩
    · exact ⟨place, _, List.filter_sublist, filterMap_matchingFile? ..⟩

/-- **The order of the collected files.** They are files in the input directory, in strictly
ascending order of their names as byte sequences. -/
lemma listFiles_ascending {tree : FileTree} {settings : Settings} {listing : Listing}
    (h : listFiles tree settings = .ok listing) :
    ∃ names : List Bytes, names.Pairwise (· < ·) ∧
      listing.files = names.map fun name => settings.inputDir.join ⟨name⟩ := by
  obtain ⟨place, names, hnames, hfiles⟩ := listFiles_sublist h
  exact ⟨names, (sortedNames_ascending tree place).sublist hnames, hfiles⟩

/-- **The files of a listing** are those of the names in the directory that match and are names of
files, in strictly ascending order; the standard input has none. -/
lemma listFiles_holdsFile {tree : FileTree} {settings : Settings} {listing : Listing}
    {place : Place} (hplace : tree.placeOf settings.inputDir = .ok place)
    (h : listFiles tree settings = .ok listing) :
    ∃ names : List Bytes, names.Pairwise (· < ·) ∧
      listing.files = names.map (fun name => settings.inputDir.join ⟨name⟩) ∧
      ∀ name, name ∈ names ↔ settings.inputDir.same standardInput = false ∧
        settings.glob.accepts name = true ∧ tree.HoldsFile settings.inputDir place name := by
  unfold listFiles at h
  split_ifs at h
  simp only [Except.ok.injEq] at h
  subst h
  unfold entries
  rw [hplace]
  dsimp only
  split_ifs with hstdin
  · exact ⟨[], .nil, rfl, by simp [hstdin]⟩
  · refine ⟨_, (sortedNames_ascending tree place).filter _, filterMap_matchingFile? ..,
      fun name => ?_⟩
    rw [List.mem_filter, mem_sortedNames_iff, Option.isSome_iff_exists]
    simp only [matchingFile?_eq_some_iff, Bool.eq_false_of_not_eq_true hstdin, true_and]
    constructor
    · rintro ⟨-, file, haccepts, hholds, -⟩
      exact ⟨haccepts, hholds⟩
    · rintro ⟨haccepts, hholds⟩
      exact ⟨hholds.node?_ne_none, _, haccepts, hholds, rfl⟩

/-! ## Files by configuration -/

lemma configOf?_eq_some_iff {file : Path} {x : ConfigKey × Path} :
    configOf? file = some x ↔ ∃ run, runOf file = .ok run ∧ x = (run.config, file) := by
  unfold configOf?
  cases runOf file <;> simp [eq_comm]

/-- A file under a configuration is one of the given files, and its name names a run of the
configuration. -/
lemma exists_runOf_of_mem_filesByConfig {files : List Path}
    {group : ConfigKey × List (ConfigKey × Path)} {x : ConfigKey × Path}
    (hgroup : group ∈ (filesByConfig files).entries) (hx : x ∈ group.2) :
    x.2 ∈ files ∧ ∃ run, runOf x.2 = .ok run ∧ x.1 = run.config ∧ group.1 = run.config := by
  have hkey := Keyed.key_of_mem_entries_groupOn hgroup hx
  obtain ⟨file, hfile, hconfig⟩ :=
    List.mem_filterMap.1 (Keyed.mem_of_mem_entries_groupOn hgroup hx)
  obtain ⟨run, hrun, rfl⟩ := configOf?_eq_some_iff.1 hconfig
  exact ⟨hfile, run, hrun, rfl, hkey.symm⟩

/-- Files that are all of one configuration are one group. -/
lemma entries_filesByConfig_of_forall {files : List Path} {k : ConfigKey} (hne : files ≠ [])
    (h : ∀ file ∈ files, configOf? file = some (k, file)) :
    (filesByConfig files).entries = [(k, files.map fun file => (k, file))] := by
  have hconfigs : files.filterMap configOf? = files.map fun file => (k, file) := by
    rw [List.filterMap_congr h]
    exact congrFun List.filterMap_eq_map files
  rw [filesByConfig, hconfigs]
  exact Keyed.entries_groupOn_of_forall (by simpa using hne) (by simp)

end BenchTally
