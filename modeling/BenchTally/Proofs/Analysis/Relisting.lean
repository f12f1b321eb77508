import BenchTally.Proofs.Analysis.Reading
import BenchTally.Proofs.Output.Growth

set_option autoImplicit false
set_option relaxedAutoImplicit false

/-!
# Listing a directory again

Tables among the result files change what is listed, but not what is usable.

## Main results

* `listFiles_isName` — the files of a well-formed tree have names of their own.
* `nodup_listFiles` — so none is listed twice.
* `listFiles_names` — the files of a listing without links are those whose names match.
* `usableFiles_names` — so are the usable files.
* `usableFiles_of_addsTables` — added tables leave the usable files as they are.
-/

namespace BenchTally

open FileTree

variable {t t' : FileTree} {settings : Settings} {listing listing' : Listing} {place : Place}
  {name : Bytes}

/-- Without links what is a file is a file by itself. -/
lemma holdsFile_iff (ht : t.NoLinks) {directory : Path} :
    t.HoldsFile directory place name ↔ ∃ c, t.node? (place ++ [name]) = some (.file c) := by
  constructor
  · rintro (hfile | ⟨target, hlink, -⟩)
    · exact hfile
    · exact absurd hlink (ht _ target)
  · exact .inl

/-- **The files of a listing**, in a tree without links, are the files with matching names, in
strictly ascending order of these. -/
lemma listFiles_names (ht : t.NoLinks) (hopen : t.Opens settings.inputDir place)
    (h : listFiles t settings = .ok listing) :
    ∃ names : List Bytes, names.Pairwise (· < ·) ∧
      listing.files = names.map (fun name => settings.inputDir.join ⟨name⟩) ∧
      ∀ name, name ∈ names ↔ settings.inputDir.same standardInput = false ∧
        settings.glob.accepts name = true ∧ ∃ c, t.node? (place ++ [name]) = some (.file c) := by
  have hdir := isDir_of_listFiles h
  obtain ⟨husable, -⟩ := opens_of_isDir hdir
  obtain ⟨names, hascending, hfiles, hmem⟩ := listFiles_holdsFile (hopen.placeOf husable) h
  exact ⟨names, hascending, hfiles, fun name => by rw [hmem, holdsFile_iff ht]⟩

/-- A file in a directory names the run that its name names. -/
lemma runOf_join (directory : Path) (hname : IsName name) :
    runOf (directory.join ⟨name⟩) = Run.ofName (Text.decodeLossy name) := by
  rw [runOf, hname.fileName_join]

/-- **The files of a well-formed tree** have names of their own. -/
lemma listFiles_isName (hformed : t.WellFormed) (h : listFiles t settings = .ok listing) :
    ∃ names : List Bytes, names.Pairwise (· < ·) ∧ (∀ name ∈ names, IsName name) ∧
      listing.files = names.map fun name => settings.inputDir.join ⟨name⟩ := by
  obtain ⟨place, names, hnames, hfiles⟩ := listFiles_sublist h
  refine ⟨names, (sortedNames_ascending t place).sublist hnames, fun name hname => ?_, hfiles⟩
  obtain ⟨n, hn⟩ := Option.ne_none_iff_exists'.1 (mem_sortedNames_iff.1 (hnames.subset hname))
  exact hformed.isName hn

/-- In a well-formed tree no file is listed twice. -/
lemma nodup_listFiles (hformed : t.WellFormed) (h : listFiles t settings = .ok listing) :
    listing.files.Nodup := by
  obtain ⟨names, hascending, hnames, hfiles⟩ := listFiles_isName hformed h
  have hdistinct : names.Nodup := by
    refine List.Pairwise.imp ?_ hascending
    rintro c _ hlt rfl
    exact List.lt_irrefl c hlt
  rw [hfiles]
  refine hdistinct.map_on fun c hc c' hc' heq => ?_
  exact (Path.join_inj (hnames c hc).slash_not_mem (hnames c' hc').slash_not_mem).1 heq

/-- The files of a well-formed tree with more tables have names. -/
lemma AddsTables.isName (h : AddsTables t t') (hformed : t.WellFormed) {c : Bytes}
    (hfile : t'.node? (place ++ [name]) = some (.file c)) : IsName name := by
  rcases h.node?_eq (place ++ [name]) with heq | ⟨-, hdir⟩ | ⟨above, name', -, heq, hname, -⟩
  · exact hformed.isName (heq.symm.trans hfile)
  · simp [hdir] at hfile
  · rw [(List.cons.inj (List.append_inj' heq rfl).2).1]
    exact hname

/-- The usable files of a listing, by their names. -/
lemma usableFiles_names (ht : t.NoLinks) (hopen : t.Opens settings.inputDir place)
    (hname : ∀ {name c}, t.node? (place ++ [name]) = some (.file c) → IsName name)
    (variant : Variant) (h : listFiles t settings = .ok listing) :
    ∃ names : List Bytes, names.Pairwise (· < ·) ∧
      variant.usableFiles t listing.files (fun _ => true) =
        names.map (fun name => (name, t.readFile (settings.inputDir.join ⟨name⟩))) ∧
      ∀ name, name ∈ names ↔ (settings.inputDir.same standardInput = false ∧
        settings.glob.accepts name = true ∧ ∃ c, t.node? (place ++ [name]) = some (.file c)) ∧
        variant.uses t (fun _ => true) (settings.inputDir.join ⟨name⟩) = true := by
  obtain ⟨names, hascending, hfiles, hmem⟩ := listFiles_names ht hopen h
  refine ⟨names.filter fun name => variant.uses t (fun _ => true) (settings.inputDir.join ⟨name⟩),
    hascending.filter _, ?_, fun name => by rw [List.mem_filter, hmem]⟩
  rw [Variant.usableFiles, hfiles, List.filter_map, List.map_map]
  refine List.map_congr_left fun name hmember => ?_
  obtain ⟨-, -, c, hfile⟩ := (hmem name).1 (List.mem_filter.1 hmember).1
  rw [Function.comp_apply, (hname hfile).fileName_join]

/-- **Added tables leave the usable files as they are.**

**Proof sketch.** Both listings are in strictly ascending order of the names, so it is enough that
the same names are those of usable files. Such a name names a run, and a file with such a name is
none of the tables. -/
lemma usableFiles_of_addsTables (h : AddsTables t t') (ht : t.NoLinks) (hformed : t.WellFormed)
    (hopen : t.Opens settings.inputDir place) (variant : Variant)
    (hlisting : listFiles t settings = .ok listing)
    (hlisting' : listFiles t' settings = .ok listing') :
    variant.usableFiles t' listing'.files (fun _ => true) =
      variant.usableFiles t listing.files fun _ => true := by
  have hopen' := hopen.mono (h.keepsWays ht)
  obtain ⟨names, hascending, hfiles, hmem⟩ :=
    usableFiles_names ht hopen hformed.isName variant hlisting
  obtain ⟨names', hascending', hfiles', hmem'⟩ :=
    usableFiles_names (h.noLinks ht) hopen' (h.isName hformed) variant hlisting'
  -- A file that stands in both trees has the same content in both.
  have hread : ∀ {name c}, t.node? (place ++ [name]) = some (.file c) →
      t'.node? (place ++ [name]) = some (.file c) →
      t'.readFile (settings.inputDir.join ⟨name⟩) = t.readFile (settings.inputDir.join ⟨name⟩) :=
    fun hnode hnode' => readFile_join_congr hopen hopen' (hformed.isName hnode) (ht _)
      (hnode'.trans hnode.symm)
  have huses : ∀ {file}, t'.readFile file = t.readFile file →
      variant.uses t' (fun _ => true) file = variant.uses t (fun _ => true) file := fun hread => by
    simp only [Variant.uses, Variant.fault?_congr hread]
  have hrun : ∀ {tree name}, IsName name →
      variant.uses tree (fun _ => true) (settings.inputDir.join ⟨name⟩) = true →
      ∃ r, Run.ofName (Text.decodeLossy name) = .ok r := by
    intro tree name hname huses
    rw [Variant.uses, runOf_join _ hname] at huses
    split at huses
    · rename_i r hr
      exact ⟨r, hr⟩
    · simp at huses
  have hnames : ∀ name, name ∈ names' ↔ name ∈ names := by
    intro name
    rw [hmem, hmem']
    constructor
    · rintro ⟨⟨hstdin, haccepts, c, hnode'⟩, hused⟩
      obtain ⟨r, hr⟩ := hrun (h.isName hformed hnode') hused
      have hnode := (h.node?_of_ofName hr).1 hnode'
      exact ⟨⟨hstdin, haccepts, c, hnode⟩, huses (hread hnode hnode') ▸ hused⟩
    · rintro ⟨⟨hstdin, haccepts, c, hnode⟩, hused⟩
      obtain ⟨r, hr⟩ := hrun (hformed.isName hnode) hused
      have hnode' := (h.node?_of_ofName hr).2 hnode
      exact ⟨⟨hstdin, haccepts, c, hnode'⟩, (huses (hread hnode hnode')).trans hused⟩
  have heq : names' = names := hascending'.eq_of_mem_iff hascending hnames
  rw [hfiles, hfiles', heq]
  refine List.map_congr_left fun name hmember => ?_
  obtain ⟨⟨-, -, c, hnode⟩, hused⟩ := (hmem name).1 hmember
  obtain ⟨r, hr⟩ := hrun (hformed.isName hnode) hused
  rw [hread hnode ((h.node?_of_ofName hr).2 hnode)]

/-! ## The sample trees are well-formed -/

lemma wellFormed_sampleTree : sampleTree.WellFormed := by
  have hw : IsName (Text.encode "w") :=
    isName_encode (by simp) (by simp) (by simp) (by simp)
  have hin : IsName (Text.encode "in") :=
    isName_encode (by simp) (by simp) (by simp) (by simp)
  have hfile : IsName (Text.encode "a__1__b__2__c__3__0(1).csv") :=
    isName_encode (by simp) (by simp) (by simp) (by simp)
  set t := (ofWorkDir (Text.encode "w")).set [Text.encode "w", Text.encode "in"] .dir
  have hwork : (ofWorkDir (Text.encode "w")).node? [Text.encode "w"] = some .dir := by decide
  have hinput : t.node? [Text.encode "w", Text.encode "in"] = some .dir := by decide
  have hfree : t.node? ([Text.encode "w", Text.encode "in"] ++
      [Text.encode "a__1__b__2__c__3__0(1).csv"]) = none := by decide
  have hformed : t.WellFormed := (wellFormed_ofWorkDir hw).set hwork hin (.inl rfl)
  exact hformed.set hinput hfile (.inr (hfree.trans_ne (by simp)))

lemma wellFormed_strayTree : strayTree.WellFormed := by
  have hfile : IsName (Text.encode "x") :=
    isName_encode (by simp) (by simp) (by simp) (by simp)
  have hinput : sampleTree.node? [Text.encode "w", Text.encode "in"] = some .dir := by decide
  have hfree : sampleTree.node? ([Text.encode "w", Text.encode "in"] ++ [Text.encode "x"]) =
      none := by decide
  exact wellFormed_sampleTree.set hinput hfile (.inr (hfree.trans_ne (by simp)))

lemma wellFormed_repeatTree : repeatTree.WellFormed := by
  have hsecond : IsName (Text.encode "a__1__b__2__c__3__0(2).csv") :=
    isName_encode (by simp) (by simp) (by simp) (by simp)
  have hother : IsName (Text.encode "a__1__b__5__c__3__0(1).csv") :=
    isName_encode (by simp) (by simp) (by simp) (by simp)
  set t := strayTree.set
    [Text.encode "w", Text.encode "in", Text.encode "a__1__b__2__c__3__0(2).csv"]
    (.file (Text.encode secondContent))
  have hinput : strayTree.node? [Text.encode "w", Text.encode "in"] = some .dir := by decide
  have hinput' : t.node? [Text.encode "w", Text.encode "in"] = some .dir := by decide
  have hfree : strayTree.node? ([Text.encode "w", Text.encode "in"] ++
      [Text.encode "a__1__b__2__c__3__0(2).csv"]) = none := by decide
  have hfree' : t.node? ([Text.encode "w", Text.encode "in"] ++
      [Text.encode "a__1__b__5__c__3__0(1).csv"]) = none := by decide
  have hformed : t.WellFormed :=
    wellFormed_strayTree.set hinput hsecond (.inr (hfree.trans_ne (by simp)))
  exact hformed.set hinput' hother (.inr (hfree'.trans_ne (by simp)))

end BenchTally
