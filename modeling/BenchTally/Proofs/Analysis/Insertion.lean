import BenchTally.Proofs.Analysis.Relisting

set_option autoImplicit false
set_option relaxedAutoImplicit false

/-!
# One more file

The files of a listing stand in the order of their names, so that listings with the same files are
equal, and a file that one listing holds besides those of another stands at one place of it. If that
file cannot be used, it is rejected at one place of what is rejected.

## Main definitions

* `Variant.SameUsable` — two listings hold the same usable files of some configurations.
* `InsertsFile` — a listing holds the files of another one and one more.
* `Variant.AddsUnusable` — the one more cannot be used, and the others are as before.

## Main results

* `Variant.SameUsable.usableFiles_eq` — the same usable files stand in the same order.
* `InsertsFile.exists_place` — one more file stands at one place of a listing.
* `insertsFile_set` — what is new in the input directory and matches is listed besides.
* `rejections_insert` — one more unusable file makes one more rejection.
-/

namespace BenchTally

open FileTree

/-! ## The order of a listing -/

/-- Lists in strictly ascending order of a key are known by their elements. -/
lemma eq_of_ascending_keys {α : Type} {key : α → Bytes} {xs ys : List α}
    (hxs : xs.Pairwise fun x y => key x < key y) (hys : ys.Pairwise fun x y => key x < key y)
    (h : ∀ x, x ∈ xs ↔ x ∈ ys) : xs = ys := by
  have : Std.Irrefl fun x y => key x < key y := ⟨fun x => List.lt_irrefl (key x)⟩
  have : Std.Antisymm fun x y => key x < key y :=
    ⟨fun x y hlt hgt => absurd hgt (List.lt_asymm hlt)⟩
  exact hxs.eq_of_mem_iff hys h

section Order

variable {variant : Variant} {among : ConfigKey → Bool} {t t₁ t₂ : FileTree}
  {settings s₁ s₂ : Settings} {listing l₁ l₂ : Listing} {file : Path}

/-- The files that are listed of a well-formed tree ascend by their names. -/
lemma fileNames_ascending (hformed : t.WellFormed) (h : listFiles t settings = .ok listing) :
    listing.files.Pairwise fun f f' => f.fileName < f'.fileName := by
  obtain ⟨names, hascending, hnames, hfiles⟩ := listFiles_isName hformed h
  rw [hfiles]
  refine List.pairwise_map.2 (hascending.imp_of_mem fun hname hname' hlt => ?_)
  rwa [(hnames _ hname).fileName_join, (hnames _ hname').fileName_join]

/-- Two listings hold the same usable files of some configurations: the same names with the same
contents, in the same order or, where the trees are well-formed, in any. -/
inductive Variant.SameUsable (variant : Variant) (among : ConfigKey → Bool) (t₁ t₂ : FileTree)
    (files₁ files₂ : List Path) : Prop
  /-- In the same order. -/
  | inOrder (h : variant.usableFiles t₁ files₁ among = variant.usableFiles t₂ files₂ among)
  /-- In any order. -/
  | anyOrder (hformed₁ : t₁.WellFormed) (hformed₂ : t₂.WellFormed)
      (h : ∀ usable, usable ∈ variant.usableFiles t₁ files₁ among ↔
        usable ∈ variant.usableFiles t₂ files₂ among)

/-- **The same usable files stand in the same order**, which is that of their names. -/
lemma Variant.SameUsable.usableFiles_eq
    (h : variant.SameUsable among t₁ t₂ l₁.files l₂.files)
    (hlisting₁ : listFiles t₁ s₁ = .ok l₁) (hlisting₂ : listFiles t₂ s₂ = .ok l₂) :
    variant.usableFiles t₁ l₁.files among = variant.usableFiles t₂ l₂.files among := by
  have hascending : ∀ {t : FileTree} {settings : Settings} {listing : Listing}, t.WellFormed →
      listFiles t settings = .ok listing →
      (variant.usableFiles t listing.files among).Pairwise fun u u' => u.1 < u'.1 :=
    fun hformed hlisting => List.pairwise_map.2 ((fileNames_ascending hformed hlisting).filter _)
  cases h with
  | inOrder heq => exact heq
  | anyOrder hformed₁ hformed₂ hmem =>
    exact eq_of_ascending_keys (hascending hformed₁ hlisting₁) (hascending hformed₂ hlisting₂) hmem

/-- A listing holds the files of another one and one more: at one place or, where the trees are
well-formed, anywhere. -/
inductive InsertsFile (t₁ t₂ : FileTree) (files₁ files₂ : List Path) (file : Path) : Prop
  /-- At one place. -/
  | atPlace {before after : List Path} (h₁ : files₁ = before ++ after)
      (h₂ : files₂ = before ++ file :: after)
  /-- Anywhere. -/
  | anywhere (hformed₁ : t₁.WellFormed) (hformed₂ : t₂.WellFormed) (hnew : file ∉ files₁)
      (hmem : ∀ f, f ∈ files₂ ↔ f = file ∨ f ∈ files₁)

/-- **One more file stands at one place of a listing**, which its name tells. -/
lemma InsertsFile.exists_place (h : InsertsFile t₁ t₂ l₁.files l₂.files file)
    (hlisting₁ : listFiles t₁ s₁ = .ok l₁) (hlisting₂ : listFiles t₂ s₂ = .ok l₂) :
    ∃ before after, l₁.files = before ++ after ∧ l₂.files = before ++ file :: after := by
  cases h with
  | atPlace h₁ h₂ => exact ⟨_, _, h₁, h₂⟩
  | anywhere hformed₁ hformed₂ hnew hmem =>
    obtain ⟨before, after, hfiles⟩ := List.append_of_mem ((hmem file).2 (.inl rfl))
    have hnodup := nodup_listFiles hformed₂ hlisting₂
    have hascending := fileNames_ascending hformed₂ hlisting₂
    rw [hfiles] at hnodup hascending hmem
    have hothers : (before ++ after).Sublist (before ++ file :: after) :=
      (List.sublist_cons_self file after).append_left before
    have hnot : file ∉ before ++ after := (List.nodup_middle.1 hnodup).notMem
    refine ⟨before, after, eq_of_ascending_keys (fileNames_ascending hformed₁ hlisting₁)
      (hascending.sublist hothers) fun f => ⟨fun hf => ?_, fun hf => ?_⟩, hfiles⟩
    · have hne : f ≠ file := ne_of_mem_of_not_mem hf hnew
      simpa [hne] using (hmem f).2 (.inr hf)
    · exact ((hmem f).1 (hothers.subset hf)).resolve_left (ne_of_mem_of_not_mem hf hnot)

/-- A listing holds the files of another one, with the same contents, and one more that cannot be
used: its name names no run, or its content has a fault. -/
structure Variant.AddsUnusable (variant : Variant) (t₁ t₂ : FileTree) (files₁ files₂ : List Path)
    (file : Path) : Prop where
  /-- The file is one more. -/
  inserts : InsertsFile t₁ t₂ files₁ files₂ file
  /-- The others are as before. -/
  readFile_eq : ∀ f ∈ files₁, t₂.readFile f = t₁.readFile f
  /-- The file cannot be used. -/
  unusable : ∀ run, runOf file = .ok run → variant.fault? t₂ file ≠ none

end Order

/-! ## A new file in the input directory -/

section New

variable {variant : Variant} {t : FileTree} {settings : Settings} {l₁ l₂ : Listing} {place : Place}
  {name c : Bytes} (ht : t.NoLinks) (hformed : t.WellFormed)
  (hopen : t.Opens settings.inputDir place) (hname : IsName name)
  (hfree : t.node? (place ++ [name]) = none)

/-- A new file keeps the ways. -/
lemma keepsWays_set_new (c : Bytes) (hfree : t.node? (place ++ [name]) = none) :
    KeepsWays t (t.set (place ++ [name]) (.file c)) :=
  keepsWays_set_file c (by simp) (by simp [hfree]) (by simp [hfree])

include hformed hopen hname hfree in
/-- A new file leaves a tree well-formed. -/
lemma wellFormed_set_new (c : Bytes) : (t.set (place ++ [name]) (.file c)).WellFormed :=
  hformed.set hopen.2 hname (.inr (hfree.trans_ne (by simp)))

include ht hopen hfree in
/-- With a new file whose name matches, its name is listed besides the others. -/
lemma exists_names_set (hstdin : settings.inputDir.same standardInput = false)
    (haccepts : settings.glob.accepts name = true) (hlisting₁ : listFiles t settings = .ok l₁)
    (hlisting₂ : listFiles (t.set (place ++ [name]) (.file c)) settings = .ok l₂) :
    ∃ names names' : List Bytes,
      l₁.files = names.map (fun n => settings.inputDir.join ⟨n⟩) ∧
      l₂.files = names'.map (fun n => settings.inputDir.join ⟨n⟩) ∧
      (∀ n, n ∈ names' ↔ n = name ∨ n ∈ names) ∧
      ∀ n ∈ names, n ≠ name ∧ t.node? (place ++ [n]) ≠ none := by
  obtain ⟨names, -, hfiles, hmem⟩ := listFiles_names ht hopen hlisting₁
  obtain ⟨names', -, hfiles', hmem'⟩ := listFiles_names (ht.set (by simp) (by simp))
    (hopen.mono (keepsWays_set_new c hfree)) hlisting₂
  refine ⟨names, names', hfiles, hfiles', fun n => ?_, fun n hn => ?_⟩
  · rw [hmem', hmem, node?_set t (by simp)]
    by_cases hn : n = name
    · simp [hn, hstdin, haccepts]
    · simp [hn]
  · obtain ⟨-, -, content, hnode⟩ := (hmem n).1 hn
    refine ⟨?_, by simp [hnode]⟩
    rintro rfl
    simp [hfree] at hnode

include ht hformed hopen hname hfree in
/-- **A new file in the input directory** of a well-formed tree without links, under a name that
matches, is listed besides the others, and the others are as before. -/
lemma insertsFile_set (hstdin : settings.inputDir.same standardInput = false)
    (haccepts : settings.glob.accepts name = true) (hlisting₁ : listFiles t settings = .ok l₁)
    (hlisting₂ : listFiles (t.set (place ++ [name]) (.file c)) settings = .ok l₂) :
    InsertsFile t (t.set (place ++ [name]) (.file c)) l₁.files l₂.files
        (settings.inputDir.join ⟨name⟩) ∧
      ∀ f ∈ l₁.files, (t.set (place ++ [name]) (.file c)).readFile f = t.readFile f := by
  obtain ⟨names, names', hfiles, hfiles', hnames, hold⟩ :=
    exists_names_set ht hopen hfree hstdin haccepts hlisting₁ hlisting₂
  have hisName : ∀ n ∈ names, IsName n := fun n hn => by
    obtain ⟨node, hnode⟩ := Option.ne_none_iff_exists'.1 (hold n hn).2
    exact hformed.isName hnode
  rw [hfiles, hfiles']
  refine ⟨.anywhere hformed (wellFormed_set_new hformed hopen hname hfree c) ?_ fun f => ?_,
    List.forall_mem_map.2 fun n hn => ?_⟩
  · intro hmem
    obtain ⟨n, hn, heq⟩ := List.mem_map.1 hmem
    rw [Path.join_inj (hisName n hn).slash_not_mem hname.slash_not_mem] at heq
    exact (hold n hn).1 heq
  · rw [List.mem_map, List.mem_map]
    simp [hnames, or_and_right, exists_or, eq_comm]
  · refine readFile_join_congr hopen (hopen.mono (keepsWays_set_new c hfree)) (hisName n hn)
      (ht _) ?_
    rw [node?_set t (by simp), if_neg (by simpa using (hold n hn).1)]

include ht hformed hopen hname hfree in
/-- If it cannot be used, it is one more file that cannot. -/
lemma addsUnusable_set (hstdin : settings.inputDir.same standardInput = false)
    (haccepts : settings.glob.accepts name = true)
    (hfault : ∀ run, Run.ofName (Text.decodeLossy name) = .ok run →
      variant.fault? (t.set (place ++ [name]) (.file c)) (settings.inputDir.join ⟨name⟩) ≠ none)
    (hlisting₁ : listFiles t settings = .ok l₁)
    (hlisting₂ : listFiles (t.set (place ++ [name]) (.file c)) settings = .ok l₂) :
    variant.AddsUnusable t (t.set (place ++ [name]) (.file c)) l₁.files l₂.files
      (settings.inputDir.join ⟨name⟩) := by
  obtain ⟨hinserts, hread⟩ :=
    insertsFile_set ht hformed hopen hname hfree hstdin haccepts hlisting₁ hlisting₂
  refine ⟨hinserts, hread, fun run hrun => ?_⟩
  rw [runOf_join _ hname] at hrun
  exact hfault run hrun

end New

/-! ## One more rejection -/

section Insert

variable {β : Type} {read read₁ read₂ : Path → Except ContentError β} {before after : List Path}
  {file : Path}

/-- What the files of a configuration have wrong, in their order. -/
def faultsOf (read : Path → Except ContentError β) (files : List Path) (k : ConfigKey) :
    List (Path × FileError) :=
  files.filterMap fun f => ((configOf? f).filter fun x => x.1 = k).bind (contentFault? read)

lemma faultsOf_append (read : Path → Except ContentError β) (files files' : List Path)
    (k : ConfigKey) : faultsOf read (files ++ files') k =
      faultsOf read files k ++ faultsOf read files' k :=
  List.filterMap_append

lemma faultsOf_congr {files : List Path}
    (h : ∀ f ∈ files, fault? read₂ f = fault? read₁ f) (k : ConfigKey) :
    faultsOf read₂ files k = faultsOf read₁ files k := by
  refine List.filterMap_congr fun f hf => ?_
  cases hrun : runOf f with
  | error e => simp [configOf?, hrun]
  | ok run => simp only [bind_contentFault? hrun, contentFault?, h f hf]

/-- A file whose name names no run has no configuration to count for. -/
lemma faultsOf_singleton_of_error {e : NameError} (hrun : runOf file = .error e) (k : ConfigKey) :
    faultsOf read [file] k = [] := by
  simp [faultsOf, configOf?, hrun]

/-- What a file has wrong counts for its own configuration. -/
lemma faultsOf_singleton {run : Run} {e : ContentError} (hrun : runOf file = .ok run)
    (hfault : fault? read file = some e) (k : ConfigKey) :
    faultsOf read [file] k = if run.config = k then [(file, .content e)] else [] := by
  rw [faultsOf, List.filterMap_cons, bind_contentFault? hrun, contentFault?, hfault]
  by_cases hk : run.config = k <;> simp [hk]

/-- Among others that are as before, what one more file has wrong stands between what those before
it and after it have wrong. -/
lemma faultsOf_insert (hsame : ∀ f ∈ before ++ after, fault? read₂ f = fault? read₁ f)
    (k : ConfigKey) : faultsOf read₂ (before ++ file :: after) k =
      faultsOf read₁ before k ++ (faultsOf read₂ [file] k ++ faultsOf read₁ after k) := by
  have hcons : before ++ file :: after = before ++ ([file] ++ after) := rfl
  rw [hcons, faultsOf_append, faultsOf_append,
    faultsOf_congr fun f hf => hsame f (List.mem_append_left _ hf),
    faultsOf_congr fun f hf => hsame f (List.mem_append_right _ hf)]

/-- Where it has nothing wrong that counts, all is as before. -/
lemma faultsOf_insert_of_eq_nil (hsame : ∀ f ∈ before ++ after, fault? read₂ f = fault? read₁ f)
    {k : ConfigKey} (hk : faultsOf read₂ [file] k = []) :
    faultsOf read₂ (before ++ file :: after) k = faultsOf read₁ (before ++ after) k := by
  rw [faultsOf_insert hsame, hk, faultsOf_append, List.nil_append]

/-- What is rejected, with the configurations taken from any ascending list that holds those of the
files. -/
lemma rejections_intake_along (read : Path → Except ContentError β) (announce : Bool)
    {files : List Path} {ks : List ConfigKey}
    (hks : ks.Pairwise fun a b => compare a b = .lt)
    (hmem : ∀ x ∈ files.filterMap configOf?, x.1 ∈ ks) :
    rejections (intake read announce files).findings =
      files.filterMap nameFault? ++ ks.flatMap (faultsOf read files) := by
  rw [rejections_intake, filesByConfig,
    Keyed.flatMap_groupOn (f := fun group => group.filterMap (contentFault? read)) Prod.fst hks
      hmem rfl]
  simp only [filterMap_contentFault?]
  rfl

/-- What is rejected, with the configurations taken from those of files among which the files
are. -/
lemma rejections_intake_of_subset (read : Path → Except ContentError β) (announce : Bool)
    {files all : List Path} (h : files ⊆ all) :
    rejections (intake read announce files).findings =
      files.filterMap nameFault? ++ (filesByConfig all).keys.flatMap (faultsOf read files) := by
  refine rejections_intake_along read announce (Keyed.keys_ascending _) fun x hx => ?_
  obtain ⟨f, hf, hconfig⟩ := List.mem_filterMap.1 hx
  exact (Keyed.mem_keys_groupOn Prod.fst).2 ⟨x, List.mem_filterMap.2 ⟨f, h hf, hconfig⟩, rfl⟩

lemma subset_insert (before after : List Path) (file : Path) :
    before ++ after ⊆ before ++ file :: after :=
  ((List.sublist_cons_self file after).append_left before).subset

/-- A wrong name makes one more rejection among the names. -/
lemma rejections_insert_name (announce : Bool)
    (hsame : ∀ f ∈ before ++ after, fault? read₂ f = fault? read₁ f) {e : NameError}
    (hrun : runOf file = .error e) :
    ∃ l l', rejections (intake read₁ announce (before ++ after)).findings = l ++ l' ∧
      rejections (intake read₂ announce (before ++ file :: after)).findings =
        l ++ (file, .name e) :: l' := by
  have hname : nameFault? file = some (file, .name e) := by rw [nameFault?, hrun]
  rw [rejections_intake_of_subset read₁ announce (subset_insert before after file),
    rejections_intake_of_subset read₂ announce (List.Subset.refl _)]
  set ks := (filesByConfig (before ++ file :: after)).keys
  have hcontents : ks.flatMap (faultsOf read₂ (before ++ file :: after)) =
      ks.flatMap (faultsOf read₁ (before ++ after)) :=
    List.flatMap_congr fun k _ =>
      faultsOf_insert_of_eq_nil hsame (faultsOf_singleton_of_error hrun k)
  refine ⟨before.filterMap nameFault?,
    after.filterMap nameFault? ++ ks.flatMap (faultsOf read₁ (before ++ after)), ?_, ?_⟩
  · rw [List.filterMap_append, List.append_assoc]
  · rw [hcontents, List.filterMap_append, List.filterMap_cons_some hname, List.append_assoc,
      List.cons_append]

/-- An unusable content makes one more rejection in the group of its configuration; the groups
before it and after it are not touched. -/
lemma rejections_insert_content (announce : Bool)
    (hsame : ∀ f ∈ before ++ after, fault? read₂ f = fault? read₁ f) {run : Run}
    {e : ContentError} (hrun : runOf file = .ok run) (hfault : fault? read₂ file = some e) :
    ∃ l l', rejections (intake read₁ announce (before ++ after)).findings = l ++ l' ∧
      rejections (intake read₂ announce (before ++ file :: after)).findings =
        l ++ (file, .content e) :: l' := by
  have hname : nameFault? file = none := by rw [nameFault?, hrun]
  have hnames : (before ++ file :: after).filterMap nameFault? =
      (before ++ after).filterMap nameFault? := by
    rw [List.filterMap_append, List.filterMap_cons_none hname, List.filterMap_append]
  have hkey : run.config ∈ (filesByConfig (before ++ file :: after)).keys :=
    (Keyed.mem_keys_groupOn Prod.fst).2 ⟨(run.config, file),
      List.mem_filterMap.2 ⟨file, by simp, by rw [configOf?, hrun]⟩, rfl⟩
  obtain ⟨lesser, greater, hks⟩ := List.append_of_mem hkey
  have hnodup : (lesser ++ run.config :: greater).Nodup :=
    hks ▸ Keyed.nodup_of_ascending (Keyed.keys_ascending _)
  have hothers : run.config ∉ lesser ++ greater := (List.nodup_middle.1 hnodup).notMem
  have hother : ∀ k ∈ lesser ++ greater,
      faultsOf read₂ (before ++ file :: after) k = faultsOf read₁ (before ++ after) k := by
    intro k hk
    have hne : run.config ≠ k := (ne_of_mem_of_not_mem hk hothers).symm
    exact faultsOf_insert_of_eq_nil hsame (by rw [faultsOf_singleton hrun hfault, if_neg hne])
  have hown : faultsOf read₂ (before ++ file :: after) run.config =
      faultsOf read₁ before run.config ++
        (file, .content e) :: faultsOf read₁ after run.config := by
    rw [faultsOf_insert hsame, faultsOf_singleton hrun hfault, if_pos rfl]
    rfl
  refine ⟨(before ++ after).filterMap nameFault? ++
      (lesser.flatMap (faultsOf read₁ (before ++ after)) ++ faultsOf read₁ before run.config),
    faultsOf read₁ after run.config ++ greater.flatMap (faultsOf read₁ (before ++ after)), ?_, ?_⟩
  · rw [rejections_intake_of_subset read₁ announce (subset_insert before after file), hks]
    simp only [List.flatMap_append, List.flatMap_cons, faultsOf_append, List.append_assoc]
  · rw [rejections_intake_of_subset read₂ announce (List.Subset.refl _), hks, hnames,
      List.flatMap_append, List.flatMap_cons, hown,
      List.flatMap_congr fun k hk => hother k (List.mem_append_left _ hk),
      List.flatMap_congr fun k hk => hother k (List.mem_append_right _ hk)]
    simp only [List.append_assoc, List.cons_append]

/-- **One more file that cannot be used** makes one more rejection, and leaves the others in their
order. -/
lemma rejections_insert (announce : Bool)
    (hsame : ∀ f ∈ before ++ after, fault? read₂ f = fault? read₁ f)
    (hfile : ∀ run, runOf file = .ok run → fault? read₂ file ≠ none) :
    ∃ l l' cause,
      rejections (intake read₁ announce (before ++ after)).findings = l ++ l' ∧
      rejections (intake read₂ announce (before ++ file :: after)).findings =
        l ++ (file, cause) :: l' := by
  cases hrun : runOf file with
  | error e =>
    obtain ⟨l, l', h₁, h₂⟩ := rejections_insert_name announce hsame hrun
    exact ⟨l, l', _, h₁, h₂⟩
  | ok run =>
    obtain ⟨e, he⟩ := Option.ne_none_iff_exists'.1 (hfile run hrun)
    obtain ⟨l, l', h₁, h₂⟩ := rejections_insert_content announce hsame hrun he
    exact ⟨l, l', _, h₁, h₂⟩

end Insert

end BenchTally
