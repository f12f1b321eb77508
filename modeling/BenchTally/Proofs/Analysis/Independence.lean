import BenchTally.Proofs.Analysis.Insertion
import BenchTally.Proofs.Analysis.Tables

set_option autoImplicit false
set_option relaxedAutoImplicit false

/-!
# Independence of groups

The files of a group are independent of everything but the usable files of the group, and a file
that cannot be used leaves no trace but in the counts and a warning.

## Main definitions

* `Variant.sameGroup` — whether two configurations are in the same tables.
* `Variant.groupPaths` — the paths of the tables that a configuration is in.
* `BothSucceed` — two successful analyses of one kind.
* `SameFile`, `OneMoreLeftOut` — what two analyses have in common.

## Main results

* `SummaryTables.congr`, `Charts.congr` — a table depends on the results of its group only.
* `analyse_independent` — the files of a group follow from the usable files of the group, and one
  more file that cannot be used leaves no trace but in the counts and a warning.
-/

namespace BenchTally

open FileTree

/-! ## Groups -/

/-- Whether two configurations are in the same tables. -/
def Variant.sameGroup (variant : Variant) (k k' : ConfigKey) : Bool :=
  match variant with
  | .throughput | .metrics => k'.outputKey = k.outputKey
  | .timeline => k'.chartKey = k.chartKey

/-- The paths of the tables that a configuration is in. -/
def Variant.groupPaths (variant : Variant) (out : Path) (k : ConfigKey) : List Path :=
  (variant.sheetDirs out).map fun d => d.join (.ofString (variant.groupName k ++ ".csv"))

section Groups

variable {κ β : Type} [DecidableEq κ] {key : ConfigKey → κ} {g : κ}
  {results₁ results₂ : List (ConfigKey × β)}

/-- The values of a configuration are among the results of its group. -/
lemma valuesOf_congr
    (h : results₁.filter (fun result => key result.1 = g) =
      results₂.filter fun result => key result.1 = g) {k : ConfigKey} (hk : key k = g) :
    valuesOf k results₁ = valuesOf k results₂ := by
  have hgroup : ∀ results : List (ConfigKey × β),
      valuesOf k results = valuesOf k (results.filter fun result => key result.1 = g) := by
    intro results
    rw [valuesOf, valuesOf, List.filter_filter]
    congr 2
    funext result
    by_cases hresult : result.1 = k
    · simp [hresult, hk]
    · simp [hresult]
  rw [hgroup, h, ← hgroup]

/-- The results of a group are the same where the groups are. -/
lemma mem_congr
    (h : results₁.filter (fun result => key result.1 = g) =
      results₂.filter fun result => key result.1 = g) {result : ConfigKey × β}
    (hkey : key result.1 = g) : result ∈ results₁ ↔ result ∈ results₂ := by
  have hmem : ∀ results : List (ConfigKey × β),
      result ∈ results ↔ result ∈ results.filter fun result => key result.1 = g := by
    intro results
    simp [List.mem_filter, hkey]
  rw [hmem, h, ← hmem]

end Groups

/-- **A table depends on the results of its group only.** -/
lemma SummaryTables.congr {results₁ results₂ : List (ConfigKey × RunSummary)}
    {tables₁ tables₂ : List OutputKey} {configs₁ configs₂ : OutputKey → List ConfigKey}
    {g : OutputKey} (h₁ : SummaryTables results₁ tables₁ configs₁)
    (h₂ : SummaryTables results₂ tables₂ configs₂)
    (h : results₁.filter (fun result => result.1.outputKey = g) =
      results₂.filter fun result => result.1.outputKey = g) :
    (g ∈ tables₁ ↔ g ∈ tables₂) ∧
      throughputTable results₁ (configs₁ g) g = throughputTable results₂ (configs₂ g) g ∧
      makespanTable results₁ (configs₁ g) g = makespanTable results₂ (configs₂ g) g := by
  have hmem : ∀ {result : ConfigKey × RunSummary}, result.1.outputKey = g →
      (result ∈ results₁ ↔ result ∈ results₂) := mem_congr h
  have hconfigs : configs₁ g = configs₂ g := by
    refine Keyed.eq_of_ascending (h₁.configs_ascending g) (h₂.configs_ascending g) fun k => ?_
    rw [h₁.mem_configs_iff, h₂.mem_configs_iff]
    refine and_congr_left fun hk => exists_congr fun result => and_congr_left fun hresult => ?_
    exact hmem (by rw [hresult, hk])
  have hvalues : ∀ k ∈ configs₂ g, valuesOf k results₁ = valuesOf k results₂ := fun k hk =>
    valuesOf_congr h ((h₂.mem_configs_iff g k).1 hk).2
  refine ⟨?_, ?_, ?_⟩
  · rw [h₁.mem_iff, h₂.mem_iff]
    exact exists_congr fun result => and_congr_left hmem
  · simp only [throughputTable, hconfigs, Sheet.mk.injEq, true_and]
    exact List.map_congr_left fun k hk => by rw [hvalues k hk]
  · simp only [makespanTable, hconfigs, Sheet.mk.injEq, true_and]
    exact List.map_congr_left fun k hk => by rw [hvalues k hk]

/-- **A chart depends on the results of its group only.** -/
lemma Charts.congr {results₁ results₂ : List (ConfigKey × List (Sample Float))}
    {charts₁ charts₂ : List ChartKey} {configs₁ configs₂ : ChartKey → List ConfigKey}
    {buckets₁ buckets₂ : ConfigKey → List TimeBucket} {g : ChartKey}
    (h₁ : Charts results₁ charts₁ configs₁ buckets₁)
    (h₂ : Charts results₂ charts₂ configs₂ buckets₂)
    (h : results₁.filter (fun result => result.1.chartKey = g) =
      results₂.filter fun result => result.1.chartKey = g) :
    (g ∈ charts₁ ↔ g ∈ charts₂) ∧
      chartTable results₁ (configs₁ g) buckets₁ g =
        chartTable results₂ (configs₂ g) buckets₂ g := by
  have hmem : ∀ {result : ConfigKey × List (Sample Float)}, result.1.chartKey = g →
      (result ∈ results₁ ↔ result ∈ results₂) := mem_congr h
  have hconfigs : configs₁ g = configs₂ g := by
    refine Keyed.eq_of_ascending (h₁.configs_ascending g) (h₂.configs_ascending g) fun k => ?_
    rw [h₁.mem_configs_iff, h₂.mem_configs_iff]
    refine and_congr_left fun hk => exists_congr fun result => ?_
    constructor
    · rintro ⟨hresult, hne, rfl⟩
      exact ⟨(hmem hk).1 hresult, hne, rfl⟩
    · rintro ⟨hresult, hne, rfl⟩
      exact ⟨(hmem hk).2 hresult, hne, rfl⟩
  have hsamples : ∀ k ∈ configs₂ g, samplesOf k results₁ = samplesOf k results₂ := fun k hk => by
    rw [samplesOf, samplesOf, valuesOf_congr h ((h₂.mem_configs_iff g k).1 hk).2]
  have hbuckets : ∀ k ∈ configs₂ g, buckets₁ k = buckets₂ k := fun k hk => by
    have hcompare : ∀ {b b' : TimeBucket}, b.ticks < b'.ticks →
        compareOn TimeBucket.ticks b b' = .lt := Std.compare_eq_lt.2
    refine Keyed.eq_of_ascending ((h₁.buckets_ascending k).imp hcompare)
      ((h₂.buckets_ascending k).imp hcompare) fun b => ?_
    rw [h₁.mem_buckets_iff, h₂.mem_buckets_iff, hsamples k hk]
  refine ⟨?_, ?_⟩
  · rw [h₁.mem_iff, h₂.mem_iff]
    refine exists_congr fun result => ?_
    constructor
    · rintro ⟨hresult, hne, hkey⟩
      exact ⟨(hmem hkey).1 hresult, hne, hkey⟩
    · rintro ⟨hresult, hne, hkey⟩
      exact ⟨(hmem hkey).2 hresult, hne, hkey⟩
  · simp only [chartTable, hconfigs, Sheet.mk.injEq, true_and]
    refine List.flatMap_congr fun k hk => ?_
    rw [hbuckets k hk, hsamples k hk]

/-! ## The tables of a group -/

section Tables

variable {variant : Variant} {t₁ t₂ : FileTree} {out₁ out₂ : Path} {files₁ files₂ : List Path}
  {sheets₁ sheets₂ : List (Path × Sheet)} {k : ConfigKey}

/-- Among tables named after their keys, those with the name of a configuration are the table of
its key. -/
lemma NamesTables.mem_iff {κ : Type} {key : ConfigKey → κ} {text : κ → String}
    (hnames : NamesTables key text) {keys : List κ} {table : κ → Sheet}
    (htext : ∀ g, (table g).name = text g)
    (hkeys : ∀ g ∈ keys, ∃ k : ConfigKey, k.OfFileName ∧ key k = g) (hk : k.OfFileName)
    {d d' : Path} {s : Sheet} (hs : s.name = text (key k)) :
    (d', s) ∈ keys.map (fun g => (d, table g)) ↔ d = d' ∧ key k ∈ keys ∧ table (key k) = s := by
  rw [List.mem_map]
  constructor
  · rintro ⟨g, hg, heq⟩
    obtain ⟨rfl, rfl⟩ := Prod.mk.inj heq
    obtain ⟨k', hk', rfl⟩ := hkeys g hg
    rw [htext] at hs
    rw [← hnames.inj hk' hk hs]
    exact ⟨rfl, hg, rfl⟩
  · rintro ⟨rfl, hg, rfl⟩
    exact ⟨key k, hg, rfl⟩

/-- **The tables of a group depend on the usable files of the group only.** -/
lemma Variant.Tables.mem_congr (h₁ : variant.Tables t₁ out₁ files₁ sheets₁)
    (h₂ : variant.Tables t₂ out₂ files₂ sheets₂) (hk : k.OfFileName)
    (hfiles : variant.usableFiles t₁ files₁ (variant.sameGroup k) =
      variant.usableFiles t₂ files₂ (variant.sameGroup k)) :
    ∀ d ∈ (variant.sheetDirs out₁).zip (variant.sheetDirs out₂),
      ∀ s : Sheet, s.name = variant.groupName k → ((d.1, s) ∈ sheets₁ ↔ (d.2, s) ∈ sheets₂) := by
  intro d hd s hs
  cases variant with
  | throughput =>
    obtain ⟨tables₁, configs₁, htables₁, rfl⟩ := h₁
    obtain ⟨tables₂, configs₂, htables₂, rfl⟩ := h₂
    obtain ⟨hmem, htable, -⟩ := htables₁.congr htables₂
      (readsBy_throughput.filter_usable_congr hfiles)
    obtain rfl := List.mem_singleton.1 hd
    rw [namesTables_outputKey.mem_iff (fun _ => name_throughputTable _ _ _)
        htables₁.exists_ofFileName hk hs,
      namesTables_outputKey.mem_iff (fun _ => name_throughputTable _ _ _)
        htables₂.exists_ofFileName hk hs, hmem, htable]
    simp
  | metrics =>
    obtain ⟨tables₁, configs₁, htables₁, rfl⟩ := h₁
    obtain ⟨tables₂, configs₂, htables₂, rfl⟩ := h₂
    obtain ⟨hmem, htable, htable'⟩ := htables₁.congr htables₂
      (readsBy_metrics.filter_usable_congr hfiles)
    rw [List.mem_append, List.mem_append,
      namesTables_outputKey.mem_iff (fun _ => name_throughputTable _ _ _)
        htables₁.exists_ofFileName hk hs,
      namesTables_outputKey.mem_iff (fun _ => name_makespanTable _ _ _)
        htables₁.exists_ofFileName hk hs,
      namesTables_outputKey.mem_iff (fun _ => name_throughputTable _ _ _)
        htables₂.exists_ofFileName hk hs,
      namesTables_outputKey.mem_iff (fun _ => name_makespanTable _ _ _)
        htables₂.exists_ofFileName hk hs, hmem, htable, htable']
    simp only [Variant.sheetDirs, List.zip_cons_cons, List.zip_nil_right, List.mem_cons,
      List.not_mem_nil, or_false] at hd
    rcases hd with rfl | rfl
    · simp [(throughputDir_ne_makespanDir _).symm]
    · simp [throughputDir_ne_makespanDir]
  | timeline =>
    obtain ⟨charts₁, configs₁, buckets₁, hcharts₁, rfl⟩ := h₁
    obtain ⟨charts₂, configs₂, buckets₂, hcharts₂, rfl⟩ := h₂
    obtain ⟨hmem, htable⟩ := hcharts₁.congr hcharts₂
      (readsBy_timeline.filter_usable_congr hfiles)
    obtain rfl := List.mem_singleton.1 hd
    rw [namesTables_chartKey.mem_iff (fun _ => name_chartTable _ _ _ _)
        hcharts₁.exists_ofFileName hk hs,
      namesTables_chartKey.mem_iff (fun _ => name_chartTable _ _ _ _)
        hcharts₂.exists_ofFileName hk hs, hmem, htable]
    simp

/-- A table of the group of a configuration is written to its path exactly if it is among the
tables. -/
lemma Variant.Tables.mem_paths (h : variant.Tables t₁ out₁ files₁ sheets₁) (hk : k.OfFileName)
    {d : Path} (hd : d ∈ variant.sheetDirs out₁) :
    d.join (.ofString (variant.groupName k ++ ".csv")) ∈ sheets₁.map (fun s => s.2.path s.1) ↔
      ∃ s : Sheet, s.name = variant.groupName k ∧ (d, s) ∈ sheets₁ := by
  have hpath : ∀ s : Sheet, s.name = variant.groupName k →
      s.path d = d.join (.ofString (variant.groupName k ++ ".csv")) := fun s hs =>
    Sheet.path_of_name hs d
  constructor
  · intro hmem
    obtain ⟨⟨d', s⟩, hs, heq⟩ := List.mem_map.1 hmem
    have hsame : (s.path d').same (Sheet.path ⟨variant.groupName k, [], []⟩ d) := by
      rw [heq, hpath _ rfl]
      exact Path.same_refl _
    obtain ⟨rfl, hname⟩ := Variant.eq_of_same_path (h.named _ hs).1 hd (h.slash_not_mem _ hs)
      (Variant.slash_not_mem_groupName hk) hsame
    exact ⟨s, hname, hs⟩
  · rintro ⟨s, hname, hs⟩
    exact List.mem_map.2 ⟨(d, s), hs, hpath s hname⟩

end Tables

/-! ## Two analyses -/

/-- Two successful analyses of one kind, with what they list, and no link below either output
directory. -/
structure BothSucceed (variant : Variant) (t₁ t₂ : FileTree) (s₁ s₂ : Settings) (r₁ r₂ : Report)
    (l₁ l₂ : Listing) : Prop where
  result₁ : (analyse t₁ s₁ variant).result = .ok r₁
  result₂ : (analyse t₂ s₂ variant).result = .ok r₂
  listing₁ : listFiles t₁ s₁ = .ok l₁
  listing₂ : listFiles t₂ s₂ = .ok l₂
  links₁ : ∀ d ∈ variant.sheetDirs s₁.outputDir, (t₁.makeDirs d).1.LinkFreeBelow s₁.outputDir
  links₂ : ∀ d ∈ variant.sheetDirs s₂.outputDir, (t₂.makeDirs d).1.LinkFreeBelow s₂.outputDir

/-- Two analyses have both written a file, with the same content, or neither has. -/
def SameFile (o₁ o₂ : Outcome) (r₁ r₂ : Report) (p₁ p₂ : Path) : Prop :=
  (p₁ ∈ r₁.written ∧ p₂ ∈ r₂.written ∧ ∃ content,
    o₁.tree.readFile p₁ = .ok content ∧ o₂.tree.readFile p₂ = .ok content) ∨
  (p₁ ∉ r₁.written ∧ p₂ ∉ r₂.written)

/-- Two analyses differ in one file that the other leaves out. -/
structure OneMoreLeftOut (o₁ o₂ : Outcome) (r₁ r₂ : Report) (file : Path) : Prop where
  /-- The files written are the same. -/
  written_eq : r₂.written = r₁.written
  /-- So are their contents. -/
  readFile : ∀ p ∈ r₁.written, ∃ content,
    o₁.tree.readFile p = .ok content ∧ o₂.tree.readFile p = .ok content
  /-- So is the number of files used. -/
  used_eq : r₂.used = r₁.used
  /-- So is the number of configurations. -/
  configurations_eq : r₂.configurations = r₁.configurations
  /-- The file is counted among those listed. -/
  collected_eq : r₂.collected = r₁.collected + 1
  /-- It is counted among those left out. -/
  skipped_eq : r₂.skipped = r₁.skipped + 1
  /-- It is reported as left out, at one place among the others. -/
  exists_warning : ∃ l l' cause, o₁.skipped = l ++ l' ∧ o₂.skipped = l ++ (file, cause) :: l'

section Analyses

variable {variant : Variant} {t₁ t₂ : FileTree} {s₁ s₂ settings : Settings} {r₁ r₂ : Report}
  {l₁ l₂ : Listing} {k : ConfigKey} {before after : List Path} {file : Path}

/-- **The files of a group follow from the usable files of the group.** -/
lemma BothSucceed.sameFile (h : BothSucceed variant t₁ t₂ s₁ s₂ r₁ r₂ l₁ l₂) (hk : k.OfFileName)
    (husable : variant.SameUsable (variant.sameGroup k) t₁ t₂ l₁.files l₂.files) :
    ∀ p ∈ (variant.groupPaths s₁.outputDir k).zip (variant.groupPaths s₂.outputDir k),
      SameFile (analyse t₁ s₁ variant) (analyse t₂ s₂ variant) r₁ r₂ p.1 p.2 := by
  have hfiles := husable.usableFiles_eq h.listing₁ h.listing₂
  obtain ⟨_, sheets₁, hlist₁, -, htables₁, hwritten₁, hheld₁⟩ := analyse_tables h.result₁
  obtain ⟨_, sheets₂, hlist₂, -, htables₂, hwritten₂, hheld₂⟩ := analyse_tables h.result₂
  obtain rfl := Except.ok.inj (hlist₁.symm.trans h.listing₁)
  obtain rfl := Except.ok.inj (hlist₂.symm.trans h.listing₂)
  intro p hp
  rw [Variant.groupPaths, Variant.groupPaths, List.zip_map] at hp
  obtain ⟨d, hd, rfl⟩ := List.mem_map.1 hp
  obtain ⟨hd₁, hd₂⟩ := List.of_mem_zip hd
  have hsheets := htables₁.mem_congr htables₂ hk hfiles d hd
  have hmem₁ := htables₁.mem_paths hk hd₁
  have hmem₂ := htables₂.mem_paths hk hd₂
  rw [← hwritten₁] at hmem₁
  rw [← hwritten₂] at hmem₂
  by_cases hs : ∃ s : Sheet, s.name = variant.groupName k ∧ (d.1, s) ∈ sheets₁
  · obtain ⟨s, hname, hs⟩ := hs
    have hs' := (hsheets s hname).1 hs
    have hpath : ∀ directory : Path, directory.join (.ofString (variant.groupName k ++ ".csv")) =
        s.path directory := fun directory => (Sheet.path_of_name hname directory).symm
    refine .inl ⟨hmem₁.2 ⟨s, hname, hs⟩, hmem₂.2 ⟨s, hname, hs'⟩, s.content, ?_, ?_⟩
    · simp only [Prod.map_fst, hpath]
      exact hheld₁ h.links₁ (d.1, s) hs
    · simp only [Prod.map_snd, hpath]
      exact hheld₂ h.links₂ (d.2, s) hs'
  · refine .inr ⟨fun hmem => hs (hmem₁.1 hmem), fun hmem => ?_⟩
    obtain ⟨s, hname, hs'⟩ := hmem₂.1 hmem
    exact hs ⟨s, hname, (hsheets s hname).2 hs'⟩

/-- One more file that cannot be used makes one more rejection. -/
lemma rejections_harvest_insert (variant : Variant) (out : Path)
    (hsame : ∀ f ∈ before ++ after, t₂.readFile f = t₁.readFile f)
    (hfile : ∀ run, runOf file = .ok run → variant.fault? t₂ file ≠ none) :
    ∃ l l' cause,
      rejections (harvest t₁ variant out (before ++ after)).findings = l ++ l' ∧
      rejections (harvest t₂ variant out (before ++ file :: after)).findings =
        l ++ (file, cause) :: l' := by
  have hfault : ∀ f ∈ before ++ after, variant.fault? t₂ f = variant.fault? t₁ f := fun f hf =>
    Variant.fault?_congr (hsame f hf)
  cases variant <;> exact rejections_insert _ hfault hfile

/-- **A file that cannot be used leaves no trace** but in the counts of the files listed and left
out, and in one warning. -/
lemma BothSucceed.oneMoreLeftOut
    (h : BothSucceed variant t₁ t₂ settings settings r₁ r₂ l₁ l₂)
    (hstrict : settings.strict = false)
    (hadds : variant.AddsUnusable t₁ t₂ l₁.files l₂.files file) :
    OneMoreLeftOut (analyse t₁ settings variant) (analyse t₂ settings variant) r₁ r₂ file := by
  obtain ⟨before, after, hfiles₁, hfiles₂⟩ := hadds.inserts.exists_place h.listing₁ h.listing₂
  have hsame := hadds.readFile_eq
  rw [hfiles₁] at hsame
  have husable : variant.usableFiles t₁ l₁.files (fun _ => true) =
      variant.usableFiles t₂ l₂.files fun _ => true := by
    rw [hfiles₁, hfiles₂, Variant.usableFiles_insert hadds.unusable,
      Variant.usableFiles_congr hsame]
  obtain ⟨hplan, hused⟩ := harvest_congr settings.outputDir husable
  obtain ⟨hcollected₁, hused₁, hskipped₁, hconfigs₁⟩ :=
    counts_analyse_lenient hstrict h.listing₁ h.result₁
  obtain ⟨hcollected₂, hused₂, hskipped₂, hconfigs₂⟩ :=
    counts_analyse_lenient hstrict h.listing₂ h.result₂
  obtain ⟨l, l', cause, hl₁, hl₂⟩ :=
    rejections_harvest_insert variant settings.outputDir hsame hadds.unusable
  rw [← hfiles₁] at hl₁
  rw [← hfiles₂] at hl₂
  obtain ⟨_, sheets₁, hlist₁, hsheets₁, -, hwritten₁, hheld₁⟩ := analyse_tables h.result₁
  obtain ⟨_, sheets₂, hlist₂, hsheets₂, -, hwritten₂, hheld₂⟩ := analyse_tables h.result₂
  obtain rfl := Except.ok.inj (hlist₁.symm.trans h.listing₁)
  obtain rfl := Except.ok.inj (hlist₂.symm.trans h.listing₂)
  have hsheets : sheets₂ = sheets₁ := by rw [← hsheets₁, ← hsheets₂, hplan]
  subst hsheets
  refine {
    written_eq := by rw [hwritten₁, hwritten₂]
    readFile := fun p hp => ?_
    used_eq := by rw [hused₁, hused₂, hused]
    configurations_eq := by rw [hconfigs₁, hconfigs₂, hplan]
    collected_eq := ?_
    skipped_eq := ?_
    exists_warning := ⟨l, l', cause, ?_, ?_⟩ }
  · rw [hwritten₁] at hp
    obtain ⟨s, hs, rfl⟩ := List.mem_map.1 hp
    exact ⟨s.2.content, hheld₁ h.links₁ s hs, hheld₂ h.links₂ s hs⟩
  · rw [hcollected₁, hcollected₂, hfiles₁, hfiles₂]
    simp only [List.length_append, List.length_cons]
    omega
  · rw [hskipped₁, hskipped₂, hl₁, hl₂]
    simp only [List.length_append, List.length_cons]
    omega
  · rw [skipped_analyse_lenient hstrict h.listing₁, hl₁]
  · rw [skipped_analyse_lenient hstrict h.listing₂, hl₂]

/-- **Independence of groups, and of files that cannot be used.** Let analyses of one kind of two
trees, of any settings, succeed, with no link below either output directory. If the usable files of
the group of a configuration have the same names and contents in both, both write the files of the
group with the same content, or neither writes them, whatever other files there are. If the
settings are the same and lenient, and the one tree lists the files of the other, with the same
contents, and one more that cannot be used, the files written, their contents, and the numbers of
files read and of configurations are the same; the numbers of files listed and left out grow by
one, and one file more is reported as left out.

**Proof sketch.** The order of a listing is that of the names, so that the same files stand in the
same order (`Variant.SameUsable.usableFiles_eq`, `InsertsFile.exists_place`). What is read for a
group follows from its usable files, and a table from what is read for its group. What is rejected
does not enter any table; in the order of the rejections the new one has its place among the names
or in the group of its configuration. -/
theorem analyse_independent (h : BothSucceed variant t₁ t₂ s₁ s₂ r₁ r₂ l₁ l₂) :
    (∀ k : ConfigKey, k.OfFileName →
      variant.SameUsable (variant.sameGroup k) t₁ t₂ l₁.files l₂.files →
      ∀ p ∈ (variant.groupPaths s₁.outputDir k).zip (variant.groupPaths s₂.outputDir k),
        SameFile (analyse t₁ s₁ variant) (analyse t₂ s₂ variant) r₁ r₂ p.1 p.2) ∧
    ∀ file : Path, s₁ = s₂ → s₁.strict = false →
      variant.AddsUnusable t₁ t₂ l₁.files l₂.files file →
      OneMoreLeftOut (analyse t₁ s₁ variant) (analyse t₂ s₂ variant) r₁ r₂ file := by
  refine ⟨fun k hk husable => h.sameFile hk husable, ?_⟩
  rintro file rfl hstrict hadds
  exact h.oneMoreLeftOut hstrict hadds

end Analyses

/-! ## The tree with one more file -/

/-- The stray file is new in the input directory of the sample tree, and cannot be used. -/
lemma addsUnusable_strayTree (variant : Variant) :
    variant.AddsUnusable sampleTree strayTree [sampleFile] [sampleFile, strayFile] strayFile := by
  have hname : IsName (Text.encode "x") := by decide
  have hrun : Run.ofName (Text.decodeLossy (Text.encode "x")) = .error .missingRepetition := by
    decide
  exact addsUnusable_set noLinks_sampleTree wellFormed_sampleTree opens_sampleTree hname
    (by decide) (by decide) (by decide) (fun run h => by simp [hrun] at h) listFiles_sampleTree
    listFiles_strayTree

/-- In the tree with a stray file the usable files are those of the sample tree. -/
lemma usableFiles_strayTree (variant : Variant) (among : ConfigKey → Bool) :
    variant.usableFiles strayTree [sampleFile, strayFile] among =
      variant.usableFiles sampleTree [sampleFile] among := by
  have hinsert : variant.usableFiles strayTree ([sampleFile] ++ strayFile :: []) among =
      variant.usableFiles strayTree ([sampleFile] ++ []) among :=
    Variant.usableFiles_insert (addsUnusable_strayTree variant).unusable
  exact hinsert.trans (Variant.usableFiles_congr (addsUnusable_strayTree variant).readFile_eq)

/-- The analysis of throughput of the tree with a stray file succeeds. -/
lemma exists_report_strayTree :
    ∃ report, (analyse strayTree sampleSettings .throughput).result = .ok report := by
  obtain ⟨s, hname, hsheets⟩ := sheets_sampleTree
  have hfile : s.path sampleSettings.outputDir = .ofString "out/a__c.csv" :=
    Sheet.path_of_name hname _
  obtain ⟨hplan, -⟩ := harvest_congr sampleSettings.outputDir
    (usableFiles_strayTree .throughput fun _ => true)
  have hopen : (strayTree.set [Text.encode "w", Text.encode "out"] .dir).Opens
      sampleSettings.outputDir [Text.encode "w", Text.encode "out"] :=
    opens_outputDir (by decide) (by decide)
  exact exists_report_of_sheet listFiles_strayTree (by rw [hplan, hsheets]) hfile rfl
    makeDirs_strayTree (hopen.writeFile_join isNameIn_sampleTable (by decide))

/-- A stray file next to the result file leaves the table as it is, and is left out. -/
theorem analyse_independent_strayTree :
    ∃ r₁ r₂, (analyse sampleTree sampleSettings .throughput).result = .ok r₁ ∧
      (analyse strayTree sampleSettings .throughput).result = .ok r₂ ∧
      SameFile (analyse sampleTree sampleSettings .throughput)
        (analyse strayTree sampleSettings .throughput) r₁ r₂ (.ofString "out/a__c.csv")
        (.ofString "out/a__c.csv") ∧
      OneMoreLeftOut (analyse sampleTree sampleSettings .throughput)
        (analyse strayTree sampleSettings .throughput) r₁ r₂ strayFile := by
  obtain ⟨r₁, h₁⟩ := exists_report_throughput
  obtain ⟨r₂, h₂⟩ := exists_report_strayTree
  have hboth : BothSucceed .throughput sampleTree strayTree sampleSettings sampleSettings r₁ r₂
      ⟨[sampleFile], []⟩ ⟨[sampleFile, strayFile], []⟩ := {
    result₁ := h₁
    result₂ := h₂
    listing₁ := listFiles_sampleTree
    listing₂ := listFiles_strayTree
    links₁ := fun _ _ => linkFreeBelow_makeDirs noLinks_sampleTree
    links₂ := fun _ _ => linkFreeBelow_makeDirs noLinks_strayTree }
  obtain ⟨hgroups, hinsert⟩ := analyse_independent hboth
  refine ⟨r₁, r₂, h₁, h₂, ?_, hinsert strayFile rfl rfl (addsUnusable_strayTree .throughput)⟩
  refine hgroups sampleRun.config (Run.ofFileName_of_ofName runOf_sampleFile)
    (.anyOrder wellFormed_sampleTree wellFormed_strayTree fun usable => ?_)
    (.ofString "out/a__c.csv", .ofString "out/a__c.csv") (List.mem_singleton.2 rfl)
  rw [usableFiles_strayTree]

end BenchTally
