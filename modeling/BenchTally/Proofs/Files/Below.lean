import BenchTally.Proofs.Files.Change

set_option autoImplicit false
set_option relaxedAutoImplicit false

/-!
# Below a directory

## Main definitions

* `FileTree.LinkFreeBelow` — no link stands anywhere below the directory that a path leads to.

## Main results

* `FileTree.Opens.of_join` — without links, the directory of a name in a directory is where the name
  is.
* `FileTree.readFile_mono` — files that are kept can be read where the ways are kept.
* `FileTree.readFile_join_congr` — what is read from a file in a directory depends on nothing else.
-/

namespace BenchTally

namespace FileTree

variable {t t' : FileTree} {p : Path} {place : Place} {name : Bytes}

/-- No link stands below the directory that the path leads to. -/
def LinkFreeBelow (t : FileTree) (p : Path) : Prop :=
  ∀ place, t.Opens p place → ∀ rest target, t.node? (place ++ rest) ≠ some (.link target)

lemma LinkFreeBelow.linkFree (h : t.LinkFreeBelow p) : t.LinkFree p :=
  fun place hopen name target => h place hopen [name] target

/-- A tree without links has none below any directory. -/
lemma linkFreeBelow_makeDirs {q : Path} (h : ∀ x target, t.node? x ≠ some (.link target)) :
    (t.makeDirs q).1.LinkFreeBelow p :=
  fun place _ rest target hlink => h (place ++ rest) target ((gainsDirs_makeDirs t q).of_link hlink)

/-- Where the ways are kept and no links are made, there are still none. -/
lemma LinkFreeBelow.mono (h : t.LinkFreeBelow p) (hopen : t.Opens p place) (hkeep : KeepsWays t t')
    (hlink : ∀ x target, t'.node? x = some (.link target) → t.node? x = some (.link target)) :
    t'.LinkFreeBelow p := by
  intro place' hopen' rest target hnode
  obtain rfl := (hopen.mono hkeep).unique hopen'
  exact h place hopen rest target (hlink _ target hnode)

/-- Where directories are added there are still none. -/
lemma LinkFreeBelow.of_gainsDirs (h : t.LinkFreeBelow p) (hopen : t.Opens p place)
    (hgain : GainsDirs t t') : t'.LinkFreeBelow p :=
  h.mono hopen hgain.keepsWays fun _ _ => hgain.of_link

/-- Where the ways are kept, links that are not there were not there before. -/
lemma LinkFree.of_keepsWays (h : t'.LinkFree p) (hkeep : KeepsWays t t') : t.LinkFree p :=
  fun place hopen name target hnode =>
    h place (hopen.mono hkeep) name target (hkeep.link hnode)

lemma LinkFreeBelow.of_keepsWays (h : t'.LinkFreeBelow p) (hkeep : KeepsWays t t') :
    t.LinkFreeBelow p :=
  fun place hopen rest target hnode =>
    h place (hopen.mono hkeep) rest target (hkeep.link hnode)

/-- **The way to a directory in a directory.** Where no link stands in the way, the path of a name
in a directory leads to the place of that name. -/
lemma Opens.of_join (hname : IsName name) (hfree : t.LinkFree p)
    (h : t.Opens (p.join ⟨name⟩) place) :
    ∃ parent, t.Opens p parent ∧ place = parent ++ [name] := by
  obtain ⟨⟨l, hl⟩, hdir⟩ := h
  have hstart : t.startOf (p.join ⟨name⟩) = t.startOf p := by
    simp only [startOf, Path.isAbsolute_join hname.slash_not_mem]
  rw [hstart, walk_pieces_join t _ _ _ p hname.slash_not_mem] at hl
  rcases hwalk : t.walk true maxLinks (t.startOf p) p.pieces with
    e | ⟨parent, l'⟩ | ⟨directory, free⟩
  · simp [hwalk] at hl
  · have hparent : t.node? parent = some .dir := by
      by_contra hne
      simp [hwalk, walk, hne] at hl
    have hopen : t.Opens p parent := ⟨⟨l', hwalk⟩, hparent⟩
    refine ⟨parent, hopen, ?_⟩
    simp only [hwalk] at hl
    rw [walk_name hname (hfree parent hopen name), if_neg (not_not.2 hparent)] at hl
    split_ifs at hl
    · simp at hl
    · simp only [Except.ok.injEq, Target.existing.injEq] at hl
      exact hl.1.symm
  · simp [hwalk] at hl

/-- What has no links below it has none below the directories in it. -/
lemma LinkFreeBelow.join (hname : IsName name) (h : t.LinkFreeBelow p) :
    t.LinkFreeBelow (p.join ⟨name⟩) := by
  intro place hopen rest target
  obtain ⟨parent, hparent, rfl⟩ := hopen.of_join hname h.linkFree
  rw [List.append_assoc]
  exact h parent hparent ([name] ++ rest) target

/-- What is read at a path is the content of the file at its place. -/
lemma node?_of_readFile {content : Bytes} (hplace : t.placeOf p = .ok place)
    (hread : t.readFile p = .ok content) : t.node? place = some (.file content) := by
  simp only [readFile, hplace] at hread
  split at hread
  · rename_i content' hnode
    rw [hnode, Except.ok.inj hread]
  · simp at hread
  · simp at hread

/-- What can be read has a place. -/
lemma exists_placeOf_of_readFile {content : Bytes} (hread : t.readFile p = .ok content) :
    ∃ place, t.placeOf p = .ok place ∧ t.node? place = some (.file content) := by
  cases hplace : t.placeOf p with
  | error e => simp [readFile, hplace] at hread
  | ok place => exact ⟨place, rfl, node?_of_readFile hplace hread⟩

/-- A place is where a path leads to. -/
lemma exists_locate_of_placeOf (h : t.placeOf p = .ok place) :
    ∃ l, t.locate true p = .ok (.existing place l) := by
  unfold placeOf at h
  split at h
  · rename_i place' l hlocate
    exact ⟨l, Except.ok.inj h ▸ hlocate⟩
  · simp at h
  · simp at h

/-- **The place of a file in a directory.** Where no link stands in the way, the path of a name in
a directory leads to the place of that name; neither the path nor the name is too long. -/
lemma exists_opens_of_placeOf {x : Place} (hname : IsName name) (hfree : t.LinkFree p)
    (h : t.placeOf (p.join ⟨name⟩) = .ok x) :
    ∃ place, t.Opens p place ∧ x = place ++ [name] ∧ IsNameIn p name := by
  obtain ⟨l, hl⟩ := exists_locate_of_placeOf h
  obtain ⟨place, hopen⟩ := exists_opens_of_locate_join hname.slash_not_mem hl
  have husable := isUsable_of_locate hl
  obtain ⟨l', hl'⟩ := hopen.locate_join hname.slash_not_mem husable true
  rw [hl', walk_name hname (hfree place hopen name), if_neg (not_not.2 hopen.2)] at hl
  split_ifs at hl with hlong
  · simp at hl
  · simp only [Except.ok.injEq, Target.existing.injEq] at hl
    exact ⟨place, hopen, hl.1.symm, hname, Nat.not_lt.1 hlong, husable⟩

/-- A path leads to the same place where the ways are kept and a file there is still a file. -/
lemma placeOf_mono (hkeep : KeepsWays t t')
    (hend : ∀ c, t.node? place = some (.file c) → ∃ c', t'.node? place = some (.file c'))
    (h : t.placeOf p = .ok place) : t'.placeOf p = .ok place := by
  obtain ⟨l, hl⟩ := exists_locate_of_placeOf h
  have husable := isUsable_of_locate hl
  have hstart : t'.startOf p = t.startOf p := by simp [startOf, hkeep.workDir_eq]
  rw [locate_of_isUsable husable] at hl
  rw [placeOf, locate_of_isUsable husable, hstart, walk_mono hkeep hl hend]

/-- What is read at a path that leads to a file is its content. -/
lemma readFile_of_placeOf {content : Bytes} (hplace : t.placeOf p = .ok place)
    (hfile : t.node? place = some (.file content)) : t.readFile p = .ok content := by
  simp only [readFile, hplace, hfile]

/-- **Files that are kept can be read** where the ways are kept. -/
lemma readFile_mono {content : Bytes} (hkeep : KeepsWays t t')
    (hnode : t'.node? place = t.node? place) (hplace : t.placeOf p = .ok place)
    (hread : t.readFile p = .ok content) : t'.readFile p = .ok content := by
  have hfile : t'.node? place = some (.file content) :=
    hnode.trans (node?_of_readFile hplace hread)
  exact readFile_of_placeOf (placeOf_mono hkeep (fun _ _ => ⟨content, hfile⟩) hplace) hfile

/-- What can be read still can when directories are added. -/
lemma GainsDirs.readFile {content : Bytes} (h : GainsDirs t t')
    (hread : t.readFile p = .ok content) : t'.readFile p = .ok content := by
  obtain ⟨place, hplace, hfile⟩ := exists_placeOf_of_readFile hread
  exact readFile_mono h.keepsWays ((h.node? hfile).trans hfile.symm) hplace hread

/-- **What a file in a directory holds** depends on what stands at the place of its name only. -/
lemma readFile_join_congr (hopen : t.Opens p place) (hopen' : t'.Opens p place)
    (hname : IsName name) (hlink : ∀ target, t.node? (place ++ [name]) ≠ some (.link target))
    (hnode : t'.node? (place ++ [name]) = t.node? (place ++ [name])) :
    t'.readFile (p.join ⟨name⟩) = t.readFile (p.join ⟨name⟩) := by
  have hlink' : ∀ target, t'.node? (place ++ [name]) ≠ some (.link target) := fun target => by
    rw [hnode]
    exact hlink target
  by_cases husable : IsUsable (p.join ⟨name⟩)
  · obtain ⟨l, hl⟩ := hopen.locate_join hname.slash_not_mem husable true
    obtain ⟨l', hl'⟩ := hopen'.locate_join hname.slash_not_mem husable true
    simp only [readFile, placeOf, hl, hl', walk_name hname hlink, walk_name hname hlink',
      if_neg (not_not.2 hopen.2), if_neg (not_not.2 hopen'.2), hnode]
    split_ifs
    · rfl
    · rfl
    · simp only [hnode]
  · -- A path that cannot be looked up fails in the same way everywhere.
    have hlocate : t'.locate true (p.join ⟨name⟩) = t.locate true (p.join ⟨name⟩) := by
      unfold locate
      split_ifs with hnil hzero hlong
      · rfl
      · rfl
      · rfl
      · exact absurd ⟨hnil, hzero, Nat.not_lt.1 hlong⟩ husable
    have hnone : ∀ target, t.locate true (p.join ⟨name⟩) ≠ .ok target := fun target h =>
      husable (isUsable_of_locate h)
    unfold readFile placeOf
    rw [hlocate]
    cases h : t.locate true (p.join ⟨name⟩) with
    | error e => rfl
    | ok target => exact absurd h (hnone target)

end FileTree

end BenchTally
