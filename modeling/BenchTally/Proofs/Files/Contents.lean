import BenchTally.Proofs.Files.Earlier

set_option autoImplicit false
set_option relaxedAutoImplicit false

/-!
# What written files hold

In a well-formed tree a file can be read where it was written, through whatever links its path
leads, and it is read until its place is written to again.

## Main results

* `FileTree.WellFormed.walk_existing` — a path that is followed to its end leads to a directory or
  to a file.
* `FileTree.WellFormed.makeDirs` — a well-formed tree stays so when directories are created.
* `FileTree.WellFormed.writeFile` — what a written file changes.
-/

namespace BenchTally

namespace FileTree

variable {t t' : FileTree} {p q : Path} {here place : Place} {links l : Nat} {content : Bytes}

/-- **The end of a path.** What is followed to its end is a directory or a file.

**Proof sketch.** Induction on the walk. A link is never its end, and what stands above a directory
is one. -/
lemma WellFormed.walk_existing (h : t.WellFormed) {ps : List Bytes}
    (hhere : t.node? here = some .dir)
    (hwalk : t.walk true links here ps = .ok (.existing place l)) :
    t.node? place = some .dir ∨ ∃ c, t.node? place = some (.file c) := by
  fun_induction t.walk true links here ps with
  | case1 links here =>
    simp only [Except.ok.injEq, Target.existing.injEq] at hwalk
    exact .inl (hwalk.1 ▸ hhere)
  | case2 => simp at hwalk
  | case3 links here name rest hdir hstay ih => exact ih hhere hwalk
  | case4 links here rest hdir hstay ih => exact ih (h.dropLast hhere) hwalk
  | case5 => simp at hwalk
  | case6 => simp at hwalk
  | case7 => simp at hwalk
  | case8 links here name rest hdir hstay hup hlong next target hlink hlast => simp at hlast
  | case9 => simp at hwalk
  | case10 here name rest hdir hstay hup hlong next target hlink hlast links ih =>
    refine ih ?_ hwalk
    split_ifs
    · rfl
    · exact hhere
  | case11 links here name rest hdir hstay hup hlong next node hnode hlink ih =>
    cases node with
    | link target => exact (hnode target rfl).elim
    | dir => exact ih hlink hwalk
    | file content =>
      have hlast := walk_of_not_dir (by simp [hlink]) hwalk
      exact .inr ⟨content, hlast ▸ hlink⟩

/-- A well-formed tree stays so when directories are created. -/
lemma WellFormed.makeDirs (h : t.WellFormed) (p : Path) : (t.makeDirs p).1.WellFormed :=
  makeDirs_induction (fun ht hfree => ht.set hfree.dir hfree.isName (.inl rfl)) h p

/-- A file stands under a name in a directory. -/
lemma WellFormed.exists_concat (h : t.WellFormed) (hfile : t.node? place = some (.file content)) :
    ∃ above name, place = above ++ [name] ∧ t.node? above = some .dir ∧ IsName name := by
  rcases List.eq_nil_or_concat' place with rfl | ⟨above, name, rfl⟩
  · have hroot : t.node? [] = some .dir := rfl
    simp [hroot] at hfile
  · exact ⟨above, name, rfl, h.parent hfile, h.isName hfile⟩

/-- A tree in which a file was written at a path, and nothing else has changed. -/
structure PutFile (t t' : FileTree) (p : Path) (content : Bytes) (place : Place) : Prop where
  wellFormed : t'.WellFormed
  keepsWays : KeepsWays t t'
  placeOf : t'.placeOf p = .ok place
  node?_eq : ∀ x, t'.node? x = if x = place then some (.file content) else t.node? x

/-- What is written to the place of a file or of nothing. -/
lemma WellFormed.putFile (h : t.WellFormed) {above : Place} {name : Bytes}
    (habove : t.node? above = some .dir) (hname : IsName name)
    (hnode : t.node? (above ++ [name]) = none ∨ ∃ c, t.node? (above ++ [name]) = some (.file c))
    (hplace : (t.set (above ++ [name]) (.file content)).placeOf p = .ok (above ++ [name])) :
    PutFile t (t.set (above ++ [name]) (.file content)) p content (above ++ [name]) := by
  have hdir : t.node? (above ++ [name]) ≠ some .dir := by
    rcases hnode with hnone | ⟨c, hfile⟩
    · simp [hnone]
    · simp [hfile]
  have hlink : ∀ target, t.node? (above ++ [name]) ≠ some (.link target) := by
    rcases hnode with hnone | ⟨c, hfile⟩
    · simp [hnone]
    · simp [hfile]
  exact ⟨h.set habove hname (.inr hdir), keepsWays_set_file content (by simp) hdir hlink, hplace,
    fun x => node?_set t (by simp) x _⟩

/-- **What a written file changes.** The path leads to its place afterwards, where there was a file
or nothing before. -/
lemma WellFormed.writeFile (h : t.WellFormed) (hwrite : t.writeFile p content = .ok t') :
    ∃ place, PutFile t t' p content place := by
  unfold FileTree.writeFile at hwrite
  split at hwrite
  · simp at hwrite
  · rename_i above name hlocate
    simp only [Except.ok.injEq] at hwrite
    have hfree := isFree_of_locate hlocate
    have husable := isUsable_of_locate hlocate
    rw [locate_of_isUsable husable] at hlocate
    obtain ⟨l, hl⟩ := exists_walk_set_free (n := .file content) (by simp) hlocate
    have hstart : (t.set (above ++ [name]) (.file content)).startOf p = t.startOf p := rfl
    have hplace : (t.set (above ++ [name]) (.file content)).placeOf p = .ok (above ++ [name]) := by
      rw [FileTree.placeOf, locate_of_isUsable husable, hstart, hl]
    exact ⟨above ++ [name], hwrite ▸ h.putFile hfree.dir hfree.isName (.inl hfree.node?_eq_none)
      hplace⟩
  · rename_i place l hlocate
    have hplace : t.placeOf p = .ok place := by rw [FileTree.placeOf, hlocate]
    rw [locate_of_isUsable (isUsable_of_locate hlocate)] at hlocate
    rcases h.walk_existing (h.startOf p) hlocate with hdir | ⟨old, hfile⟩
    · simp [hdir] at hwrite
    · simp only [hfile, Except.ok.injEq] at hwrite
      obtain ⟨above, name, rfl, habove, hname⟩ := h.exists_concat hfile
      have hkeep : KeepsWays t (t.set (above ++ [name]) (.file content)) :=
        keepsWays_set_file content (by simp) (by simp [hfile]) (by simp [hfile])
      have hnew : (t.set (above ++ [name]) (.file content)).node? (above ++ [name]) =
          some (.file content) := by rw [node?_set t (by simp), if_pos rfl]
      exact ⟨above ++ [name], hwrite ▸ h.putFile habove hname (.inr ⟨old, hfile⟩)
        (placeOf_mono hkeep (fun _ _ => ⟨content, hnew⟩) hplace)⟩

namespace PutFile

/-- A written file is read. -/
lemma readFile (h : PutFile t t' p content place) : t'.readFile p = .ok content :=
  readFile_of_placeOf h.placeOf (by rw [h.node?_eq, if_pos rfl])

/-- **Other files.** What could be read before is still read, or is the file that was written. -/
lemma readFile_or (h : PutFile t t' p content place) {old : Bytes}
    (hread : t.readFile q = .ok old) :
    t'.readFile q = .ok old ∨ t'.readFile q = .ok content := by
  obtain ⟨x, hx, hfile⟩ := exists_placeOf_of_readFile hread
  by_cases hsame : x = place
  · have hnew : t'.node? x = some (.file content) := by rw [h.node?_eq, if_pos hsame]
    exact .inr (readFile_of_placeOf (placeOf_mono h.keepsWays (fun _ _ => ⟨_, hnew⟩) hx) hnew)
  · have hold : t'.node? x = some (.file old) := by rw [h.node?_eq, if_neg hsame, hfile]
    exact .inl (readFile_of_placeOf (placeOf_mono h.keepsWays (fun _ _ => ⟨_, hold⟩) hx) hold)

end PutFile

end FileTree

end BenchTally
