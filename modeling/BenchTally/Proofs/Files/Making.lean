import BenchTally.Proofs.Files.Earlier

set_option autoImplicit false
set_option relaxedAutoImplicit false

/-!
# What can be made in a directory

A name in a directory is free, or stands for a directory or a file there. This decides what becomes
of creating a directory or writing a file under it.

## Main definitions

* `FileTree.NamesNew` — a path that a directory can be created at.

## Main results

* `FileTree.opens_workDir`, `FileTree.Opens.join`, `FileTree.Opens.join_here` — paths that lead to
  directories, name by name.
* `FileTree.Opens.makeDirs`, `FileTree.Opens.makeDirs_join` — creating a directory that is there, or
  one under a free name.
* `FileTree.makeDirs_join_join`, `FileTree.makeDirs_join_here` — creating a directory, or asking for
  a dot, below a free name.
* `FileTree.Opens.makeDirs_join_of_file` — no directory is created in the place of a file.
* `FileTree.Opens.writeFile_join`, `FileTree.Opens.writeFile_join_of_file` — a file under a free
  name, and one with a new content.
-/

namespace BenchTally

namespace FileTree

variable {t : FileTree} {p : Path} {here place : Place} {name : Bytes} {links l : Nat}

/-! ## Paths that lead to directories -/

/-- The empty path stands for the working directory, as far as names are joined to it. -/
lemma opens_workDir (hdir : t.node? t.workDir = some .dir) : t.Opens ⟨[]⟩ t.workDir := by
  refine ⟨⟨maxLinks, ?_⟩, hdir⟩
  have hpieces : Path.pieces ⟨[]⟩ = [[]] := Text.splitOn_nil _
  have hstart : t.startOf ⟨[]⟩ = t.workDir := rfl
  rw [hpieces, hstart, walk, if_neg (not_not.2 hdir), if_pos (.inl rfl), walk]

/-- The path of a directory in a directory. -/
lemma Opens.join (hopen : t.Opens p place) (hname : IsNameIn p name)
    (hdir : t.node? (place ++ [name]) = some .dir) :
    t.Opens (p.join ⟨name⟩) (place ++ [name]) := by
  obtain ⟨⟨l, hl⟩, hplace⟩ := hopen
  have hstart : t.startOf (p.join ⟨name⟩) = t.startOf p := by
    simp only [startOf, Path.isAbsolute_join hname.slash_not_mem]
  refine ⟨⟨l, ?_⟩, hdir⟩
  rw [hstart, walk_pieces_join t _ _ _ p hname.slash_not_mem, hl]
  dsimp only
  rw [walk_name hname.toIsName (by simp [hdir]), if_neg (not_not.2 hplace),
    if_neg (Nat.not_lt.2 hname.length_le), if_neg (by simp [hdir])]

/-- A dot behind the path of a directory. -/
lemma Opens.join_here (hopen : t.Opens p place) : t.Opens (p.join ⟨Path.here⟩) place := by
  obtain ⟨⟨l, hl⟩, hdir⟩ := hopen
  have hslash : Path.slash ∉ Path.here := by decide
  have hstart : t.startOf (p.join ⟨Path.here⟩) = t.startOf p := by
    simp only [startOf, Path.isAbsolute_join hslash]
  refine ⟨⟨l, ?_⟩, hdir⟩
  rw [hstart, walk_pieces_join t _ _ _ p hslash, hl]
  dsimp only
  rw [walk, if_neg (not_not.2 hdir), if_pos (.inr rfl), walk]

/-- A name in a directory is free, or leads to what stands there. -/
lemma Opens.locate_name (hopen : t.Opens p place) (hname : IsNameIn p name)
    (hlink : ∀ target, t.node? (place ++ [name]) ≠ some (.link target)) (b : Bool) :
    ∃ l, t.locate b (p.join ⟨name⟩) =
      if t.node? (place ++ [name]) = none then .ok (.free place name)
      else .ok (.existing (place ++ [name]) l) := by
  obtain ⟨l, hl⟩ := hopen.locate_join hname.slash_not_mem hname.isUsable b
  refine ⟨l, ?_⟩
  rw [hl, walk_name hname.toIsName hlink, if_neg (not_not.2 hopen.2),
    if_neg (Nat.not_lt.2 hname.length_le)]

/-- A name in a directory that is free or stands for a file is not seen to be a directory. -/
lemma Opens.isDir_join_eq_false (hopen : t.Opens p place) (hname : IsNameIn p name)
    (hlink : ∀ target, t.node? (place ++ [name]) ≠ some (.link target))
    (hdir : t.node? (place ++ [name]) ≠ some .dir) : t.isDir (p.join ⟨name⟩) = false := by
  obtain ⟨l, hl⟩ := hopen.locate_name hname hlink true
  by_cases hnone : t.node? (place ++ [name]) = none
  · rw [if_pos hnone] at hl
    simp [isDir, FileTree.placeOf, hl]
  · rw [if_neg hnone] at hl
    simp [isDir, FileTree.placeOf, hl, hdir]

/-! ## Creating directories -/

/-- A path at which a directory can be created: it can be looked up, has components, and has no
slash at its end. -/
structure NamesNew (p : Path) : Prop extends IsUsable p where
  components_ne : p.components ≠ []
  trimSlashes_eq : trimSlashes p = p

instance (p : Path) : Decidable (NamesNew p) :=
  decidable_of_iff (IsUsable p ∧ p.components ≠ [] ∧ trimSlashes p = p)
    ⟨fun ⟨husable, hcomponents, htrim⟩ => ⟨husable, hcomponents, htrim⟩,
      fun h => ⟨h.toIsUsable, h.components_ne, h.trimSlashes_eq⟩⟩

/-- The path of a name has no slash at its end. -/
lemma IsName.trimSlashes_join (h : IsName name) (p : Path) :
    trimSlashes (p.join ⟨name⟩) = p.join ⟨name⟩ := by
  obtain ⟨start, hstart⟩ : ∃ start, (p.join ⟨name⟩).bytes = start ++ name := by
    unfold Path.join
    rw [Path.isAbsolute_of_slash_not_mem h.slash_not_mem, if_neg (by decide)]
    split_ifs
    · exact ⟨p.bytes, rfl⟩
    · exact ⟨p.bytes ++ [Path.slash], by simp⟩
  have hlast : name.getLast h.ne_nil ≠ Path.slash := fun heq =>
    h.slash_not_mem (heq ▸ List.getLast_mem h.ne_nil)
  have hreverse : name.reverse = name.getLast h.ne_nil :: name.dropLast.reverse := by
    rw [← List.reverse_concat, List.dropLast_concat_getLast]
  rw [trimSlashes, hstart, List.reverse_append, hreverse, List.cons_append,
    List.dropWhile_cons_of_neg (by simpa using hlast), ← List.cons_append, ← hreverse,
    ← List.reverse_append, List.reverse_reverse, ← hstart]

/-- A directory can be created at the path of a name. -/
lemma IsNameIn.namesNew (h : IsNameIn p name) : NamesNew (p.join ⟨name⟩) where
  toIsUsable := h.isUsable
  components_ne := by simp [h.components_join]
  trimSlashes_eq := h.trimSlashes_join p

/-- Where a last link is not followed, something is found as well: the link. -/
lemma exists_walk_of_existing {ps : List Bytes}
    (hwalk : t.walk true links here ps = .ok (.existing place l)) :
    ∃ place' l', t.walk false links here ps = .ok (.existing place' l') := by
  fun_induction t.walk true links here ps with
  | case1 links here => exact ⟨here, links, by rw [walk]⟩
  | case2 => simp at hwalk
  | case3 links here name rest hdir hstay ih =>
    rw [walk, if_neg hdir, if_pos hstay]
    exact ih hwalk
  | case4 links here rest hdir hstay ih =>
    rw [walk, if_neg hdir, if_neg hstay, if_pos rfl]
    exact ih hwalk
  | case5 => simp at hwalk
  | case6 => simp at hwalk
  | case7 => simp at hwalk
  | case8 links here name rest hdir hstay hup hlong next target hlink hlast => simp at hlast
  | case9 => simp at hwalk
  | case10 here name rest hdir hstay hup hlong next target hlink hlast links ih =>
    simp only [next] at hlink
    rw [walk, if_neg hdir, if_neg hstay, if_neg hup, if_neg hlong]
    simp only [hlink]
    by_cases hrest : rest = [] ∧ (!false) = true
    · rw [if_pos hrest]
      exact ⟨_, _, rfl⟩
    · rw [if_neg hrest]
      exact ih hwalk
  | case11 links here name rest hdir hstay hup hlong next node hnode hlink ih =>
    simp only [next] at hlink ih hwalk
    rw [walk, if_neg hdir, if_neg hstay, if_neg hup, if_neg hlong]
    cases node with
    | link target => exact (hnode target rfl).elim
    | dir =>
      simp only [hlink]
      exact ih hwalk
    | file content =>
      simp only [hlink]
      exact ih hwalk

/-- **A directory that is there** is not created again. -/
lemma Opens.makeDirs (hopen : t.Opens p place) (hp : NamesNew p) :
    t.makeDirs p = (t, .ok ()) := by
  obtain ⟨⟨l, hl⟩, hdir⟩ := hopen
  obtain ⟨place', l', hwalk⟩ := exists_walk_of_existing hl
  have hmake : t.makeDir p = .error .exists := by
    rw [makeDir, if_neg (Nat.not_lt.2 hp.length_le), hp.trimSlashes_eq,
      locate_of_isUsable hp.toIsUsable, hwalk]
  simp [FileTree.makeDirs, hp.components_ne, ensureDir, hmake,
    isDir_of_opens ⟨⟨l, hl⟩, hdir⟩ hp.toIsUsable]

/-- A directory can be created under a free name. -/
lemma Opens.makeDir_join (hopen : t.Opens p place) (hname : IsNameIn p name)
    (hnone : t.node? (place ++ [name]) = none) :
    t.makeDir (p.join ⟨name⟩) = .ok (t.set (place ++ [name]) .dir) := by
  obtain ⟨l, hl⟩ := hopen.locate_name hname (by simp [hnone]) false
  rw [makeDir, if_neg (Nat.not_lt.2 hname.isUsable.length_le), hname.trimSlashes_join, hl,
    if_pos hnone]

/-- **A directory under a free name** is created there. -/
lemma Opens.makeDirs_join (hopen : t.Opens p place) (hname : IsNameIn p name)
    (hnone : t.node? (place ++ [name]) = none) :
    t.makeDirs (p.join ⟨name⟩) = (t.set (place ++ [name]) .dir, .ok ()) := by
  simp [FileTree.makeDirs, hname.components_join, ensureDir, hopen.makeDir_join hname hnone]

/-- **In the place of a file** no directory is created. -/
lemma Opens.makeDirs_join_of_file {content : Bytes} (hopen : t.Opens p place)
    (hname : IsNameIn p name) (hfile : t.node? (place ++ [name]) = some (.file content)) :
    t.makeDirs (p.join ⟨name⟩) = (t, .error .exists) := by
  obtain ⟨l, hl⟩ := hopen.locate_name hname (by simp [hfile]) false
  have hmake : t.makeDir (p.join ⟨name⟩) = .error .exists := by
    rw [makeDir, if_neg (Nat.not_lt.2 hname.isUsable.length_le), hname.trimSlashes_join, hl,
      if_neg (by simp [hfile])]
  have hdir := hopen.isDir_join_eq_false hname (by simp [hfile]) (by simp [hfile])
  simp [FileTree.makeDirs, hname.components_join, ensureDir, hmake, hdir]

/-! ## Directories below a free name -/

section Below

variable {above : Bytes} (hopen : t.Opens p place) (habove : IsNameIn p above)
  (hnone : t.node? (place ++ [above]) = none)

include hopen habove hnone

/-- Nothing is found below a free name. -/
lemma Opens.locate_join_join (hslash : Path.slash ∉ name)
    (husable : IsUsable ((p.join ⟨above⟩).join ⟨name⟩)) (b : Bool) :
    t.locate b ((p.join ⟨above⟩).join ⟨name⟩) = .error .notFound := by
  obtain ⟨⟨l, hl⟩, hdir⟩ := hopen
  have hstart : t.startOf ((p.join ⟨above⟩).join ⟨name⟩) = t.startOf p := by
    simp only [startOf, Path.isAbsolute_join hslash, Path.isAbsolute_join habove.slash_not_mem]
  rw [locate_of_isUsable husable, hstart, walk_pieces_join t _ _ _ _ hslash,
    walk_pieces_join t _ _ _ p habove.slash_not_mem, hl]
  dsimp only
  rw [walk_name habove.toIsName (by simp [hnone]), if_neg (not_not.2 hdir),
    if_neg (Nat.not_lt.2 habove.length_le), if_pos hnone]

/-- No directory can be created below a free name. -/
lemma Opens.ensureDir_join_join (hslash : Path.slash ∉ name)
    (hp : NamesNew ((p.join ⟨above⟩).join ⟨name⟩)) :
    t.ensureDir ((p.join ⟨above⟩).join ⟨name⟩) = .error .notFound := by
  have hlocate := hopen.locate_join_join habove hnone hslash hp.toIsUsable
  have hmake : t.makeDir ((p.join ⟨above⟩).join ⟨name⟩) = .error .notFound := by
    rw [makeDir, if_neg (Nat.not_lt.2 hp.length_le), hp.trimSlashes_eq, hlocate false]
  have hdir : t.isDir ((p.join ⟨above⟩).join ⟨name⟩) = false := by
    simp [isDir, FileTree.placeOf, hlocate true]
  simp [ensureDir, hmake, hdir]

end Below

section WorkDir

variable {above : Bytes} (hwork : t.node? t.workDir = some .dir) (habove : IsNameIn ⟨[]⟩ above)
  (hnone : t.node? (t.workDir ++ [above]) = none)

include hwork habove hnone

/-- **A directory below a free name** in the working directory is created after that name. -/
lemma makeDirs_join_join (hname : IsNameIn (Path.join ⟨[]⟩ ⟨above⟩) name)
    (hnone' : t.node? (t.workDir ++ [above] ++ [name]) = none) :
    t.makeDirs ((Path.join ⟨[]⟩ ⟨above⟩).join ⟨name⟩) =
      ((t.set (t.workDir ++ [above]) .dir).set (t.workDir ++ [above] ++ [name]) .dir, .ok ()) := by
  set made := t.set (t.workDir ++ [above]) .dir with hmade
  have hnode (x : Place) : made.node? x = if x = t.workDir ++ [above] then some .dir
      else t.node? x := node?_set t (by simp) x _
  have hcomponents : ((Path.join ⟨[]⟩ ⟨above⟩).join ⟨name⟩).components = [above, name] := by
    rw [hname.components_join, habove.components_join]
    rfl
  have hstart : t.startOf ((Path.join ⟨[]⟩ ⟨above⟩).join ⟨name⟩) = t.workDir := by
    simp only [startOf, Path.isAbsolute_join hname.slash_not_mem,
      Path.isAbsolute_join habove.slash_not_mem]
    rfl
  have hway : t.makeWay maxLinks t.workDir [above] = (made, .ok ()) := by
    rw [makeWay, walk_name habove.toIsName (by simp [hnone]), if_neg (not_not.2 hwork),
      if_neg (Nat.not_lt.2 habove.length_le), if_pos hnone]
    simp [makeWay, hmade]
  have hopen : made.Opens (Path.join ⟨[]⟩ ⟨above⟩) (t.workDir ++ [above]) :=
    ((opens_workDir hwork).mono (gainsDirs_set hnone).keepsWays).join habove
      (by rw [hnode, if_pos rfl])
  have hfirst := (opens_workDir hwork).ensureDir_join_join habove hnone hname.slash_not_mem
    hname.namesNew
  have hthen := hopen.makeDir_join hname (by rw [hnode, if_neg (by simp), hnone'])
  rw [FileTree.makeDirs, if_neg (by simp [hcomponents]), hfirst, hcomponents, hstart]
  simp only [List.dropLast_cons_cons, List.dropLast_singleton, hway, ensureDir, hthen]

/-- **A dot below a free name** is no way to create it. -/
lemma makeDirs_join_here (hp : NamesNew ((Path.join ⟨[]⟩ ⟨above⟩).join ⟨Path.here⟩)) :
    t.makeDirs ((Path.join ⟨[]⟩ ⟨above⟩).join ⟨Path.here⟩) = (t, .error .notFound) := by
  have hcomponents : ((Path.join ⟨[]⟩ ⟨above⟩).join ⟨Path.here⟩).components = [above] := by
    have habove' : (Path.join ⟨[]⟩ ⟨above⟩).components = [above] := by
      rw [habove.components_join]
      rfl
    rw [Path.components_join_here (by simp [habove']), habove']
  have hfirst := (opens_workDir hwork).ensureDir_join_join habove hnone
    (show Path.slash ∉ Path.here by decide) hp
  rw [FileTree.makeDirs, if_neg (by simp [hp.components_ne]), hfirst, hcomponents]
  simp only [List.dropLast_singleton, makeWay, hfirst]

end WorkDir

/-! ## Writing files -/

/-- **A file under a free name** is created there. -/
lemma Opens.writeFile_join (hopen : t.Opens p place) (hname : IsNameIn p name)
    (hnone : t.node? (place ++ [name]) = none) (content : Bytes) :
    t.writeFile (p.join ⟨name⟩) content = .ok (t.set (place ++ [name]) (.file content)) := by
  obtain ⟨l, hl⟩ := hopen.locate_name hname (by simp [hnone]) true
  rw [writeFile, hl, if_pos hnone]

/-- **A file that is there** gets the new content. -/
lemma Opens.writeFile_join_of_file {old : Bytes} (hopen : t.Opens p place)
    (hname : IsNameIn p name) (hfile : t.node? (place ++ [name]) = some (.file old))
    (content : Bytes) :
    t.writeFile (p.join ⟨name⟩) content = .ok (t.set (place ++ [name]) (.file content)) := by
  obtain ⟨l, hl⟩ := hopen.locate_name hname (by simp [hfile]) true
  rw [writeFile, hl, if_neg (by simp [hfile])]
  simp only [hfile]

end FileTree

end BenchTally
