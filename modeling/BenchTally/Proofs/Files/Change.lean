import BenchTally.Proofs.Files.Walk

set_option autoImplicit false
set_option relaxedAutoImplicit false

/-!
# Changes to a tree

## Main definitions

* `FileTree.GainsDirs` — a tree that has directories at places that were empty, and is otherwise
  the same.
* `FileTree.LinkFree` — no link stands in the directory that a path leads to.
* `FileTree.IsFree` — a free name in a directory.
* `FileTree.IsUsable` — a path that can be looked up.
* `FileTree.IsNameIn` — a name that a file or a directory at a path can have.

## Main results

* `FileTree.makeDirs_induction` — what the creation of a directory keeps.
* `FileTree.gainsDirs_makeDirs` — all that the creation of a directory does is to add directories.
* `FileTree.writeFile_join` — what a written file in a directory changes.
* `FileTree.readFile_join` — what is read from a file in a directory.
-/

namespace BenchTally

namespace FileTree

variable {t t' t'' : FileTree} {p : Path} {here place : Place} {name : Bytes} {links l : Nat}

/-! ## Directories that are added -/

/-- A tree that differs from an earlier one in directories at places that were empty. -/
structure GainsDirs (t t' : FileTree) : Prop where
  workDir_eq : t'.workDir = t.workDir
  node?_eq : ∀ x, t'.node? x = t.node? x ∨ (t.node? x = none ∧ t'.node? x = some .dir)

namespace GainsDirs

lemma refl (t : FileTree) : GainsDirs t t :=
  ⟨rfl, fun _ => .inl rfl⟩

lemma trans (h : GainsDirs t t') (h' : GainsDirs t' t'') : GainsDirs t t'' := by
  refine ⟨h'.workDir_eq.trans h.workDir_eq, fun x => ?_⟩
  rcases h.node?_eq x with hx | ⟨hnone, hdir⟩
  · rcases h'.node?_eq x with hx' | ⟨hnone', hdir'⟩
    · exact .inl (hx'.trans hx)
    · exact .inr ⟨hx ▸ hnone', hdir'⟩
  · rcases h'.node?_eq x with hx' | ⟨hnone', hdir'⟩
    · exact .inr ⟨hnone, hx'.trans hdir⟩
    · exact .inr ⟨hnone, hdir'⟩

/-- What stood somewhere still stands there. -/
lemma node? (h : GainsDirs t t') {x : Place} {n : Node} (hx : t.node? x = some n) :
    t'.node? x = some n := by
  rcases h.node?_eq x with heq | ⟨hnone, -⟩
  · rw [heq, hx]
  · simp [hnone] at hx

/-- A link that stands somewhere stood there before. -/
lemma of_link (h : GainsDirs t t') {x : Place} {target : Path}
    (hx : t'.node? x = some (.link target)) : t.node? x = some (.link target) := by
  rcases h.node?_eq x with heq | ⟨-, hdir⟩
  · rw [← heq, hx]
  · simp [hdir] at hx

/-- A place that is empty was empty before. -/
lemma of_none (h : GainsDirs t t') {x : Place} (hx : t'.node? x = none) : t.node? x = none := by
  rcases h.node?_eq x with heq | ⟨hnone, -⟩
  · rw [← heq, hx]
  · exact hnone

lemma keepsWays (h : GainsDirs t t') : KeepsWays t t' :=
  ⟨h.workDir_eq, h.node?, h.node?⟩

end GainsDirs

/-- A directory at an empty place is all that is added. -/
lemma gainsDirs_set (hfree : t.node? (here ++ [name]) = none) :
    GainsDirs t (t.set (here ++ [name]) .dir) := by
  refine ⟨rfl, fun x => ?_⟩
  rw [node?_set t (by simp)]
  split_ifs with hx
  · exact .inr ⟨hx ▸ hfree, rfl⟩
  · exact .inl rfl

/-- A path that leads to a free name leads to an empty place. -/
lemma node?_of_walk_free {b : Bool} {ps : List Bytes}
    (hwalk : t.walk b links here ps = .ok (.free place name)) :
    t.node? (place ++ [name]) = none := by
  fun_induction t.walk b links here ps with
  | case1 => simp at hwalk
  | case2 => simp at hwalk
  | case3 links here first rest hdir hstay ih => exact ih hwalk
  | case4 links here rest hdir hstay ih => exact ih hwalk
  | case5 => simp at hwalk
  | case6 links here first hdir hstay hup hlong next hfree =>
    simp only [Except.ok.injEq, Target.free.injEq] at hwalk
    obtain ⟨rfl, rfl⟩ := hwalk
    exact hfree
  | case7 => simp at hwalk
  | case8 => simp at hwalk
  | case9 => simp at hwalk
  | case10 here first rest hdir hstay hup hlong next target hlink hlast links ih => exact ih hwalk
  | case11 links here first rest hdir hstay hup hlong next node hnode hlink ih => exact ih hwalk

/-- **A path to a free name leads to what is put there**, unless that is a link.

**Proof sketch.** Induction on the walk. Whatever it meets before the free name is still there. -/
lemma exists_walk_set_free {b : Bool} {ps : List Bytes} {n : Node}
    (hn : ∀ target, n ≠ .link target) (hwalk : t.walk b links here ps = .ok (.free place name)) :
    ∃ l, (t.set (place ++ [name]) n).walk true links here ps =
      .ok (.existing (place ++ [name]) l) := by
  have hfree := node?_of_walk_free hwalk
  have hold : ∀ {x : Place} {m : Node}, t.node? x = some m →
      (t.set (place ++ [name]) n).node? x = some m := by
    intro x m hx
    rw [node?_set t (by simp), if_neg (by rintro rfl; simp [hfree] at hx), hx]
  fun_induction t.walk b links here ps with
  | case1 => simp at hwalk
  | case2 => simp at hwalk
  | case3 links here first rest hdir hstay ih =>
    rw [walk, if_neg (not_not.2 (hold (not_not.1 hdir))), if_pos hstay]
    exact ih hwalk
  | case4 links here rest hdir hstay ih =>
    rw [walk, if_neg (not_not.2 (hold (not_not.1 hdir))), if_neg hstay, if_pos rfl]
    exact ih hwalk
  | case5 => simp at hwalk
  | case6 links here first hdir hstay hup hlong next hnone =>
    simp only [Except.ok.injEq, Target.free.injEq] at hwalk
    obtain ⟨rfl, rfl⟩ := hwalk
    have hnew : (t.set (here ++ [first]) n).node? (here ++ [first]) = some n := by
      rw [node?_set t (by simp), if_pos rfl]
    refine ⟨links, ?_⟩
    rw [walk, if_neg (not_not.2 (hold (not_not.1 hdir))), if_neg hstay, if_neg hup,
      if_neg hlong]
    cases n with
    | link target => exact absurd rfl (hn target)
    | dir => simp [hnew, walk]
    | file content => simp [hnew, walk]
  | case7 => simp at hwalk
  | case8 => simp at hwalk
  | case9 => simp at hwalk
  | case10 here first rest hdir hstay hup hlong next target hlink hlast links ih =>
    have hlink' : (t.set (place ++ [name]) n).node? (here ++ [first]) = some (.link target) :=
      hold hlink
    rw [walk, if_neg (not_not.2 (hold (not_not.1 hdir))), if_neg hstay, if_neg hup,
      if_neg hlong]
    simpa [hlink'] using ih hwalk
  | case11 links here first rest hdir hstay hup hlong next node hnode hlink ih =>
    have hnode' : (t.set (place ++ [name]) n).node? (here ++ [first]) = some node := hold hlink
    rw [walk, if_neg (not_not.2 (hold (not_not.1 hdir))), if_neg hstay, if_neg hup,
      if_neg hlong]
    cases node with
    | link target => exact (hnode target rfl).elim
    | dir => simpa [hnode'] using ih hwalk
    | file content => simpa [hnode'] using ih hwalk

/-- **A free name stands in a directory** and is a name.

**Proof sketch.** Induction on the walk, which takes a step only from a directory and only under a
name. The pieces of links hold no slashes either. -/
lemma opens_of_walk_free {b : Bool} {ps : List Bytes} (hslash : ∀ c ∈ ps, Path.slash ∉ c)
    (hwalk : t.walk b links here ps = .ok (.free place name)) :
    t.node? place = some .dir ∧ IsName name := by
  fun_induction t.walk b links here ps with
  | case1 => simp at hwalk
  | case2 => simp at hwalk
  | case3 links here first rest hdir hstay ih =>
    exact ih (fun c hc => hslash c (by simp [hc])) hwalk
  | case4 links here rest hdir hstay ih => exact ih (fun c hc => hslash c (by simp [hc])) hwalk
  | case5 => simp at hwalk
  | case6 links here first hdir hstay hup hlong next hfree =>
    simp only [Except.ok.injEq, Target.free.injEq] at hwalk
    obtain ⟨rfl, rfl⟩ := hwalk
    rw [not_or] at hstay
    exact ⟨not_not.1 hdir, hstay.1, hstay.2, hup, hslash first (by simp)⟩
  | case7 => simp at hwalk
  | case8 => simp at hwalk
  | case9 => simp at hwalk
  | case10 here first rest hdir hstay hup hlong next target hlink hlast links ih =>
    refine ih (fun c hc => ?_) hwalk
    rcases List.mem_append.1 hc with hc | hc
    · exact Path.slash_not_mem_pieces target c hc
    · exact hslash c (by simp [hc])
  | case11 links here first rest hdir hstay hup hlong next node hnode hlink ih =>
    exact ih (fun c hc => hslash c (by simp [hc])) hwalk

/-- A place for something new: its name is free in a directory. -/
structure IsFree (t : FileTree) (place : Place) (name : Bytes) : Prop where
  dir : t.node? place = some .dir
  isName : IsName name
  node?_eq_none : t.node? (place ++ [name]) = none

lemma isFree_of_walk {b : Bool} {ps : List Bytes} (hslash : ∀ c ∈ ps, Path.slash ∉ c)
    (hwalk : t.walk b links here ps = .ok (.free place name)) : t.IsFree place name :=
  have hopen := opens_of_walk_free hslash hwalk
  ⟨hopen.1, hopen.2, node?_of_walk_free hwalk⟩

lemma isFree_of_locate {b : Bool} (h : t.locate b p = .ok (.free place name)) :
    t.IsFree place name := by
  unfold locate at h
  split_ifs at h
  exact isFree_of_walk (Path.slash_not_mem_pieces p) h

section Induction

variable {P : FileTree → Prop}
  (hset : ∀ {t place name}, P t → t.IsFree place name → P (t.set (place ++ [name]) .dir))

include hset

lemma makeDir_induction (ht : P t) (h : t.makeDir p = .ok t') : P t' := by
  unfold makeDir at h
  split_ifs at h
  split at h
  · rename_i directory name hlocate
    simp only [Except.ok.injEq] at h
    exact h ▸ hset ht (isFree_of_locate hlocate)
  · simp at h
  · simp at h

lemma ensureDir_induction (ht : P t) (h : t.ensureDir p = .ok t') : P t' := by
  unfold ensureDir at h
  split at h
  · rename_i made hmade
    simp only [Except.ok.injEq] at h
    exact h ▸ makeDir_induction hset ht hmade
  · split_ifs at h
    simp only [Except.ok.injEq] at h
    exact h ▸ ht

lemma makeWay_induction (ht : P t) {names : List Bytes} (hslash : ∀ c ∈ names, Path.slash ∉ c) :
    P (t.makeWay links here names).1 := by
  fun_induction t.makeWay links here names with
  | case1 => exact ht
  | case2 => exact ht
  | case3 t links here name rest place links' hwalk hdir ih =>
    exact ih ht fun c hc => hslash c (by simp [hc])
  | case4 => exact ht
  | case5 t links here name rest directory free hwalk hsame next ih =>
    obtain ⟨rfl, rfl⟩ := hsame
    have hname : ∀ c ∈ [free], Path.slash ∉ c := fun c hc => hslash c (by simp_all)
    exact ih (hset ht (isFree_of_walk hname hwalk)) fun c hc => hslash c (by simp [hc])
  | case6 => exact ht

/-- **What the creation of directories keeps.** Whatever a new directory with a free name keeps is
kept by the creation of a directory and those on the way to it. -/
lemma makeDirs_induction (ht : P t) (p : Path) : P (t.makeDirs p).1 := by
  unfold makeDirs
  split_ifs
  · exact ht
  · split
    · rename_i made hmade
      exact ensureDir_induction hset ht hmade
    · have hslash : ∀ c ∈ p.components.dropLast, Path.slash ∉ c := fun c hc =>
        Path.slash_not_mem_components p c (List.dropLast_subset _ hc)
      have hway : P (t.makeWay maxLinks (t.startOf p) p.components.dropLast).1 :=
        makeWay_induction hset ht hslash
      split
      · rename_i way e hmade
        exact hmade ▸ hway
      · rename_i way hmade
        rw [hmade] at hway
        split
        · rename_i made hensure
          exact ensureDir_induction hset hway hensure
        · exact hway
    · exact ht

end Induction

/-- **Creating a directory only adds directories.** -/
lemma gainsDirs_makeDirs (t : FileTree) (p : Path) : GainsDirs t (t.makeDirs p).1 :=
  makeDirs_induction (fun h hfree => h.trans (gainsDirs_set hfree.node?_eq_none)) (.refl t) p

/-! ## Where writing breaks off -/

/-- Whatever is created, writing breaks off as before. -/
@[simp]
lemma leftOver?_makeDirs (t : FileTree) (p : Path) : (t.makeDirs p).1.leftOver? = t.leftOver? :=
  makeDirs_induction (P := fun made => made.leftOver? = t.leftOver?) (fun h _ => h) rfl p

/-- Whatever is written, writing breaks off as before. -/
lemma leftOver?_of_writeFile {content : Bytes} (h : t.writeFile p content = .ok t') :
    t'.leftOver? = t.leftOver? := by
  unfold writeFile at h
  split at h
  · simp at h
  · obtain rfl := Except.ok.inj h
    rfl
  · split at h
    · simp at h
    · obtain rfl := Except.ok.inj h
      rfl

/-! ## Files in a directory -/

/-- A file in the place of a file or of nothing keeps all ways. -/
lemma keepsWays_set_file {x : Place} (content : Bytes) (hx : x ≠ [])
    (hdir : t.node? x ≠ some .dir) (hlink : ∀ target, t.node? x ≠ some (.link target)) :
    KeepsWays t (t.set x (.file content)) := by
  refine ⟨rfl, fun {y} hy => ?_, fun {y target} hy => ?_⟩
  · rw [node?_set t hx, if_neg (by rintro rfl; exact hdir hy), hy]
  · rw [node?_set t hx, if_neg (by rintro rfl; exact hlink target hy), hy]

/-- A path that can be looked up. -/
structure IsUsable (p : Path) : Prop where
  ne_nil : p.bytes ≠ []
  zero_not_mem : 0 ∉ p.bytes
  length_le : p.bytes.length ≤ maxPath

instance (p : Path) : Decidable (IsUsable p) :=
  decidable_of_iff (p.bytes ≠ [] ∧ 0 ∉ p.bytes ∧ p.bytes.length ≤ maxPath)
    ⟨fun ⟨hnil, hzero, hlength⟩ => ⟨hnil, hzero, hlength⟩,
      fun h => ⟨h.ne_nil, h.zero_not_mem, h.length_le⟩⟩

lemma locate_of_isUsable (hp : IsUsable p) (b : Bool) :
    t.locate b p = t.walk b maxLinks (t.startOf p) p.pieces := by
  unfold locate
  rw [if_neg hp.ne_nil, if_neg hp.zero_not_mem, if_neg (Nat.not_lt.2 hp.length_le)]

lemma isUsable_of_locate {b : Bool} {target : Target} (h : t.locate b p = .ok target) :
    IsUsable p := by
  unfold locate at h
  split_ifs at h with hnil hzero hlong
  exact ⟨hnil, hzero, Nat.not_lt.1 hlong⟩

/-- A name that a file or a directory in the directory at a path can have. -/
structure IsNameIn (p : Path) (name : Bytes) : Prop extends IsName name where
  length_le : name.length ≤ maxName
  isUsable : IsUsable (p.join ⟨name⟩)

instance (p : Path) (name : Bytes) : Decidable (IsNameIn p name) :=
  decidable_of_iff (IsName name ∧ name.length ≤ maxName ∧ IsUsable (p.join ⟨name⟩))
    ⟨fun ⟨hname, hlength, husable⟩ => ⟨hname, hlength, husable⟩,
      fun h => ⟨h.toIsName, h.length_le, h.isUsable⟩⟩

/-- The place that a path leads to. -/
lemma Opens.placeOf (hopen : t.Opens p place) (husable : IsUsable p) :
    t.placeOf p = .ok place := by
  obtain ⟨⟨l, hl⟩, -⟩ := hopen
  rw [FileTree.placeOf, locate_of_isUsable husable, hl]

/-- A name in a directory is looked up in the place of the directory. -/
lemma Opens.locate_join (hopen : t.Opens p place) (hslash : Path.slash ∉ name)
    (husable : IsUsable (p.join ⟨name⟩)) (b : Bool) :
    ∃ l, t.locate b (p.join ⟨name⟩) = t.walk b l place [name] := by
  obtain ⟨⟨l, hl⟩, -⟩ := hopen
  have hstart : t.startOf (p.join ⟨name⟩) = t.startOf p := by
    simp only [startOf, Path.isAbsolute_join hslash]
  exact ⟨l, by rw [locate_of_isUsable husable, hstart, walk_pieces_join t _ _ _ p hslash, hl]⟩

/-- What can be looked up below a path stands in the directory that the path leads to. -/
lemma exists_opens_of_locate_join {target : Target} (hslash : Path.slash ∉ name)
    (h : t.locate true (p.join ⟨name⟩) = .ok target) : ∃ place, t.Opens p place := by
  have hstart : t.startOf (p.join ⟨name⟩) = t.startOf p := by
    simp only [startOf, Path.isAbsolute_join hslash]
  rw [locate_of_isUsable (isUsable_of_locate h), hstart, walk_pieces_join t _ _ _ p hslash] at h
  rcases hwalk : t.walk true maxLinks (t.startOf p) p.pieces with e | ⟨place, l⟩ | ⟨directory, free⟩
  · simp [hwalk] at h
  · refine ⟨place, ⟨l, hwalk⟩, ?_⟩
    by_contra hdir
    simp [hwalk, walk, hdir] at h
  · simp [hwalk] at h

/-- No link stands in the directory that the path leads to. -/
def LinkFree (t : FileTree) (p : Path) : Prop :=
  ∀ place, t.Opens p place → ∀ name target, t.node? (place ++ [name]) ≠ some (.link target)

/-- A tree without links has none in a directory that was created. -/
lemma linkFree_makeDirs (h : ∀ x target, t.node? x ≠ some (.link target)) :
    (t.makeDirs p).1.LinkFree p :=
  fun place _ name target hlink =>
    h (place ++ [name]) target ((gainsDirs_makeDirs t p).of_link hlink)

/-- **What a written file changes.** Where no link stands in the way, a file is written in the
directory that the path leads to, at a place where there is a file or nothing. -/
lemma writeFile_join {content : Bytes} (hname : IsName name) (hfree : t.LinkFree p)
    (h : t.writeFile (p.join ⟨name⟩) content = .ok t') :
    ∃ place, t.Opens p place ∧ t.node? (place ++ [name]) ≠ some .dir ∧
      t' = t.set (place ++ [name]) (.file content) ∧ IsNameIn p name := by
  unfold writeFile at h
  rcases hlocate : t.locate true (p.join ⟨name⟩) with e | target
  · simp [hlocate] at h
  obtain ⟨place, hopen⟩ := exists_opens_of_locate_join hname.slash_not_mem hlocate
  have husable := isUsable_of_locate hlocate
  obtain ⟨l, hl⟩ := hopen.locate_join hname.slash_not_mem husable true
  refine ⟨place, hopen, ?_⟩
  rw [hl, walk_name hname (hfree place hopen name), if_neg (not_not.2 hopen.2)] at h
  split_ifs at h with hlong hnone
  · simp only [Except.ok.injEq] at h
    exact ⟨by simp [hnone], h.symm, hname, Nat.not_lt.1 hlong, husable⟩
  · simp only at h
    split at h
    · simp at h
    · rename_i hdir
      simp only [Except.ok.injEq] at h
      exact ⟨hdir, h.symm, hname, Nat.not_lt.1 hlong, husable⟩

/-- The place of a file in a directory. -/
lemma placeOf_join {content : Bytes} (hopen : t.Opens p place) (hname : IsNameIn p name)
    (hfile : t.node? (place ++ [name]) = some (.file content)) :
    t.placeOf (p.join ⟨name⟩) = .ok (place ++ [name]) := by
  obtain ⟨l, hl⟩ := hopen.locate_join hname.slash_not_mem hname.isUsable true
  rw [placeOf, hl, walk_name hname.toIsName (by simp [hfile]), if_neg (not_not.2 hopen.2),
    if_neg (Nat.not_lt.2 hname.length_le), if_neg (by simp [hfile])]

/-- **What a file in a directory holds** is read at its path. -/
lemma readFile_join {content : Bytes} (hopen : t.Opens p place) (hname : IsNameIn p name)
    (hfile : t.node? (place ++ [name]) = some (.file content)) :
    t.readFile (p.join ⟨name⟩) = .ok content := by
  simp only [readFile, placeOf_join hopen hname hfile, hfile]

end FileTree

end BenchTally
