import BenchTally.Files.Tree
import BenchTally.Proofs.Files.Path

set_option autoImplicit false
set_option relaxedAutoImplicit false

/-!
# Where paths lead

## Main definitions

* `FileTree.IsName` — a name of something in a directory.
* `FileTree.Opens` — a path leads to a directory.
* `FileTree.KeepsWays` — a tree in which everything that is no file still stands.

## Main results

* `FileTree.walk_append` — a path is followed through its first pieces and then its others.
* `FileTree.walk_pieces_join` — a name in a directory is looked up where the directory's path leads.
* `FileTree.Opens.mono` — a path that leads to a directory still does where the ways are kept.
-/

namespace BenchTally

namespace FileTree

variable {t t' : FileTree} {p : Path} {here place place' : Place} {name : Bytes} {links l : Nat}

/-! ## Walks piece by piece -/

/-- **The cut of a walk.** A path is followed through its first pieces to something that exists,
and through its others from there.

**Proof sketch.** Induction on the walk through the first pieces. Where it ends early the other
pieces do not matter, except that a free name with pieces after it is not found. -/
lemma walk_append (t : FileTree) (b : Bool) (links : Nat) (here : Place) (ps : List Bytes)
    {qs : List Bytes} (hqs : qs ≠ []) :
    t.walk b links here (ps ++ qs) =
      match t.walk true links here ps with
      | .ok (.existing place l) => t.walk b l place qs
      | .ok (.free _ _) => .error .notFound
      | .error e => .error e := by
  fun_induction t.walk true links here ps with
  | case1 => rfl
  | case2 links here name rest hdir =>
    rw [List.cons_append, walk, if_pos hdir]
  | case3 links here name rest hdir hstay ih =>
    rw [List.cons_append, walk, if_neg hdir, if_pos hstay, ih]
  | case4 links here rest hdir hstay ih =>
    rw [List.cons_append, walk, if_neg hdir, if_neg hstay, if_pos rfl, ih]
  | case5 links here name rest hdir hstay hup hlong =>
    rw [List.cons_append, walk, if_neg hdir, if_neg hstay, if_neg hup, if_pos hlong]
  | case6 links here name hdir hstay hup hlong place hfree =>
    simp only [place] at hfree
    rw [List.cons_append, List.nil_append, walk, if_neg hdir, if_neg hstay, if_neg hup,
      if_neg hlong]
    simp only [hfree, if_neg hqs]
  | case7 links here name rest hdir hstay hup hlong place hfree hrest =>
    simp only [place] at hfree
    rw [List.cons_append, walk, if_neg hdir, if_neg hstay, if_neg hup, if_neg hlong]
    simp [hfree, hrest]
  | case8 links here name rest hdir hstay hup hlong place target hlink hlast =>
    simp at hlast
  | case9 here name rest hdir hstay hup hlong place target hlink hlast =>
    simp only [place] at hlink
    rw [List.cons_append, walk, if_neg hdir, if_neg hstay, if_neg hup, if_neg hlong]
    simp [hlink, hqs]
  | case10 here name rest hdir hstay hup hlong place target hlink hlast links ih =>
    simp only [place] at hlink
    have hmore : ¬ (rest ++ qs = [] ∧ (!b) = true) := by simp [hqs]
    rw [List.cons_append, walk, if_neg hdir, if_neg hstay, if_neg hup, if_neg hlong]
    simp only [hlink, if_neg hmore, ← List.append_assoc]
    exact ih
  | case11 links here name rest hdir hstay hup hlong place node hnode hlink ih =>
    simp only [place] at hlink ⊢
    rw [List.cons_append, walk, if_neg hdir, if_neg hstay, if_neg hup, if_neg hlong]
    simp only [hlink]
    cases node with
    | link target => exact (hnode target rfl).elim
    | dir => exact ih
    | file content => exact ih

/-! ## Names in a directory -/

/-- A name that stands for something in a directory, and neither for the directory nor for the one
above. -/
structure IsName (c : Bytes) : Prop where
  ne_nil : c ≠ []
  ne_here : c ≠ Path.here
  ne_up : c ≠ Path.up
  slash_not_mem : Path.slash ∉ c

instance (c : Bytes) : Decidable (IsName c) :=
  decidable_of_iff (c ≠ [] ∧ c ≠ Path.here ∧ c ≠ Path.up ∧ Path.slash ∉ c)
    ⟨fun ⟨hnil, hhere, hup, hslash⟩ => ⟨hnil, hhere, hup, hslash⟩,
      fun h => ⟨h.ne_nil, h.ne_here, h.ne_up, h.slash_not_mem⟩⟩

/-- A name in a directory is the last component of its path. -/
lemma IsName.components_join (h : IsName name) (p : Path) :
    (p.join ⟨name⟩).components = p.components ++ [name] :=
  Path.components_join p h.slash_not_mem h.ne_nil h.ne_here

/-- The file name of a name in a directory is the name. -/
lemma IsName.fileName_join (h : IsName name) (p : Path) : (p.join ⟨name⟩).fileName = name :=
  Path.fileName_join p h.slash_not_mem h.ne_nil h.ne_here

/-- What a name leads to in a directory where no link has it. -/
lemma walk_name (hname : IsName name) {b : Bool}
    (hlink : ∀ target, t.node? (here ++ [name]) ≠ some (.link target)) :
    t.walk b links here [name] =
      if t.node? here ≠ some .dir then .error .notDirectory
      else if maxName < name.length then .error .nameTooLong
      else if t.node? (here ++ [name]) = none then .ok (.free here name)
      else .ok (.existing (here ++ [name]) links) := by
  have hstay : ¬ (name = [] ∨ name = Path.here) := by simp [hname.ne_nil, hname.ne_here]
  rw [walk, if_neg hstay, if_neg hname.ne_up]
  rcases hnode : t.node? (here ++ [name]) with _ | (_ | content | target)
  · simp [hnode]
  · simp [hnode, walk]
  · simp [hnode, walk]
  · exact absurd hnode (hlink target)

/-- **The way to a name in a directory.** A name is looked up where the path of its directory
leads. -/
lemma walk_pieces_join (t : FileTree) (b : Bool) (links : Nat) (start : Place) (p : Path)
    (hslash : Path.slash ∉ name) :
    t.walk b links start (p.join ⟨name⟩).pieces =
      match t.walk true links start p.pieces with
      | .ok (.existing place l) => t.walk b l place [name]
      | .ok (.free _ _) => .error .notFound
      | .error e => .error e := by
  obtain ⟨dirs, hjoin, hdirs | hdirs⟩ := Path.pieces_join p hslash
  · rw [hjoin, hdirs, walk_append _ _ _ _ _ (by simp)]
  · -- A slash at the end of the directory's path asks for a directory, as a name after it does.
    rw [hjoin, hdirs, walk_append _ _ _ _ _ (by simp), walk_append _ _ _ _ _ (by simp)]
    rcases t.walk true links start dirs with e | ⟨place, l⟩ | ⟨directory, free⟩
    · rfl
    · by_cases hdir : t.node? place = some .dir
      · simp [walk, hdir]
      · simp [walk, hdir]
    · rfl

/-! ## Trees that keep the ways of an earlier one -/

/-- A tree with the working directory, the directories and the links of an earlier one. -/
structure KeepsWays (t t' : FileTree) : Prop where
  workDir_eq : t'.workDir = t.workDir
  dir : ∀ {x : Place}, t.node? x = some .dir → t'.node? x = some .dir
  link : ∀ {x : Place} {target : Path}, t.node? x = some (.link target) →
    t'.node? x = some (.link target)

lemma KeepsWays.trans {t'' : FileTree} (h : KeepsWays t t') (h' : KeepsWays t' t'') :
    KeepsWays t t'' :=
  ⟨h'.workDir_eq.trans h.workDir_eq, fun hx => h'.dir (h.dir hx), fun hx => h'.link (h.link hx)⟩

/-- From something that is no directory no way leads on. -/
lemma walk_of_not_dir {ps : List Bytes} (hdir : t.node? here ≠ some .dir)
    (hwalk : t.walk true links here ps = .ok (.existing place l)) : place = here := by
  cases ps with
  | nil =>
    simp only [walk, Except.ok.injEq, Target.existing.injEq] at hwalk
    exact hwalk.1.symm
  | cons name rest => simp [walk, hdir] at hwalk

/-- A walk is the same where its ways are kept and a file at its end is still a file.

**Proof sketch.** Induction on the walk. All that it meets is a directory or a link: a file could
only be its end. -/
lemma walk_mono {ps : List Bytes} (hkeep : KeepsWays t t')
    (hwalk : t.walk true links here ps = .ok (.existing place l))
    (hend : ∀ c, t.node? place = some (.file c) → ∃ c', t'.node? place = some (.file c')) :
    t'.walk true links here ps = .ok (.existing place l) := by
  fun_induction t.walk true links here ps with
  | case1 => rw [← hwalk, walk]
  | case2 => simp at hwalk
  | case3 links here name rest hdir hstay ih =>
    rw [walk, if_neg (not_not.2 (hkeep.dir (not_not.1 hdir))), if_pos hstay, ih hwalk]
  | case4 links here rest hdir hstay ih =>
    rw [walk, if_neg (not_not.2 (hkeep.dir (not_not.1 hdir))), if_neg hstay, if_pos rfl, ih hwalk]
  | case5 => simp at hwalk
  | case6 => simp at hwalk
  | case7 => simp at hwalk
  | case8 links here name rest hdir hstay hup hlong place target hlink hlast => simp at hlast
  | case9 => simp at hwalk
  | case10 here name rest hdir hstay hup hlong place target hlink hlast links ih =>
    simp only [place] at hlink
    rw [walk, if_neg (not_not.2 (hkeep.dir (not_not.1 hdir))), if_neg hstay, if_neg hup,
      if_neg hlong]
    simp only [hkeep.link hlink, if_neg hlast]
    exact ih hwalk
  | case11 links here name rest hdir hstay hup hlong next node hnode hlink ih =>
    simp only [next] at hlink ih hwalk
    rw [walk, if_neg (not_not.2 (hkeep.dir (not_not.1 hdir))), if_neg hstay, if_neg hup,
      if_neg hlong]
    cases node with
    | link target => exact (hnode target rfl).elim
    | dir =>
      simp only [hkeep.dir hlink]
      exact ih hwalk
    | file content =>
      have hlast := walk_of_not_dir (by simp [hlink]) hwalk
      obtain ⟨content', hfile⟩ := hend content (hlast ▸ hlink)
      simp only [hlast ▸ hfile]
      exact ih hwalk

/-! ## Paths that lead to directories -/

/-- The path leads to a directory, at the given place. -/
def Opens (t : FileTree) (p : Path) (place : Place) : Prop :=
  (∃ l, t.walk true maxLinks (t.startOf p) p.pieces = .ok (.existing place l)) ∧
    t.node? place = some .dir

/-- A path leads to one place. -/
lemma Opens.unique (h : t.Opens p place) (h' : t.Opens p place') : place = place' := by
  obtain ⟨⟨l, hl⟩, -⟩ := h
  obtain ⟨⟨l', hl'⟩, -⟩ := h'
  rw [hl] at hl'
  simp only [Except.ok.injEq, Target.existing.injEq] at hl'
  exact hl'.1

/-- **Ways to directories stay.** A path that leads to a directory leads there in every tree that
keeps the ways. -/
lemma Opens.mono (h : t.Opens p place) (hkeep : KeepsWays t t') : t'.Opens p place := by
  obtain ⟨⟨l, hl⟩, hdir⟩ := h
  have hstart : t'.startOf p = t.startOf p := by simp [startOf, hkeep.workDir_eq]
  have hwalk := walk_mono hkeep hl fun c hfile => by simp [hdir] at hfile
  exact ⟨⟨l, hstart ▸ hwalk⟩, hkeep.dir hdir⟩

end FileTree

end BenchTally
