import BenchTally.Proofs.Files.Plain

set_option autoImplicit false
set_option relaxedAutoImplicit false

/-!
# Earlier trees

A directory that a tree has can be made in every tree that grows into it, one name after another,
unless the path asks for what is in the directory before it is there.

## Main definitions

* `FileTree.WellFormed` — everything stands in a directory, under a name.
* `FileTree.GrowsInto` — an earlier tree, without links, of a tree with more directories and files.
* `Path.EndsInDot` — a path that asks for the directory itself in what its last component names.

## Main results

* `FileTree.GrowsInto.walk_cases` — what a path leads to in an earlier tree.
* `FileTree.GrowsInto.makeWay` — the directories on the way can be made.
* `FileTree.GrowsInto.makeDirs` — a directory and those on the way to it can be made.
-/

namespace BenchTally

/-- After the last component that is a name there is a piece for the directory of that name. -/
structure Path.EndsInDot (p : Path) : Prop where
  last_eq : (p.pieces.filter fun c => c ≠ []).getLast? = some here
  isName : FileTree.IsName p.fileName

namespace FileTree

/-- Everything stands in a directory, under a name, and the working directory is one. -/
structure WellFormed (t : FileTree) : Prop where
  workDir_dir : t.node? t.workDir = some .dir
  parent : ∀ {place : Place} {name : Bytes} {n : Node}, t.node? (place ++ [name]) = some n →
    t.node? place = some .dir
  isName : ∀ {place : Place} {name : Bytes} {n : Node}, t.node? (place ++ [name]) = some n →
    IsName name

/-- A well-formed tree without links, all of whose directories and files are directories and files
of another tree. -/
structure GrowsInto (t t' : FileTree) : Prop where
  noLinks : t.NoLinks
  wellFormed : t.WellFormed
  workDir_eq : t'.workDir = t.workDir
  dir : ∀ {x : Place}, t.node? x = some .dir → t'.node? x = some .dir
  file : ∀ {x : Place} {c : Bytes}, t.node? x = some (.file c) → ∃ c', t'.node? x = some (.file c')

variable {t t' made : FileTree} {p : Path} {here place : Place} {name : Bytes} {links l : Nat}
  {ps : List Bytes}

/-! ## New directories and files -/

/-- The directory above a directory is one. -/
lemma WellFormed.dropLast (h : t.WellFormed) (hdir : t.node? here = some .dir) :
    t.node? here.dropLast = some .dir := by
  rcases List.eq_nil_or_concat' here with rfl | ⟨above, name, rfl⟩
  · exact hdir
  · rw [List.dropLast_concat]
    exact h.parent hdir

/-- Paths start at a directory. -/
lemma WellFormed.startOf (h : t.WellFormed) (p : Path) : t.node? (t.startOf p) = some .dir := by
  unfold FileTree.startOf
  split_ifs
  · rfl
  · exact h.workDir_dir

/-- What is new under a name in a directory leaves a tree well-formed, unless there was a directory
with that name before. -/
lemma WellFormed.set (h : t.WellFormed) (hhere : t.node? here = some .dir) (hname : IsName name)
    {n : Node} (hnode : n = .dir ∨ t.node? (here ++ [name]) ≠ some .dir) :
    (t.set (here ++ [name]) n).WellFormed := by
  have hset : ∀ x, (t.set (here ++ [name]) n).node? x =
      if x = here ++ [name] then some n else t.node? x := fun x => node?_set t (by simp) x n
  have hdir : ∀ {x}, t.node? x = some .dir → (t.set (here ++ [name]) n).node? x = some .dir := by
    intro x hx
    rw [hset]
    split_ifs with heq
    · subst heq
      rcases hnode with rfl | hnot
      · rfl
      · exact absurd hx hnot
    · exact hx
  refine ⟨hdir h.workDir_dir, fun {place name' n'} hx => ?_, fun {place name' n'} hx => ?_⟩
  · rw [hset] at hx
    split_ifs at hx with heq
    · rw [(List.append_inj' heq rfl).1]
      exact hdir hhere
    · exact hdir (h.parent hx)
  · rw [hset] at hx
    split_ifs at hx with heq
    · rw [(List.cons.inj (List.append_inj' heq rfl).2).1]
      exact hname
    · exact h.isName hx

/-- An empty working directory makes a well-formed tree. -/
lemma wellFormed_ofWorkDir (hname : IsName name) : (ofWorkDir name).WellFormed := by
  have hnode : ∀ x, (ofWorkDir name).node? x = if x = [] ∨ x = [name] then some .dir else none := by
    intro x
    rw [node?, ofWorkDir, Std.ExtTreeMap.getElem?_insert]
    by_cases hnil : x = []
    · rw [if_pos hnil, if_pos (.inl hnil)]
    · by_cases hx : x = [name]
      · simp [hx]
      · simp [hnil, hx, Ne.symm hx]
  have hplace : ∀ {place : Place} {c : Bytes} {n : Node},
      (ofWorkDir name).node? (place ++ [c]) = some n → place = [] ∧ c = name := by
    intro place c n hx
    rw [hnode] at hx
    split_ifs at hx with heq
    have hconcat : place ++ [c] = [] ++ [name] := heq.resolve_left (by simp)
    obtain ⟨hplace, hc⟩ := List.append_inj' hconcat rfl
    exact ⟨hplace, (List.cons.inj hc).1⟩
  refine ⟨(hnode [name]).trans (if_pos (.inr rfl)), fun {place c n} hx => ?_,
    fun {place c n} hx => ?_⟩
  · rw [(hplace hx).1, hnode, if_pos (.inl rfl)]
  · rw [(hplace hx).2]
    exact hname

namespace GrowsInto

/-- What the later tree has, with whatever content, may be new. -/
lemma set {n : Node} (h : t.GrowsInto t') (hhere : t.node? here = some .dir) (hname : IsName name)
    (hlink : ∀ target, n ≠ .link target)
    (hdir : n = .dir → t'.node? (here ++ [name]) = some .dir)
    (hfile : ∀ c, n = .file c → ∃ c', t'.node? (here ++ [name]) = some (.file c'))
    (hold : n = .dir ∨ t.node? (here ++ [name]) ≠ some .dir) :
    (t.set (here ++ [name]) n).GrowsInto t' := by
  have hset : ∀ x, (t.set (here ++ [name]) n).node? x =
      if x = here ++ [name] then some n else t.node? x := fun x => node?_set t (by simp) x n
  refine ⟨fun x target hx => ?_, h.wellFormed.set hhere hname hold, h.workDir_eq,
    fun {x} hx => ?_, fun {x c} hx => ?_⟩
  · rw [hset] at hx
    split_ifs at hx
    · exact hlink target (Option.some.inj hx)
    · exact h.noLinks x target hx
  · rw [hset] at hx
    split_ifs at hx with heq
    · rw [heq, hdir (Option.some.inj hx)]
    · exact h.dir hx
  · rw [hset] at hx
    split_ifs at hx with heq
    · rw [heq]
      exact hfile c (Option.some.inj hx)
    · exact h.file hx

/-- A directory that the later tree has may be new. -/
lemma set_dir (h : t.GrowsInto t') (hhere : t.node? here = some .dir) (hname : IsName name)
    (hlater : t'.node? (here ++ [name]) = some .dir) :
    (t.set (here ++ [name]) .dir).GrowsInto t' :=
  h.set hhere hname (by simp) (fun _ => hlater) (by simp) (.inl rfl)

/-- A file that the later tree has may be new or have a new content. -/
lemma set_file {c c' : Bytes} (h : t.GrowsInto t') (hhere : t.node? here = some .dir)
    (hname : IsName name) (hlater : t'.node? (here ++ [name]) = some (.file c')) :
    (t.set (here ++ [name]) (.file c)).GrowsInto t' := by
  have hnot : t.node? (here ++ [name]) ≠ some .dir := fun hdir => by
    rw [h.dir hdir] at hlater
    simp at hlater
  exact h.set hhere hname (by simp) (by simp) (fun _ _ => ⟨c', hlater⟩) (.inr hnot)

/-! ## Where paths lead in an earlier tree -/

/-- **What a path leads to in an earlier tree.** Where a path leads to a directory, it leads in an
earlier tree to the same directory, or to its free name in the directory above, or to nothing
because a directory on the way is missing.

**Proof sketch.** Induction on the pieces. What stands on the way in the earlier tree is a directory
there, because the later tree has a directory at the place. -/
lemma walk_cases (h : t.GrowsInto t') (h' : t'.NoLinks) (hslash : ∀ c ∈ ps, Path.slash ∉ c)
    (hlater : t'.walk true links here ps = .ok (.existing place l))
    (hplace : t'.node? place = some .dir) (hhere : t.node? here = some .dir) (b : Bool) (k : Nat) :
    (t.walk b k here ps = .ok (.existing place k) ∧ t.node? place = some .dir) ∨
    (∃ above name, t.walk b k here ps = .ok (.free above name) ∧ place = above ++ [name] ∧
      t.node? above = some .dir ∧ IsName name) ∨
    t.walk b k here ps = .error .notFound := by
  induction ps generalizing here with
  | nil =>
    simp only [walk, Except.ok.injEq, Target.existing.injEq] at hlater
    obtain ⟨rfl, -⟩ := hlater
    exact .inl ⟨by rw [walk], hhere⟩
  | cons c ps ih =>
    have hslash' : ∀ c ∈ ps, Path.slash ∉ c := fun c hc => hslash c (List.mem_cons_of_mem _ hc)
    rw [h'.walk_cons, if_neg (not_not.2 (h.dir hhere))] at hlater
    rw [h.noLinks.walk_cons, if_neg (not_not.2 hhere)]
    by_cases hstay : c = [] ∨ c = Path.here
    · rw [if_pos hstay] at hlater ⊢
      exact ih hslash' hlater hhere
    rw [if_neg hstay] at hlater ⊢
    by_cases hup : c = Path.up
    · rw [if_pos hup] at hlater ⊢
      exact ih hslash' hlater (h.wellFormed.dropLast hhere)
    rw [if_neg hup] at hlater ⊢
    by_cases hlong : maxName < c.length
    · simp [if_pos hlong] at hlater
    rw [if_neg hlong] at hlater ⊢
    have hname : IsName c := ⟨fun hc => hstay (.inl hc), fun hc => hstay (.inr hc), hup,
      hslash c List.mem_cons_self⟩
    have hwalk : t'.walk true links (here ++ [c]) ps = .ok (.existing place l) := by
      split_ifs at hlater
      · simp at hlater
      · exact hlater
    cases hnode : t.node? (here ++ [c]) with
    | none =>
      rw [if_pos rfl]
      by_cases hrest : ps = []
      · subst hrest
        simp only [walk, Except.ok.injEq, Target.existing.injEq] at hwalk
        exact .inr (.inl ⟨here, c, if_pos rfl, hwalk.1.symm, hhere, hname⟩)
      · exact .inr (.inr (if_neg hrest))
    | some node =>
      rw [if_neg (by simp)]
      cases node with
      | dir => exact ih hslash' hwalk hnode
      | file content =>
        obtain ⟨content', hfile⟩ := h.file hnode
        have heq := FileTree.walk_of_not_dir (by simp [hfile]) hwalk
        rw [heq, hfile] at hplace
        cases hplace
      | link target => exact absurd hnode (h.noLinks _ target)

/-! ## Making directories in an earlier tree -/

/-- A name alone is not missed in a directory. -/
lemma walk_singleton_ne_notFound (h : t.NoLinks) (b : Bool) (k : Nat) (here : Place) (c : Bytes) :
    t.walk b k here [c] ≠ .error .notFound := by
  rw [h.walk_cons]
  simp only [walk, if_true]
  split_ifs <;> simp

/-- The free name that a name leads to is the name. -/
lemma walk_singleton_free (h : t.NoLinks) {b : Bool} {k : Nat} {c : Bytes} {above : Place}
    (hwalk : t.walk b k here [c] = .ok (.free above name)) : above = here ∧ name = c := by
  rw [h.walk_cons] at hwalk
  simp only [walk, if_true] at hwalk
  split_ifs at hwalk <;> simp at hwalk
  exact ⟨hwalk.1.symm, hwalk.2.symm⟩

/-- A path to a free name leads to the directory that is made there, through no links. -/
lemma walk_set_free (h : t.NoLinks) {b : Bool} {k : Nat} {above : Place}
    (hwalk : t.walk b k here ps = .ok (.free above name)) :
    (t.set (above ++ [name]) .dir).walk true k here ps = .ok (.existing (above ++ [name]) k) := by
  have hgain := gainsDirs_set (node?_of_walk_free hwalk)
  have hnew : (t.set (above ++ [name]) .dir).NoLinks := fun x target hlink =>
    h x target (hgain.of_link hlink)
  obtain ⟨l, hl⟩ := exists_walk_set_free (n := .dir) (by simp) hwalk
  rw [hl, hnew.links_eq hl]

/-- **The directories on the way can be made** in an earlier tree, and all lead on to each other
afterwards. -/
lemma makeWay (h : t.GrowsInto t') (h' : t'.NoLinks) (hslash : ∀ c ∈ ps, Path.slash ∉ c)
    (hlater : t'.walk true links here ps = .ok (.existing place l))
    (hplace : t'.node? place = some .dir) (hhere : t.node? here = some .dir) (k : Nat) :
    ∃ made, t.makeWay k here ps = (made, .ok ()) ∧ made.GrowsInto t' ∧ GainsDirs t made ∧
      made.walk true k here ps = .ok (.existing place k) ∧ made.node? place = some .dir := by
  induction ps generalizing t here with
  | nil =>
    simp only [walk, Except.ok.injEq, Target.existing.injEq] at hlater
    obtain ⟨rfl, -⟩ := hlater
    exact ⟨t, by rw [FileTree.makeWay], h, .refl t, by rw [walk], hhere⟩
  | cons c ps ih =>
    have hcons : c :: ps = [c] ++ ps := rfl
    have hslash' : ∀ c ∈ ps, Path.slash ∉ c := fun c hc => hslash c (List.mem_cons_of_mem _ hc)
    rw [hcons] at hlater
    obtain ⟨mid, hfirst, hmid, hrest⟩ := h'.exists_walk_append hlater hplace
    have hfirst' : ∀ c' ∈ [c], Path.slash ∉ c' := fun c' hc => by
      rw [List.mem_singleton.1 hc]
      exact hslash c List.mem_cons_self
    -- After the first step the rest is made from its directory.
    have hstep : ∀ {t₁ : FileTree}, GainsDirs t t₁ → t₁.GrowsInto t' →
        t₁.walk true k here [c] = .ok (.existing mid k) → t₁.node? mid = some .dir →
        t.makeWay k here (c :: ps) = t₁.makeWay k mid ps →
        ∃ made, t.makeWay k here (c :: ps) = (made, .ok ()) ∧ made.GrowsInto t' ∧
          GainsDirs t made ∧ made.walk true k here (c :: ps) = .ok (.existing place k) ∧
          made.node? place = some .dir := by
      intro t₁ hgain h₁ hwalk₁ hdir₁ hmake
      obtain ⟨made, hmade, hgrows, hgain', hwalk, hdir⟩ := ih h₁ hslash' hrest hdir₁
      refine ⟨made, hmake.trans hmade, hgrows, hgain.trans hgain', ?_, hdir⟩
      have hwalk₁' := walk_mono hgain'.keepsWays hwalk₁ fun c hfile => by simp [hdir₁] at hfile
      cases ps with
      | nil =>
        simp only [walk, Except.ok.injEq, Target.existing.injEq, and_true] at hwalk
        rw [hwalk₁', hwalk]
      | cons c' ps =>
        rw [hcons, walk_append made true k here [c] (by simp), hwalk₁']
        exact hwalk
    rcases h.walk_cases h' hfirst' hfirst hmid hhere true k with
      ⟨hwalk, hdir⟩ | ⟨above, name, hwalk, rfl, habove, hname⟩ | hnone
    · refine hstep (.refl t) h hwalk hdir ?_
      rw [FileTree.makeWay, hwalk]
      simp only [if_pos hdir]
    · obtain ⟨rfl, rfl⟩ := walk_singleton_free h.noLinks hwalk
      have hfree := node?_of_walk_free hwalk
      refine hstep (gainsDirs_set hfree) (h.set_dir habove hname hmid)
        (walk_set_free h.noLinks hwalk) ?_ ?_
      · rw [node?_set t (by simp), if_pos rfl]
      · rw [FileTree.makeWay, hwalk]
        simp only [and_self, if_true]
    · exact absurd hnone (walk_singleton_ne_notFound h.noLinks true k here c)

end GrowsInto

/-- A path that leads to a directory is seen to. -/
lemma isDir_of_opens (hopen : t.Opens p place) (husable : IsUsable p) : t.isDir p = true := by
  simp [isDir, hopen.placeOf husable, hopen.2]

/-- What is seen to be a directory is one that the path leads to. -/
lemma opens_of_isDir (h : t.isDir p = true) : IsUsable p ∧ ∃ place, t.Opens p place := by
  unfold isDir placeOf at h
  cases hlocate : t.locate true p with
  | error e => simp [hlocate] at h
  | ok target =>
    have husable := isUsable_of_locate hlocate
    rw [locate_of_isUsable husable] at hlocate
    rw [locate_of_isUsable husable, hlocate] at h
    cases target with
    | existing place l => exact ⟨husable, place, ⟨l, hlocate⟩, by simpa using h⟩
    | free above name => simp at h

/-- A last component that is no name stands for a directory that is there already. -/
lemma fileName_of_not_isName (hp : p.components ≠ []) (hname : ¬ IsName p.fileName) :
    p.fileName = Path.here ∨ p.fileName = Path.up := by
  have hmem : p.fileName ∈ Path.namesOf p.pieces := by
    rw [← Path.components_eq, Path.components_eq_concat hp]
    simp
  by_contra hnot
  rw [not_or] at hnot
  exact hname ⟨Path.ne_nil_of_mem_namesOf hmem, hnot.1, hnot.2, Path.slash_not_mem_fileName p⟩

/-- The dots of a directory lead to a directory. -/
lemma exists_walk_dots (h : t.NoLinks) (hformed : t.WellFormed) {c : Bytes}
    (hc : c = Path.here ∨ c = Path.up) (hplace : t.node? place = some .dir) (k : Nat) :
    ∃ next, t.node? next = some .dir ∧ t.walk true k place [c] = .ok (.existing next k) := by
  rcases hc with rfl | rfl
  · refine ⟨place, hplace, ?_⟩
    rw [h.walk_cons, if_neg (not_not.2 hplace), if_pos (.inr rfl), walk]
  · refine ⟨place.dropLast, hformed.dropLast hplace, ?_⟩
    rw [h.walk_cons, if_neg (not_not.2 hplace), if_neg (by decide), if_pos rfl, walk]

/-- **Once the way is there nothing is missed.** Where the components before the last lead to a
directory, the path misses no directory on its way, unless it ends in a dot.

**Proof sketch.** The last piece is the last component, or it is a dot. A dot behind a component
`.` or `..` asks for nothing that is not there already. -/
lemma walk_trimSlashes_ne_notFound (h : t.NoLinks) (hformed : t.WellFormed)
    (hp : p.components ≠ []) (hdot : ¬ p.EndsInDot) {k : Nat}
    (hway : t.walk true k here p.components.dropLast = .ok (.existing place k))
    (hplace : t.node? place = some .dir) :
    t.walk true k here (trimSlashes p).pieces ≠ .error .notFound := by
  obtain ⟨n, hpieces⟩ := pieces_trimSlashes p
  obtain ⟨dirs, last, hlast, hne⟩ := exists_last_piece p (trimSlashes_ne_nil hp)
  have hcomponents : p.components = Path.namesOf (dirs ++ [last]) := by
    rw [Path.components_eq, hpieces, hlast, Path.namesOf_append_replicate (by simp)]
  by_cases hleads : Path.leadsOn last = true
  · rw [hcomponents, Path.namesOf_concat hleads, List.dropLast_concat,
      h.walk_namesOf_iff hplace] at hway
    rw [hlast, walk_append t true k here dirs (by simp), hway]
    exact GrowsInto.walk_singleton_ne_notFound h true k place last
  · -- The last piece is a dot, and so the last component is no name.
    have hhere : last = Path.here := by
      by_contra hnot
      exact hleads (Path.leadsOn_iff.2 (not_or.2 ⟨hne, hnot⟩))
    have hnil : Path.here ≠ [] := by decide
    have hname : ¬ IsName p.fileName := fun hname =>
      hdot ⟨by simp [hpieces, hlast, hhere, hnil], hname⟩
    obtain ⟨next, hdir, hstep⟩ :=
      exists_walk_dots h hformed (fileName_of_not_isName hp hname) hplace k
    have hwalk : t.walk true k here p.components = .ok (.existing next k) := by
      rw [Path.components_eq_concat hp, walk_append t true k here _ (by simp), hway]
      exact hstep
    rw [h.walk_components_iff hdir, ← walk_trimSlashes_iff t hdir] at hwalk
    rw [hwalk]
    simp

namespace GrowsInto

/-- **One directory can be made** in an earlier tree, if a directory on the way is not missing. -/
lemma ensureDir (h : t.GrowsInto t') (h' : t'.NoLinks) (hopen : t'.Opens p place)
    (husable : IsUsable p) (hp : p.components ≠ []) :
    (∃ made, t.ensureDir p = .ok made ∧ made.GrowsInto t' ∧ GainsDirs t made ∧
      made.Opens p place) ∨
    (t.ensureDir p = .error .notFound ∧ t.isDir p = false ∧
      t.walk true maxLinks (t.startOf p) (trimSlashes p).pieces = .error .notFound) := by
  obtain ⟨⟨l, hl⟩, hplace⟩ := hopen
  have hstart : t'.startOf p = t.startOf p := by simp only [startOf, h.workDir_eq]
  rw [hstart, ← walk_trimSlashes_iff t' hplace] at hl
  have hmake := h.noLinks.makeDir_eq husable hp
  rcases h.walk_cases h' (Path.slash_not_mem_pieces _) hl hplace (h.wellFormed.startOf p) true
    maxLinks with ⟨hwalk, hdir⟩ | ⟨above, name, hwalk, rfl, habove, hname⟩ | hnone
  · left
    have hopen : t.Opens p place := ⟨⟨maxLinks, (walk_trimSlashes_iff t hdir).1 hwalk⟩, hdir⟩
    refine ⟨t, ?_, h, .refl t, hopen⟩
    rw [FileTree.ensureDir, hmake, hwalk]
    simp [isDir_of_opens hopen husable]
  · left
    have hgain := gainsDirs_set (node?_of_walk_free hwalk)
    have hdir : (t.set (above ++ [name]) .dir).node? (above ++ [name]) = some .dir := by
      rw [node?_set t (by simp), if_pos rfl]
    refine ⟨t.set (above ++ [name]) .dir, ?_, h.set_dir habove hname hplace, hgain,
      ⟨maxLinks, ?_⟩, hdir⟩
    · rw [FileTree.ensureDir, hmake, hwalk]
    · exact (walk_trimSlashes_iff _ hdir).1 (walk_set_free h.noLinks hwalk)
  · right
    have hnot : t.isDir p = false := by
      by_contra hdir
      obtain ⟨-, q, ⟨l', hl'⟩, hq⟩ := opens_of_isDir (by simpa using hdir)
      rw [← walk_trimSlashes_iff t hq, hnone] at hl'
      simp at hl'
    refine ⟨?_, hnot, hnone⟩
    rw [FileTree.ensureDir, hmake, hnone]
    simp [hnot]

/-- **A directory and those on the way to it can be made** in an earlier tree. -/
lemma makeDirs (h : t.GrowsInto t') (h' : t'.NoLinks) (hopen : t'.Opens p place)
    (hzero : 0 ∉ p.bytes) (hlength : p.bytes.length ≤ maxPath)
    (hdot : p.EndsInDot → t.isDir p = true) :
    ∃ made, t.makeDirs p = (made, .ok ()) ∧ made.GrowsInto t' ∧ GainsDirs t made ∧
      made.Opens p place := by
  have hstart : t'.startOf p = t.startOf p := by simp only [startOf, h.workDir_eq]
  by_cases hp : p.components = []
  · -- Nothing is made for a path that leads to its start.
    have hwalk : ∀ {t : FileTree}, t.NoLinks → t.node? (t.startOf p) = some .dir →
        t.walk true maxLinks (t.startOf p) p.pieces = .ok (.existing (t.startOf p) maxLinks) := by
      intro t h hdir
      rw [← h.walk_components_iff hdir, hp, walk]
    have hdir := h.wellFormed.startOf p
    have hopen' : t'.Opens p (t'.startOf p) :=
      ⟨⟨maxLinks, hwalk h' (hstart ▸ h.dir hdir)⟩, hstart ▸ h.dir hdir⟩
    have hplace : place = t.startOf p := (hopen.unique hopen').trans hstart
    refine ⟨t, ?_, h, .refl t, hplace ▸ ⟨⟨maxLinks, hwalk h.noLinks hdir⟩, hdir⟩⟩
    rw [FileTree.makeDirs, hp]
    rfl
  have husable : IsUsable p := by
    refine ⟨fun hnil => hp ?_, hzero, hlength⟩
    rw [Path.components_eq, Path.pieces, hnil]
    rfl
  have hsome : p.components.isEmpty = false := by simpa using hp
  rcases h.ensureDir h' hopen husable hp with ⟨made, hmade, hrest⟩ | ⟨hmissed, hnot, -⟩
  · refine ⟨made, ?_, hrest⟩
    rw [FileTree.makeDirs, hsome, hmade]
    rfl
  · have hnodot : ¬ p.EndsInDot := fun hends => by simp [hdot hends] at hnot
    obtain ⟨⟨l, hl⟩, hplace⟩ := hopen
    have hl' := hl
    rw [hstart, ← h'.walk_components_iff hplace] at hl'
    have hsplit : p.components = p.components.dropLast ++ [p.components.getLast hp] :=
      (List.dropLast_append_getLast hp).symm
    rw [hsplit] at hl'
    obtain ⟨mid, hmid, hdir, -⟩ := h'.exists_walk_append hl' hplace
    have hslash : ∀ c ∈ p.components.dropLast, Path.slash ∉ c := fun c hc =>
      Path.slash_not_mem_components p c (List.dropLast_subset _ hc)
    obtain ⟨way, hway, hgrows, hgain, hwalk, hmid⟩ :=
      h.makeWay h' hslash hmid hdir (h.wellFormed.startOf p) maxLinks
    have hstart' : way.startOf p = t.startOf p := by simp only [startOf, hgain.workDir_eq]
    rcases hgrows.ensureDir h' ⟨⟨l, hl⟩, hplace⟩ husable hp with
      ⟨made, hmade, hgrows', hgain', hopen⟩ | ⟨-, -, hmissed'⟩
    · refine ⟨made, ?_, hgrows', hgain.trans hgain', hopen⟩
      rw [FileTree.makeDirs, hsome, hmissed, hway]
      simp [hmade]
    · rw [hstart'] at hmissed'
      exact absurd hmissed'
        (walk_trimSlashes_ne_notFound hgrows.noLinks hgrows.wellFormed hp hnodot hwalk hmid)

end GrowsInto

end FileTree

end BenchTally
