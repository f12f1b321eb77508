import BenchTally.Proofs.Files.Below

set_option autoImplicit false
set_option relaxedAutoImplicit false

/-!
# Trees without links

Where there are no links, a path is followed piece by piece, and empty pieces and pieces `.` do not
matter on a way that leads to a directory.

## Main definitions

* `FileTree.NoLinks` — a tree without links.
* `Path.namesOf` — the components that pieces make.

## Main results

* `FileTree.NoLinks.walk_cons` — the first step of a walk.
* `FileTree.NoLinks.walk_components_iff` — the components of a path lead where its pieces lead.
* `FileTree.pieces_trimSlashes` — the pieces of a path without the slashes at its end.
-/

namespace BenchTally

/-- Whether a piece of a path is more than the directory that it is looked up in. -/
def Path.leadsOn (c : Bytes) : Bool :=
  !c.isEmpty && c != Path.here

lemma Path.leadsOn_iff {c : Bytes} : leadsOn c = true ↔ ¬ (c = [] ∨ c = here) := by
  simp [leadsOn]

/-- The components that the pieces of a path make. -/
def Path.namesOf (ps : List Bytes) : List Bytes :=
  (if ps.head? = some Path.here then [Path.here] else []) ++ ps.filter leadsOn

lemma Path.components_eq (p : Path) : p.components = Path.namesOf p.pieces := rfl

/-- Empty pieces behind others make no components. -/
lemma Path.namesOf_append_replicate {ps : List Bytes} (hps : ps ≠ []) (k : Nat) :
    namesOf (ps ++ List.replicate k []) = namesOf ps := by
  have hnone : (List.replicate k ([] : Bytes)).filter leadsOn = [] := by
    simp [leadsOn]
  rw [namesOf, namesOf, List.filter_append, hnone, List.append_nil,
    List.head?_append_of_ne_nil _ hps]

/-- A dot behind other pieces makes no component. -/
lemma Path.namesOf_concat_here {ps : List Bytes} (hps : ps ≠ []) :
    namesOf (ps ++ [here]) = namesOf ps := by
  have hnone : [here].filter leadsOn = [] := rfl
  rw [namesOf, namesOf, List.filter_append, hnone, List.append_nil,
    List.head?_append_of_ne_nil _ hps]

/-- A dot behind a path with components makes no more of them. -/
lemma Path.components_join_here {p : Path} (h : p.components ≠ []) :
    (p.join ⟨here⟩).components = p.components := by
  have hslash : slash ∉ here := by decide
  obtain ⟨dirs, hjoin, hdirs | hdirs⟩ := pieces_join p hslash
  · rw [components_eq, components_eq, hjoin, hdirs,
      namesOf_concat_here (hdirs ▸ Text.splitOn_ne_nil _ _)]
  · have hne : dirs ≠ [] := by
      rintro rfl
      exact h (by rw [components_eq, hdirs]; rfl)
    rw [components_eq, components_eq, hjoin, hdirs, namesOf_concat_here hne]
    exact (namesOf_append_replicate hne 1).symm

/-- A last piece that leads on is the last component. -/
lemma Path.namesOf_concat {ps : List Bytes} {c : Bytes} (hc : leadsOn c = true) :
    namesOf (ps ++ [c]) = namesOf ps ++ [c] := by
  have hkeep : [c].filter leadsOn = [c] := List.filter_cons_of_pos hc
  cases ps with
  | nil =>
    have hhere : c ≠ here := fun heq => leadsOn_iff.1 hc (.inr heq)
    simp [namesOf, hkeep, hhere]
  | cons d ds =>
    rw [namesOf, namesOf, List.filter_append, hkeep, ← List.append_assoc]
    rfl

/-- A component is no empty piece. -/
lemma Path.ne_nil_of_mem_namesOf {ps : List Bytes} {c : Bytes} (hc : c ∈ namesOf ps) : c ≠ [] := by
  rcases List.mem_append.1 hc with hc | hc
  · split_ifs at hc
    · rw [List.mem_singleton.1 hc]
      decide
    · simp at hc
  · exact fun heq => leadsOn_iff.1 (List.mem_filter.1 hc).2 (.inl heq)

namespace FileTree

variable {t : FileTree} {p : Path} {here place : Place} {name : Bytes} {links l : Nat}
  {ps : List Bytes}

/-- There are no links. -/
def NoLinks (t : FileTree) : Prop :=
  ∀ x target, t.node? x ≠ some (.link target)

/-- There are none where nothing but the working directory stands. -/
lemma noLinks_ofWorkDir (name : Bytes) : (ofWorkDir name).NoLinks := fun x target => by
  rw [FileTree.node?, ofWorkDir, Std.ExtTreeMap.getElem?_insert]
  split_ifs <;> simp

namespace NoLinks

/-- Something that is no link can be put anywhere. -/
lemma set {x : Place} {n : Node} (h : t.NoLinks) (hx : x ≠ []) (hn : ∀ target, n ≠ .link target) :
    (t.set x n).NoLinks := fun y target => by
  rw [node?_set t hx]
  split_ifs
  · simpa using hn target
  · exact h y target

lemma linkFree (h : t.NoLinks) (p : Path) : t.LinkFree p :=
  fun place _ name target => h (place ++ [name]) target

/-- **The first step of a walk** in a tree without links. -/
lemma walk_cons (h : t.NoLinks) (b : Bool) (links : Nat) (here : Place) (name : Bytes)
    (rest : List Bytes) :
    t.walk b links here (name :: rest) =
      if t.node? here ≠ some .dir then .error .notDirectory
      else if name = [] ∨ name = Path.here then t.walk b links here rest
      else if name = Path.up then t.walk b links here.dropLast rest
      else if maxName < name.length then .error .nameTooLong
      else if t.node? (here ++ [name]) = none then
        if rest = [] then .ok (.free here name) else .error .notFound
      else t.walk b links (here ++ [name]) rest := by
  rw [walk]
  cases hnode : t.node? (here ++ [name]) with
  | none => simp [hnode]
  | some node =>
    cases node with
    | dir => simp [hnode]
    | file content => simp [hnode]
    | link target => exact absurd hnode (h _ target)

/-- A walk leads on only from a directory. -/
lemma walk_of_not_dir (h : t.NoLinks) (b : Bool) (hdir : t.node? here ≠ some .dir)
    (rest : List Bytes) : t.walk b links here (name :: rest) = .error .notDirectory := by
  rw [h.walk_cons, if_pos hdir]

/-- Without links it does not matter whether the last of them is followed. -/
lemma walk_eq (h : t.NoLinks) (b : Bool) : t.walk b links here ps = t.walk true links here ps := by
  induction ps generalizing here with
  | nil => rw [walk, walk]
  | cons c ps ih => rw [h.walk_cons, h.walk_cons, ih, ih, ih]

/-- Pieces that name nothing do not matter on the way to a directory. -/
lemma walk_filter_iff (h : t.NoLinks) (hplace : t.node? place = some .dir) :
    t.walk true links here (ps.filter Path.leadsOn) = .ok (.existing place l) ↔
      t.walk true links here ps = .ok (.existing place l) := by
  induction ps generalizing here with
  | nil => rfl
  | cons c ps ih =>
    by_cases hdir : t.node? here = some .dir
    · by_cases hstay : c = [] ∨ c = Path.here
      · have hdrop : ¬ Path.leadsOn c = true := fun hleads => Path.leadsOn_iff.1 hleads hstay
        rw [List.filter_cons_of_neg hdrop, h.walk_cons, if_neg (not_not.2 hdir), if_pos hstay]
        exact ih
      · rw [List.filter_cons_of_pos (Path.leadsOn_iff.2 hstay), h.walk_cons, h.walk_cons]
        simp only [if_neg (not_not.2 hdir), if_neg hstay]
        split_ifs
        · exact ih
        · rfl
        · simp
        · simp
        · simp
        · simp
        · exact ih
    · have hnot : ∀ qs, t.walk true links here qs ≠ .ok (.existing place l) := fun qs hwalk =>
        hdir (FileTree.walk_of_not_dir hdir hwalk ▸ hplace)
      exact iff_of_false (hnot _) (hnot _)

/-- The components that pieces make lead where the pieces lead. -/
lemma walk_namesOf_iff (h : t.NoLinks) (hplace : t.node? place = some .dir) :
    t.walk true links here (Path.namesOf ps) = .ok (.existing place l) ↔
      t.walk true links here ps = .ok (.existing place l) := by
  unfold Path.namesOf
  split_ifs with hfirst
  · rw [List.singleton_append, h.walk_cons]
    by_cases hdir : t.node? here = some .dir
    · rw [if_neg (not_not.2 hdir), if_pos (.inr rfl), h.walk_filter_iff hplace]
    · have hnot : t.walk true links here ps ≠ .ok (.existing place l) := fun hwalk =>
        hdir (FileTree.walk_of_not_dir hdir hwalk ▸ hplace)
      rw [if_pos hdir]
      exact iff_of_false (by simp) hnot
  · rw [List.nil_append, h.walk_filter_iff hplace]

/-- **The components of a path lead where its pieces lead**, if that is a directory. -/
lemma walk_components_iff (h : t.NoLinks) (hplace : t.node? place = some .dir) :
    t.walk true links here p.components = .ok (.existing place l) ↔
      t.walk true links here p.pieces = .ok (.existing place l) := by
  rw [Path.components_eq, h.walk_namesOf_iff hplace]

/-- The links that may be followed stay as many. -/
lemma links_eq (h : t.NoLinks) {b : Bool}
    (hwalk : t.walk b links here ps = .ok (.existing place l)) : l = links := by
  induction ps generalizing here with
  | nil =>
    simp only [walk, Except.ok.injEq, Target.existing.injEq] at hwalk
    exact hwalk.2.symm
  | cons c ps ih =>
    rw [h.walk_cons] at hwalk
    split_ifs at hwalk
    · exact ih hwalk
    · exact ih hwalk
    · simp at hwalk
    · exact ih hwalk

/-- A walk through pieces and then others passes a directory. -/
lemma exists_walk_append (h : t.NoLinks) {qs : List Bytes}
    (hwalk : t.walk true links here (ps ++ qs) = .ok (.existing place l))
    (hplace : t.node? place = some .dir) :
    ∃ mid, t.walk true links here ps = .ok (.existing mid links) ∧ t.node? mid = some .dir ∧
      t.walk true links mid qs = .ok (.existing place l) := by
  cases qs with
  | nil =>
    rw [List.append_nil] at hwalk
    obtain rfl := h.links_eq hwalk
    exact ⟨place, hwalk, hplace, by rw [walk]⟩
  | cons q qs =>
    rw [walk_append t true links here ps (by simp)] at hwalk
    split at hwalk
    · rename_i mid k hmid
      obtain rfl := h.links_eq hmid
      refine ⟨mid, hmid, ?_, hwalk⟩
      by_contra hdir
      rw [h.walk_of_not_dir true hdir] at hwalk
      simp at hwalk
    · simp at hwalk
    · simp at hwalk

end NoLinks

/-! ## Slashes at the end of a path -/

/-- What is cut off a path are slashes. -/
lemma bytes_trimSlashes (p : Path) :
    ∃ k, p.bytes = (trimSlashes p).bytes ++ List.replicate k Path.slash := by
  set cut := p.bytes.reverse.takeWhile (· == Path.slash) with hcut
  refine ⟨cut.length, ?_⟩
  have hslashes : cut.reverse = List.replicate cut.length Path.slash := by
    rw [List.eq_replicate_iff]
    refine ⟨List.length_reverse, fun a ha => ?_⟩
    simpa using List.all_eq_true.1 List.all_takeWhile a (List.mem_reverse.1 ha)
  rw [← hslashes, trimSlashes, hcut, ← List.reverse_append, List.takeWhile_append_dropWhile,
    List.reverse_reverse]

/-- **The pieces of a path** are those of the path without slashes at its end, and empty ones. -/
lemma pieces_trimSlashes (p : Path) :
    ∃ k, p.pieces = (trimSlashes p).pieces ++ List.replicate k [] := by
  obtain ⟨k, hk⟩ := bytes_trimSlashes p
  refine ⟨k, ?_⟩
  have hsplit : ∀ (bs : Bytes) (k : Nat), Text.splitOn Path.slash
      (bs ++ List.replicate k Path.slash) =
        Text.splitOn Path.slash bs ++ List.replicate k [] := by
    intro bs k
    induction k with
    | zero => simp
    | succ k ih =>
      rw [List.replicate_succ', ← List.append_assoc, Text.splitOn_append_cons, ih,
        Text.splitOn_nil, List.replicate_succ', List.append_assoc]
  rw [Path.pieces, hk, hsplit, ← Path.pieces]

/-- A path without slashes at its end has something after its last slash. -/
lemma exists_last_piece (p : Path) (hp : (trimSlashes p).bytes ≠ []) :
    ∃ dirs last, (trimSlashes p).pieces = dirs ++ [last] ∧ last ≠ [] := by
  have hend : (trimSlashes p).bytes.getLast? ≠ some Path.slash := by
    rw [trimSlashes, List.getLast?_reverse]
    intro hhead
    have hnot := List.head?_dropWhile_not (· == Path.slash) p.bytes.reverse
    simp [hhead] at hnot
  cases hcut : Text.splitLast? Path.slash (trimSlashes p).bytes with
  | none =>
    have hmem := Text.splitLast?_eq_none_iff.1 hcut
    exact ⟨[], _, Text.splitOn_of_not_mem hmem, hp⟩
  | some cut =>
    obtain ⟨dirs, last⟩ := cut
    obtain ⟨hbytes, hmem⟩ := Text.splitLast?_eq_some_iff.1 hcut
    refine ⟨Text.splitOn Path.slash dirs, last, ?_, ?_⟩
    · rw [Path.pieces, hbytes, Text.splitOn_append_cons, Text.splitOn_of_not_mem hmem]
    · rintro rfl
      simp [hbytes] at hend

/-- A path of slashes has no components. -/
lemma trimSlashes_ne_nil (hp : p.components ≠ []) : (trimSlashes p).bytes ≠ [] := by
  intro hnil
  obtain ⟨k, hk⟩ := pieces_trimSlashes p
  have hpieces : (trimSlashes p).pieces = [[]] := by rw [Path.pieces, hnil, Text.splitOn_nil]
  rw [hpieces] at hk
  have hnone : Path.namesOf ([[]] ++ List.replicate k []) = [] := by
    simp [Path.namesOf, Path.leadsOn, Path.here]
  exact hp (by rw [Path.components_eq, hk, hnone])

/-- A path starts where it starts without the slashes at its end. -/
lemma isAbsolute_trimSlashes (hp : p.components ≠ []) :
    (trimSlashes p).isAbsolute = p.isAbsolute := by
  obtain ⟨k, hk⟩ := bytes_trimSlashes p
  obtain ⟨a, r, hbytes⟩ := List.exists_cons_of_ne_nil (trimSlashes_ne_nil hp)
  rw [Path.isAbsolute, Path.isAbsolute, hk, hbytes]
  rfl

/-- A path leads to a directory exactly if it does without the slashes at its end. -/
lemma walk_trimSlashes_iff (t : FileTree) (hplace : t.node? place = some .dir) :
    t.walk true links here (trimSlashes p).pieces = .ok (.existing place l) ↔
      t.walk true links here p.pieces = .ok (.existing place l) := by
  have hempty : ∀ (place : Place) (l k : Nat), t.node? place = some .dir →
      t.walk true l place (List.replicate k []) = .ok (.existing place l) := by
    intro place l k hdir
    induction k with
    | zero => rw [List.replicate_zero, walk]
    | succ k ih =>
      rw [List.replicate_succ, walk, if_neg (not_not.2 hdir), if_pos (.inl rfl), ih]
  obtain ⟨k, hk⟩ := pieces_trimSlashes p
  rw [hk]
  cases k with
  | zero => rw [List.replicate_zero, List.append_nil]
  | succ k =>
    rw [walk_append t true links here _ (by simp)]
    constructor
    · intro hwalk
      simp only [hwalk, hempty place l (k + 1) hplace]
    · intro hwalk
      split at hwalk
      · rename_i place' l' hwalk'
        have hdir : t.node? place' = some .dir := by
          by_contra hdir
          simp [List.replicate_succ, walk, hdir] at hwalk
        rw [hempty place' l' (k + 1) hdir] at hwalk
        rw [hwalk', hwalk]
      · simp at hwalk
      · simp at hwalk

/-- Without the slashes at its end a path can still be looked up. -/
lemma IsUsable.trimSlashes (h : IsUsable p) (hp : p.components ≠ []) :
    IsUsable (trimSlashes p) := by
  obtain ⟨k, hk⟩ := bytes_trimSlashes p
  refine ⟨trimSlashes_ne_nil hp, fun hmem => h.zero_not_mem ?_, ?_⟩
  · rw [hk]
    exact List.mem_append_left _ hmem
  · have hlength := h.length_le
    rw [hk, List.length_append] at hlength
    omega

/-- A directory is made where the path without slashes at its end leads to a free name. -/
lemma NoLinks.makeDir_eq (h : t.NoLinks) (husable : IsUsable p) (hp : p.components ≠ []) :
    t.makeDir p =
      match t.walk true maxLinks (t.startOf p) (FileTree.trimSlashes p).pieces with
      | .ok (.free directory name) => .ok (t.set (directory ++ [name]) .dir)
      | .ok (.existing _ _) => .error .exists
      | .error e => .error e := by
  have hlocate : t.locate false (FileTree.trimSlashes p) =
      t.walk true maxLinks (t.startOf p) (FileTree.trimSlashes p).pieces := by
    rw [locate_of_isUsable (husable.trimSlashes hp), h.walk_eq, startOf, isAbsolute_trimSlashes hp,
      startOf]
  exact (if_neg (Nat.not_lt.2 husable.length_le)).trans (hlocate ▸ rfl)

end FileTree

end BenchTally
