import BenchTally.Proofs.Files.Below
import BenchTally.Proofs.Output.Writing

set_option autoImplicit false
set_option relaxedAutoImplicit false

/-!
# Sheets in several directories

## Main definitions

* `Path.IsIn` — a directory is another one, or stands directly in it.

## Main results

* `append_fileName_ne` — sheets of different names or directories have files at different places.
* `standApart_of_isIn` — sheets in such directories stand apart where there are no links.
-/

namespace BenchTally

open FileTree

variable {t t' : FileTree} {out d d' : Path} {place place' : Place} {s s' : Sheet}

/-- The directory is the other one, or stands directly in it. -/
def Path.IsIn (d out : Path) : Prop :=
  d = out ∨ ∃ name, IsName name ∧ d = out.join ⟨name⟩

namespace FileTree

/-- **The way to a directory in another**: where no link stands in the way, its place is that of the
other directory, or directly in it. -/
lemma Opens.of_isIn (hin : d.IsIn out) (hfree : t.LinkFree out) (h : t.Opens d place) :
    ∃ above, t.Opens out above ∧
      (d = out ∧ place = above ∨
        ∃ name, IsName name ∧ d = out.join ⟨name⟩ ∧ place = above ++ [name]) := by
  rcases hin with rfl | ⟨name, hname, rfl⟩
  · exact ⟨place, h, .inl ⟨rfl, rfl⟩⟩
  · obtain ⟨above, habove, hplace⟩ := h.of_join hname hfree
    exact ⟨above, habove, .inr ⟨name, hname, rfl, hplace⟩⟩

/-- Directories in another that are at one place are the same. -/
lemma Opens.eq_of_isIn (hin : d.IsIn out) (hin' : d'.IsIn out) (hfree : t.LinkFree out)
    (h : t.Opens d place) (h' : t.Opens d' place) : d = d' := by
  obtain ⟨above, habove, hplace⟩ := h.of_isIn hin hfree
  obtain ⟨above', habove', hplace'⟩ := h'.of_isIn hin' hfree
  obtain rfl := habove.unique habove'
  rcases hplace with ⟨rfl, rfl⟩ | ⟨name, -, rfl, rfl⟩
  · rcases hplace' with ⟨rfl, -⟩ | ⟨name', -, -, heq⟩
    · rfl
    · simp at heq
  · rcases hplace' with ⟨-, heq⟩ | ⟨name', -, rfl, heq⟩
    · simp at heq
    · rw [List.append_cancel_left_eq, List.cons.injEq] at heq
      rw [heq.1]

/-- What has no links below it has none below the directories in it. -/
lemma LinkFreeBelow.of_isIn (hin : d.IsIn out) (h : t.LinkFreeBelow out) : t.LinkFreeBelow d := by
  rcases hin with rfl | ⟨name, hname, rfl⟩
  · exact h
  · exact h.join hname

/-- A file in a directory that is without links below leaves it so. -/
lemma LinkFreeBelow.set_file {name c : Bytes} (hin : d.IsIn out) (h : t.LinkFreeBelow out)
    (hopen : t.Opens d place) (hkeep : KeepsWays t (t.set (place ++ [name]) (.file c))) :
    (∃ above, (t.set (place ++ [name]) (.file c)).Opens out above) ∧
      (t.set (place ++ [name]) (.file c)).LinkFreeBelow out := by
  obtain ⟨above, habove, -⟩ := hopen.of_isIn hin h.linkFree
  refine ⟨⟨above, habove.mono hkeep⟩, h.mono habove hkeep fun x target hx => ?_⟩
  rw [node?_set _ (by simp)] at hx
  split_ifs at hx
  · simp at hx
  · exact hx

end FileTree

/-- **Sheets of different names or directories** have files at different places. -/
lemma append_fileName_ne (hin : d.IsIn out) (hin' : d'.IsIn out) (hfree : t.LinkFree out)
    (hne : (d, s.name) ≠ (d', s'.name)) (hopen : t.Opens d place) (hopen' : t.Opens d' place') :
    place ++ [s.fileName] ≠ place' ++ [s'.fileName] := by
  intro heq
  obtain ⟨rfl, hname⟩ := List.append_inj' heq rfl
  refine hne (Prod.ext (hopen.eq_of_isIn hin hin' hfree hopen') ?_)
  exact Sheet.fileName_inj.1 (List.cons.inj hname).1

/-- **Sheets stand apart** in directories without links, the output directory or directories in it,
if no two have the same directory and the same name.

**Proof sketch.** Once the first sheet is written, the output directory stays where it is, and no
link is made below it. -/
lemma standApart_of_isIn {dirs : List Path} {sheets : List (Path × Sheet)}
    (hdirs : ∀ d ∈ dirs, d.IsIn out) (hmem : ∀ s ∈ sheets, s.1 ∈ dirs)
    (hslash : ∀ s ∈ sheets, '/' ∉ s.2.name.toList)
    (hnodup : (sheets.map fun s => (s.1, s.2.name)).Nodup) :
    StandApart (fun t => ∀ d ∈ dirs, (t.makeDirs d).1.LinkFreeBelow out) sheets where
  slash_not_mem := hslash
  linkFree := fun hfree s hs =>
    ((hfree s.1 (hmem s hs)).of_isIn (hdirs s.1 (hmem s hs))).linkFree
  step := fun {t t' written} hfree s hs hstep d hd => by
    have hbelow := hfree s.1 (hmem s hs)
    have hfree' := (hbelow.of_isIn (hdirs s.1 (hmem s hs))).linkFree
    obtain ⟨place, hopen, hdir, rfl, -, -⟩ := writeSheet_eq_ok (hslash s hs) hfree' hstep
    have hkeep := keepsWays_set_file s.2.content (by simp) hdir
      (hfree' place hopen s.2.fileName)
    obtain ⟨⟨above, habove⟩, hset⟩ := hbelow.set_file (hdirs s.1 (hmem s hs)) hopen hkeep
    exact hset.of_gainsDirs habove (gainsDirs_makeDirs _ d)
  apart := fun {t} hfree => by
    refine (List.pairwise_map.1 hnodup).imp_of_mem fun {s s'} hs hs' hne place place' => ?_
    have hkeeps := (gainsDirs_makeDirs t s.1).keepsWays
    have hbelow := (hfree s.1 (hmem s hs)).linkFree.of_keepsWays hkeeps
    exact append_fileName_ne (hdirs s.1 (hmem s hs)) (hdirs s'.1 (hmem s' hs')) hbelow hne

end BenchTally
