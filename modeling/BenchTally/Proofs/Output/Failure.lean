import BenchTally.Proofs.Output.Directories

set_option autoImplicit false
set_option relaxedAutoImplicit false

/-!
# What a failed writing leaves behind

## Main definitions

* `PartlyWrote` — a tree in which some sheets were written and others were not touched.

## Main results

* `exists_split_of_failure` — the writing of sheets ends with the first that fails.
* `partlyWrote_of_failure` — the sheets before it are written, and those after it are not touched.
-/

namespace BenchTally

open FileTree

variable {t t' : FileTree} {out d : Path} {s : Sheet} {e : WriteError}
  {sheets before after : List (Path × Sheet)}

/-! ## The sheet that fails -/

/-- **The first sheet that fails** ends the writing: those before it are written. -/
lemma exists_split_of_failure (h : (writeSheets t sheets).failure = some e) :
    ∃ before s after, sheets = before ++ s :: after ∧
      (writeSheets t before).failure = none ∧
      (writeSheets t sheets).written = (writeSheets t before).written ∧
      writeSheet (writeSheets t before).tree s.1 s.2 = ((writeSheets t sheets).tree, .error e) := by
  induction sheets generalizing t with
  | nil => simp [writeSheets] at h
  | cons s sheets ih =>
    obtain ⟨d, s⟩ := s
    rcases hstep : writeSheet t d s with ⟨t₁, e' | written⟩
    · simp only [writeSheets, hstep, Option.some.injEq] at h ⊢
      exact ⟨[], (d, s), sheets, rfl, rfl, rfl, by rw [writeSheets, hstep, h]⟩
    · simp only [writeSheets, hstep] at h ⊢
      obtain ⟨before, s', after, rfl, hbefore, hwritten, hfail⟩ := ih h
      exact ⟨(d, s) :: before, s', after, rfl, by simp only [writeSheets, hstep, hbefore],
        by simp only [writeSheets, hstep, hwritten], by simp only [writeSheets, hstep, hfail]⟩

/-! ## The sheets before and after it -/

/-- A tree in which the first sheets were written, one failed, and the last were not touched: the
failure names the directory or the file of the one that failed; the first can be read; a file of one
of the last stands in its place exactly if it did, and can be read if it could; and nothing else
changes except that directories are added, and that the file of the sheet that failed holds what is
left of it if its writing broke off. -/
structure PartlyWrote (t t' : FileTree) (e : WriteError) (before : List (Path × Sheet))
    (s : Path × Sheet) (after : List (Path × Sheet)) : Prop where
  error : e = .createDirectory s.1 ∨ e = .writeTable (s.2.path s.1)
  holds : HoldsSheets t' before
  node?_iff : ∀ a ∈ after, ∀ place, t'.Opens a.1 place → ∀ content,
    t'.node? (place ++ [a.2.fileName]) = some (.file content) ↔
      t.node? (place ++ [a.2.fileName]) = some (.file content)
  readFile : ∀ a ∈ after, ∀ content, t.readFile (a.2.path a.1) = .ok content →
    t'.readFile (a.2.path a.1) = .ok content
  others : ∀ x, t'.node? x = t.node? x ∨ (t.node? x = none ∧ t'.node? x = some .dir) ∨
    (∃ b ∈ before, t'.placeOf (b.2.path b.1) = .ok x) ∨
    e = .writeTable (s.2.path s.1) ∧ t'.placeOf (s.2.path s.1) = .ok x ∧
      ∃ left, t.leftOver? (s.2.path s.1) = some left ∧ t'.node? x = some (.file left)

/-- Where sheets were written, they still are when directories are added. -/
lemma WroteSheets.of_gainsDirs {t₁ : FileTree} (h : WroteSheets t t₁ sheets)
    (hgain : GainsDirs t₁ t') : WroteSheets t t' sheets := by
  have hplace : ∀ {s : Path × Sheet} {x : Place}, s ∈ sheets →
      t₁.placeOf (s.2.path s.1) = .ok x → t'.placeOf (s.2.path s.1) = .ok x := by
    intro s x hs hx
    exact placeOf_mono hgain.keepsWays (fun c hc => ⟨c, hgain.node? hc⟩) hx
  refine ⟨⟨h.keepsWays.trans hgain.keepsWays, fun s hs => ?_, fun x => ?_⟩,
    fun s hs => hgain.readFile (h.holds s hs)⟩
  · obtain ⟨place, hopen, hat⟩ := h.placeOf s hs
    exact ⟨place, hopen.mono hgain.keepsWays, hplace hs hat⟩
  · rcases hgain.node?_eq x with heq | ⟨hnone, hdir⟩
    · rw [heq]
      exact (h.others x).imp_right (.imp_right fun ⟨s, hs, hat⟩ => ⟨s, hs, hplace hs hat⟩)
    · rcases h.others x with heq | ⟨-, hdir'⟩ | ⟨s, hs, hat⟩
      · exact .inr (.inl ⟨heq ▸ hnone, hdir⟩)
      · simp [hdir'] at hnone
      · exact .inr (.inr ⟨s, hs, hplace hs hat⟩)

/-- **What is left of a sheet whose writing broke off** stands at its place. It touches none of the
sheets that were written before, if they are at other places. -/
lemma WroteSheets.of_brokenOff {s : Path × Sheet} {place : Place} {left : Bytes}
    (h : WroteSheets t t' before) (hopen : t'.Opens s.1 place)
    (hname : IsNameIn s.1 s.2.fileName)
    (hkeep : KeepsWays t' (t'.set (place ++ [s.2.fileName]) (.file left)))
    (hother : ∀ b ∈ before, ∀ place', t'.Opens b.1 place' →
      place' ++ [b.2.fileName] ≠ place ++ [s.2.fileName]) :
    TouchedSheets t (t'.set (place ++ [s.2.fileName]) (.file left)) (before ++ [s]) ∧
      HoldsSheets (t'.set (place ++ [s.2.fileName]) (.file left)) before ∧
      (t'.set (place ++ [s.2.fileName]) (.file left)).placeOf (s.2.path s.1) =
        .ok (place ++ [s.2.fileName]) ∧
      (t'.set (place ++ [s.2.fileName]) (.file left)).node? (place ++ [s.2.fileName]) =
        some (.file left) := by
  set x := place ++ [s.2.fileName] with hx
  have hset : ∀ y, (t'.set x (.file left)).node? y =
      if y = x then some (.file left) else t'.node? y :=
    fun y => node?_set t' (by simp [hx]) y _
  have hplace := placeOf_join (hopen.mono hkeep) hname ((hset x).trans (if_pos rfl))
  have hplaceOf : ∀ {b : Path × Sheet} {y}, t'.placeOf (b.2.path b.1) = .ok y →
      (t'.set x (.file left)).placeOf (b.2.path b.1) = .ok y := by
    intro b y hy
    refine placeOf_mono hkeep (fun c hc => ?_) hy
    rw [hset]
    split_ifs
    · exact ⟨left, rfl⟩
    · exact ⟨c, hc⟩
  refine ⟨⟨h.keepsWays.trans hkeep, fun b hb => ?_, fun y => ?_⟩, fun b hb => ?_, hplace,
    (hset x).trans (if_pos rfl)⟩
  · rcases List.mem_append.1 hb with hb | hb
    · obtain ⟨place', hopen', hat⟩ := h.placeOf b hb
      exact ⟨place', hopen'.mono hkeep, hplaceOf hat⟩
    · rw [List.mem_singleton.1 hb]
      exact ⟨place, hopen.mono hkeep, hplace⟩
  · rw [hset]
    split_ifs with hy
    · exact .inr (.inr ⟨s, by simp, by rw [hy]; exact hplace⟩)
    · exact (h.others y).imp_right (.imp_right fun ⟨b, hb, hat⟩ =>
        ⟨b, List.mem_append_left _ hb, hplaceOf hat⟩)
  · obtain ⟨place', hopen', hat⟩ := h.placeOf b hb
    exact readFile_mono hkeep ((hset _).trans (if_neg (hother b hb place' hopen'))) hat
      (h.holds b hb)

/-- **Sheets that are not written** are not touched by what becomes of others, where no link stands
in the output directory and no two sheets have the same directory and the same name.

**Proof sketch.** A file that changes is that of a touched sheet, which stands at another place. -/
lemma TouchedSheets.untouched {touched : List (Path × Sheet)} (h : TouchedSheets t t' touched)
    (hin : ∀ s ∈ touched ++ after, s.1.IsIn out)
    (hslash : ∀ s ∈ after, '/' ∉ s.2.name.toList)
    (hnodup : ((touched ++ after).map fun s => (s.1, s.2.name)).Nodup)
    (hfree : touched ≠ [] → t'.LinkFreeBelow out) :
    (∀ a ∈ after, ∀ place, t'.Opens a.1 place → ∀ content,
      t'.node? (place ++ [a.2.fileName]) = some (.file content) ↔
        t.node? (place ++ [a.2.fileName]) = some (.file content)) ∧
    ∀ a ∈ after, ∀ content, t.readFile (a.2.path a.1) = .ok content →
      t'.readFile (a.2.path a.1) = .ok content := by
  have hapart : ∀ b ∈ touched, ∀ a ∈ after, ∀ place, t'.Opens a.1 place →
      t'.placeOf (b.2.path b.1) ≠ .ok (place ++ [a.2.fileName]) := by
    intro b hb a ha place hopen hat
    obtain ⟨place', hopen', hat'⟩ := h.placeOf b hb
    rw [hat, Except.ok.injEq] at hat'
    have hne := (List.pairwise_append.1 (List.pairwise_map.1 hnodup)).2.2 b hb a ha
    exact append_fileName_ne (hin b (List.mem_append_left after hb))
      (hin a (List.mem_append_right touched ha)) (hfree (List.ne_nil_of_mem hb)).linkFree hne
      hopen' hopen hat'.symm
  refine ⟨fun a ha place hopen content => ?_, fun a ha content hread => ?_⟩
  · rcases h.others (place ++ [a.2.fileName]) with heq | ⟨hnone, hdir⟩ | ⟨b, hb, hat⟩
    · rw [heq]
    · simp [hnone, hdir]
    · exact absurd hat (hapart b hb a ha place hopen)
  · obtain ⟨x, hx, hfile⟩ := exists_placeOf_of_readFile hread
    refine readFile_mono h.keepsWays ?_ hx hread
    rcases h.others x with heq | ⟨hnone, -⟩ | ⟨b, hb, hat⟩
    · exact heq
    · simp [hnone] at hfile
    · have hlink := (hfree (List.ne_nil_of_mem hb)).of_isIn (hin a (List.mem_append_right _ ha))
      obtain ⟨place, hopen, rfl, -⟩ := exists_opens_of_placeOf
        (Sheet.isName_fileName (hslash a ha)) (hlink.linkFree.of_keepsWays h.keepsWays) hx
      exact absurd hat (hapart b hb a ha place (hopen.mono h.keepsWays))

section Failing

variable {dirs : List Path} {s : Path × Sheet} (hdirs : ∀ d ∈ dirs, d.IsIn out)
  (hmem : ∀ a ∈ before ++ s :: after, a.1 ∈ dirs)
  (hslash : ∀ a ∈ before ++ s :: after, '/' ∉ a.2.name.toList)
  (hnodup : ((before ++ s :: after).map fun a => (a.1, a.2.name)).Nodup)
  (hwrote : WroteSheets t t' before) (hfree : ∀ d ∈ dirs, (t'.makeDirs d).1.LinkFreeBelow out)

include hdirs hmem hslash hnodup hwrote hfree

/-- Where the file of the sheet that fails is not opened, new directories are all that the failure
leaves. -/
lemma partlyWrote_of_unopened (herror : e = .createDirectory s.1 ∨ e = .writeTable (s.2.path s.1)) :
    PartlyWrote t (t'.makeDirs s.1).1 e before s after := by
  have hgain := gainsDirs_makeDirs t' s.1
  have hmade := hwrote.of_gainsDirs hgain
  have hsub : before.Sublist (before ++ s :: after) := List.sublist_append_left _ _
  have hsub' : (before ++ after).Sublist (before ++ s :: after) :=
    (List.sublist_cons_self s after).append_left before
  -- A written sheet has its directory in the output directory, which therefore is there.
  have hbelow : before ≠ [] → (t'.makeDirs s.1).1.LinkFreeBelow out := fun hnil => by
    obtain ⟨b, hb⟩ := List.exists_mem_of_ne_nil before hnil
    have hdir := hmem b (hsub.subset hb)
    obtain ⟨place, hopen, -⟩ := hwrote.placeOf b hb
    have hbelow := (hfree b.1 hdir).of_keepsWays (gainsDirs_makeDirs _ _).keepsWays
    obtain ⟨above, habove, -⟩ := hopen.of_isIn (hdirs b.1 hdir) hbelow.linkFree
    exact hbelow.of_gainsDirs habove hgain
  obtain ⟨hnode, hread⟩ := hmade.untouched (fun a ha => hdirs _ (hmem a (hsub'.subset ha)))
    (fun a ha => hslash a (by simp [ha])) (hnodup.sublist (hsub'.map _)) hbelow
  exact ⟨herror, hmade.holds, hnode, hread, fun x => (hmade.others x).imp_right (.imp_right .inl)⟩

/-- Where its writing breaks off, its own file holds what is left of it. -/
lemma partlyWrote_of_brokenOff {t₁ : FileTree} {left : Bytes}
    (hleft : t.leftOver? (s.2.path s.1) = some left)
    (hwrite : (t'.makeDirs s.1).1.writeFile (s.2.path s.1) left = .ok t₁) :
    PartlyWrote t t₁ (.writeTable (s.2.path s.1)) before s after := by
  have hin : ∀ a ∈ before ++ s :: after, a.1.IsIn out := fun a ha => hdirs _ (hmem a ha)
  have hs : s.1.IsIn out := hin s (by simp)
  have hbelow := hfree s.1 (hmem s (by simp))
  have hlink := (hbelow.of_isIn hs).linkFree
  obtain ⟨place, hopen, hdir, rfl, hname⟩ :=
    writeFile_join (Sheet.isName_fileName (hslash s (by simp))) hlink hwrite
  have hkeep := keepsWays_set_file left (by simp) hdir (hlink place hopen s.2.fileName)
  have hother : ∀ b ∈ before, ∀ place', (t'.makeDirs s.1).1.Opens b.1 place' →
      place' ++ [b.2.fileName] ≠ place ++ [s.2.fileName] := fun b hb place' hopen' =>
    append_fileName_ne (hin b (by simp [hb])) hs hbelow.linkFree
      ((List.pairwise_append.1 (List.pairwise_map.1 hnodup)).2.2 b hb s (by simp)) hopen' hopen
  obtain ⟨htouched, hholds, hplace, hfile⟩ :=
    (hwrote.of_gainsDirs (gainsDirs_makeDirs t' s.1)).of_brokenOff hopen hname hkeep hother
  have hsheets : before ++ [s] ++ after = before ++ s :: after := by simp
  obtain ⟨hnode, hread⟩ := htouched.untouched (hsheets ▸ hin)
    (fun a ha => hslash a (by simp [ha])) (hsheets ▸ hnodup)
    fun _ => (hbelow.set_file hs hopen hkeep).2
  refine ⟨.inr rfl, hholds, hnode, hread, fun x => ?_⟩
  refine (htouched.others x).imp_right (.imp_right fun ⟨b, hb, hat⟩ => ?_)
  rcases List.mem_append.1 hb with hb | hb
  · exact .inl ⟨b, hb, hat⟩
  · obtain rfl := List.mem_singleton.1 hb
    obtain rfl := Except.ok.inj (hplace.symm.trans hat)
    exact .inr ⟨rfl, hat, left, hleft, hfile⟩

end Failing

/-- **What a failed writing leaves behind.** If a sheet fails, no two sheets have the same directory
and the same name, and no link stands below the output directory, then the failure names the first
sheet that fails, the sheets before it are written, and those after it are not touched.

**Proof sketch.** The sheet that fails adds directories at most, unless its writing breaks off: then
it touches its own file too, and the sheets before and after it are at other places. -/
lemma partlyWrote_of_failure {dirs : List Path} (hdirs : ∀ d ∈ dirs, d.IsIn out)
    (hmem : ∀ s ∈ sheets, s.1 ∈ dirs) (hslash : ∀ s ∈ sheets, '/' ∉ s.2.name.toList)
    (hnodup : (sheets.map fun s => (s.1, s.2.name)).Nodup)
    (hfree : ∀ d ∈ dirs, (t.makeDirs d).1.LinkFreeBelow out)
    (h : (writeSheets t sheets).failure = some e) :
    ∃ before s after, sheets = before ++ s :: after ∧
      (writeSheets t sheets).written = before.map (fun s => s.2.path s.1) ∧
      PartlyWrote t (writeSheets t sheets).tree e before s after := by
  obtain ⟨before, s, after, rfl, hbefore, hwritten, hfail⟩ := exists_split_of_failure h
  refine ⟨before, s, after, rfl, hwritten.trans (written_of_failure hbefore), ?_⟩
  obtain ⟨hwrote, hfree₁⟩ := wroteSheets_of_standApart
    ((standApart_of_isIn hdirs hmem hslash hnodup).sublist (List.sublist_append_left _ _)) hfree
    hbefore
  have hsame := leftOver?_writeSheets t before
  have hstep := sheetOutcome_writeSheet (writeSheets t before).tree s.1 s.2
  rw [hfail] at hstep
  generalize (writeSheets t (before ++ s :: after)).tree = t' at hstep ⊢
  cases hstep with
  | notCreated =>
    exact partlyWrote_of_unopened hdirs hmem hslash hnodup hwrote hfree₁ (.inl rfl)
  | notOpened => exact partlyWrote_of_unopened hdirs hmem hslash hnodup hwrote hfree₁ (.inr rfl)
  | brokenOff hleft hwrite =>
    exact partlyWrote_of_brokenOff hdirs hmem hslash hnodup hwrote hfree₁ (hsame ▸ hleft) hwrite

end BenchTally
