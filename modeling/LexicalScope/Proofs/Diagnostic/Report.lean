import LexicalScope.Diagnostic.Basic
import LexicalScope.Proofs.Text.Lines
import LexicalScope.Proofs.Text.Width

/-!
# Diagnostics that can be reported

A pointer is made for any region, but it can be set only if its mark ends within the widest field.
How far it reaches, the line decides on which the region starts, and so it is a question of the
lines of a source whether all of its regions can be reported. Reason, name and help have no say in
it.

* `Pointer.exists_line`, `Pointer.exists_region` — the marks of a source are the parts of its lines
* `Pointer.Fits` — the lines on which every mark can be set
* `fits_of_length_lt`, `fits_iff_length_lt` — short lines, and lines of characters of one column
* `displays_pointTo_iff` — the regions that can be reported
* `forall_displays_iff` — the sources of which every region can be reported
* `pointed_report_iff` — both, and what lengths of lines have to do with it
* `no_report_of_long_line` — a region that cannot be reported
-/

namespace LexicalScope

open Text Text.Width

namespace Pointer

/-! ## Marks and lines -/

/-- **A mark is part of a line,** after a part that is left out. -/
theorem exists_line (source : String) (r : Region) :
    ∃ line ∈ lines source.toList, ∃ lead covered, lead ++ covered <+: line ∧
      (of source r).column = width lead ∧ (of source r).length = max 1 (width covered) := by
  let before := takeBytes r.start source.toList
  let after := dropBytes r.start source.toList
  have hsource : before ++ after = source.toList := takeBytes_append_dropBytes _ _
  have hpart : takeBytes (r.stop - byteLength before) after <+: after :=
    ⟨_, takeBytes_append_dropBytes _ _⟩
  refine ⟨lastLine before ++ firstLine after, ?_, lastLine before, _, ?_, rfl, rfl⟩
  · rw [← hsource]
    exact lastLine_append_firstLine_mem_lines before after
  · exact (List.prefix_append_right_inj _).mpr (firstLine_mono hpart)

/-- **Each part of each line is marked** by the pointer to some region. -/
theorem exists_region {source : String} {line lead covered : List Char}
    (hline : line ∈ lines source.toList) (h : lead ++ covered <+: line) :
    ∃ r, (of source r).column = width lead ∧ (of source r).length = max 1 (width covered) := by
  obtain ⟨rest, rfl⟩ := h
  obtain ⟨before, after, hsource, hbefore, hfeed⟩ := exists_of_mem_lines hline
  simp only [List.mem_append, not_or] at hfeed
  have hcut : source.toList = (before ++ lead) ++ (covered ++ (rest ++ after)) := by
    simp [hsource]
  refine ⟨⟨byteLength (before ++ lead), byteLength (before ++ lead) + byteLength covered⟩, ?_, ?_⟩
  · simp only [of]
    rw [hcut, takeBytes_byteLength, lastLine_append_of_not_mem _ hfeed.1.1, hbefore,
      List.nil_append]
  · simp only [of, Pointer.covered]
    rw [hcut, takeBytes_byteLength, dropBytes_byteLength, Nat.add_sub_cancel_left,
      takeBytes_byteLength, firstLine_of_not_mem hfeed.1.2]

/-! ## Lines on which every mark can be set -/

/-- Wherever on the line a mark starts and ends, it ends within the widest field. -/
def Fits (line : List Char) : Prop :=
  ∀ lead covered, lead ++ covered <+: line → width lead + max 1 (width covered) ≤ widthLimit

/-- Short lines fit. The one column that is left over is for the mark at the end of the line. -/
theorem fits_of_length_lt {line : List Char} (h : 3 * line.length < widthLimit) : Fits line := by
  intro lead covered hpart
  have hlength := hpart.length_le
  have hlead := width_le lead
  have hcovered := width_le covered
  rw [List.length_append] at hlength
  omega

theorem fits_iff_length_lt {line : List Char} (h : ∀ c ∈ line, c.toNat ≤ 0xA0)
    (hline : '\n' ∉ line) : Fits line ↔ line.length < widthLimit := by
  have hwidth : ∀ part, part.Sublist line → width part = part.length := fun part hpart =>
    width_of_narrow (fun c hc => h c (hpart.subset hc)) fun hc => hline (hpart.subset hc)
  constructor
  · intro hfits
    -- the widest mark is the one behind the line
    have hend := hfits line [] (by simp)
    rw [hwidth line (List.Sublist.refl line)] at hend
    omega
  · intro hlength lead covered hpart
    have hle := hpart.length_le
    have hlead : lead.Sublist line := (List.sublist_append_left lead covered).trans hpart.sublist
    have hcovered : covered.Sublist line :=
      (List.sublist_append_right lead covered).trans hpart.sublist
    rw [List.length_append] at hle
    rw [hwidth lead hlead, hwidth covered hcovered]
    omega

end Pointer

namespace Diagnostic

/-! ## Reports -/

/-- The diagnostic has a report, and the parts of it can be told after the report. -/
def Displays (d : Diagnostic) : Prop :=
  ∃ text, d.report = .ok text ∧ d.inspect = .ok (text ++ "\n" ++ d.outline.inline)

/-- The report is the summary with the lines of the pointer after it. -/
theorem report_pointTo (d : Diagnostic) (source : String) (r : Region) :
    (d.pointTo source r).report =
      ((Pointer.of source r).render? d.name d.help).elim (.error .tooWide)
        fun lines => .ok (d.summary ++ lines) := by
  unfold report pointTo
  simp only [Visual.render]
  cases (Pointer.of source r).render? d.name d.help <;> rfl

/-- A region is reported if its mark can be set. -/
theorem displays_pointTo_of_le {d : Diagnostic} {source : String} {r : Region}
    (h : (Pointer.of source r).column + (Pointer.of source r).length ≤ Pointer.widthLimit) :
    (d.pointTo source r).Displays := by
  obtain ⟨lines, hlines⟩ : ∃ lines, (Pointer.of source r).render? d.name d.help = some lines := by
    unfold Pointer.render?
    rw [if_pos h]
    exact ⟨_, rfl⟩
  have hreport := report_pointTo d source r
  rw [hlines, Option.elim_some] at hreport
  exact ⟨_, hreport, by rw [inspect, hreport]⟩

/-- If its mark cannot be set, both ways to show the diagnostic are cut short. -/
theorem report_pointTo_of_lt {d : Diagnostic} {source : String} {r : Region}
    (h : Pointer.widthLimit < (Pointer.of source r).column + (Pointer.of source r).length) :
    (d.pointTo source r).report = .error .tooWide ∧
      (d.pointTo source r).inspect = .error .tooWide := by
  have hlines : (Pointer.of source r).render? d.name d.help = none := by
    unfold Pointer.render?
    rw [if_neg (Nat.not_le.mpr h)]
  have hreport := report_pointTo d source r
  rw [hlines, Option.elim_none] at hreport
  exact ⟨hreport, by rw [inspect, hreport]⟩

theorem displays_pointTo_iff {d : Diagnostic} {source : String} {r : Region} :
    (d.pointTo source r).Displays ↔
      (Pointer.of source r).column + (Pointer.of source r).length ≤ Pointer.widthLimit := by
  constructor
  · rintro ⟨text, hreport, -⟩
    by_contra h
    rw [(report_pointTo_of_lt (Nat.not_le.mp h)).1] at hreport
    cases hreport
  · exact displays_pointTo_of_le

/-- **A source can be reported everywhere** exactly if every mark can be set on all its lines. -/
theorem forall_displays_iff (d : Diagnostic) (source : String) :
    (∀ r, (d.pointTo source r).Displays) ↔ ∀ line ∈ lines source.toList, Pointer.Fits line := by
  simp only [displays_pointTo_iff]
  constructor
  · intro h line hline lead covered hpart
    obtain ⟨r, hcolumn, hlength⟩ := Pointer.exists_region hline hpart
    have hr := h r
    rwa [hcolumn, hlength] at hr
  · intro h r
    obtain ⟨line, hline, lead, covered, hpart, hcolumn, hlength⟩ := Pointer.exists_line source r
    rw [hcolumn, hlength]
    exact h line hline lead covered hpart

/-- **When a pointed-at diagnostic can be shown.** Column and length of the mark are what decides:
up to the widest field there is a report, and past it both ways to show the diagnostic are cut
short, whatever the reason, the name and the help. So every region of a source can be shown exactly
if every mark can be set on each of its lines. A line of fewer than 21845 characters is such a line,
and one of characters up to U+00A0 is if there are fewer than 65535 of them. -/
theorem pointed_report_iff (d : Diagnostic) (source : String) :
    (∀ r, let p := Pointer.of source r
      (p.column + p.length ≤ 65535 → (d.pointTo source r).Displays) ∧
        (65535 < p.column + p.length →
          (d.pointTo source r).report = .error .tooWide ∧
            (d.pointTo source r).inspect = .error .tooWide)) ∧
      ((∀ r, (d.pointTo source r).Displays) ↔ ∀ line ∈ lines source.toList, Pointer.Fits line) ∧
      ((∀ line ∈ lines source.toList, line.length < 21845) →
        ∀ r, (d.pointTo source r).Displays) ∧
      ((∀ c ∈ source.toList, c.toNat ≤ 0xA0) →
        ((∀ r, (d.pointTo source r).Displays) ↔
          ∀ line ∈ lines source.toList, line.length < 65535)) := by
  refine ⟨fun r => ⟨displays_pointTo_of_le, report_pointTo_of_lt⟩, forall_displays_iff d source,
    ?_, ?_⟩
  · intro hshort
    refine (forall_displays_iff d source).mpr fun line hline => Pointer.fits_of_length_lt ?_
    have := hshort line hline
    show 3 * line.length < 65535
    omega
  · intro hnarrow
    rw [forall_displays_iff]
    refine forall₂_congr fun line hline => ?_
    obtain ⟨before, after, hsource, -, hfeed⟩ := exists_of_mem_lines hline
    refine Pointer.fits_iff_length_lt (fun c hc => hnarrow c ?_) hfeed
    simp [hsource, hc]

/-! ## A line that is too long -/

theorem lineFeed_not_mem_replicate (n : Nat) : '\n' ∉ List.replicate n 'x' := by
  intro hc
  exact absurd (List.eq_of_mem_replicate hc) (by decide)

theorem width_replicate (n : Nat) : width (List.replicate n 'x') = n := by
  have hnarrow : ∀ c ∈ List.replicate n 'x', c.toNat ≤ 0xA0 := by
    intro c hc
    rw [List.eq_of_mem_replicate hc]
    decide
  rw [width_of_narrow hnarrow (lineFeed_not_mem_replicate n), List.length_replicate]

theorem byteLength_replicate (n : Nat) : byteLength (List.replicate n 'x') = n := by
  induction n with
  | zero => rfl
  | succ n ih =>
    have hsize : 'x'.utf8Size = 1 := by decide
    rw [List.replicate_succ, byteLength, ih, hsize, Nat.add_comm]

theorem column_replicate {n m : Nat} (h : n ≤ m) (stop : Nat) :
    (Pointer.of (String.ofList (List.replicate m 'x')) ⟨n, stop⟩).column = n := by
  have hsplit : List.replicate m 'x' = List.replicate n 'x' ++ List.replicate (m - n) 'x' := by
    rw [List.replicate_append_replicate, Nat.add_sub_cancel' h]
  have htake := takeBytes_byteLength (List.replicate n 'x') (List.replicate (m - n) 'x')
  rw [byteLength_replicate] at htake
  simp only [Pointer.of, String.toList_ofList]
  rw [hsplit, htake, lastLine_of_not_mem (lineFeed_not_mem_replicate n), width_replicate]

/-- On a line of letters nothing can be pointed at behind the widest field. -/
theorem report_pointTo_replicate (d : Diagnostic) {n m : Nat} (hn : Pointer.widthLimit ≤ n)
    (hm : n ≤ m) (stop : Nat) :
    (d.pointTo (String.ofList (List.replicate m 'x')) ⟨n, stop⟩).report = .error .tooWide ∧
      (d.pointTo (String.ofList (List.replicate m 'x')) ⟨n, stop⟩).inspect = .error .tooWide := by
  refine report_pointTo_of_lt ?_
  have hlength : 1 ≤ (Pointer.of (String.ofList (List.replicate m 'x')) ⟨n, stop⟩).length :=
    Nat.le_max_left _ _
  rw [column_replicate hm]
  omega

/-- The last letter of a line of 65536 cannot be pointed at. -/
theorem no_report_of_long_line :
    let d : Diagnostic := { kind := .undefinedVariable, reason := "undefined variable" }
    let e := d.pointTo (String.ofList (List.replicate 65536 'x')) ⟨65535, 65536⟩
    e.report = .error .tooWide ∧ e.inspect = .error .tooWide :=
  report_pointTo_replicate _ (by decide) (by decide) 65536

end Diagnostic

end LexicalScope
