import LexicalScope.Diagnostic.Basic
import LexicalScope.Proofs.Json.Number
import LexicalScope.Proofs.Text.Lines

/-!
# Reports that can be read back

A report is made of lines. Reason, help, name and source line are free text, and may hold anything
that the layout puts between them: colons, bars, carets, digits. What they cannot hold is a line
feed, and so each of them is found in its line from what stands at the ends of that line. The number
of the line is told twice, and the one before the bar says how wide the margin is.

* `reportLines`, `report_eq_ofLines` — the lines of a report
* `Told`, `told` — what a report tells
* `Told.ofLines?`, `Told.read?` — reading a report
* `Legible`, `read?_report` — every legible diagnostic is read back from its report
* `report_injective` — reports that are equal tell the same
* `report_injective_of_separators` — texts that look like the layout, and what a report leaves out
-/

namespace LexicalScope

open Text

namespace Text

/-- The text that has these lines, with a line feed after each. -/
def ofLines (ls : List (List Char)) : List Char := ls.flatMap fun line => line ++ ['\n']

/-- **The lines of a text of lines are those lines,** and an empty one behind the last line feed. -/
theorem lines_ofLines {ls : List (List Char)} (h : ∀ line ∈ ls, '\n' ∉ line) :
    lines (ofLines ls) = ls ++ [[]] := by
  induction ls with
  | nil => rfl
  | cons line ls ih =>
    obtain ⟨hline, hls⟩ := List.forall_mem_cons.mp h
    have htext : ofLines (line :: ls) = line ++ '\n' :: ofLines ls := by
      simp [ofLines]
    rw [htext, lines_append_lineFeed, lines_of_not_mem hline, ih hls]
    rfl

/-- The digits at the end of a text. -/
def trailingDigits (s : List Char) : List Char := (s.reverse.takeWhile Char.isDigit).reverse

theorem trailingDigits_append {ds : List Char} (hds : ∀ c ∈ ds, c.isDigit = true) (s : List Char) :
    trailingDigits (s ++ ':' :: ds) = ds := by
  have hreverse : ∀ c ∈ ds.reverse, c.isDigit = true := by
    intro c hc
    exact hds c (List.mem_reverse.mp hc)
  have hcolon : ':'.isDigit = false := by decide
  unfold trailingDigits
  rw [List.reverse_append, List.reverse_cons, List.append_assoc, List.singleton_append,
    List.takeWhile_append_of_pos hreverse, List.takeWhile_cons_of_neg (by simp [hcolon]),
    List.append_nil, List.reverse_reverse]

end Text

/-! ## The lines of a report -/

namespace Pointer

/-- The number of the line, counted from one. -/
def number (p : Pointer) : List Char := Nat.toDigits 10 (p.line + 1)

/-- The number of the column, counted from one. -/
def columnNumber (p : Pointer) : List Char := Nat.toDigits 10 (p.column + 1)

/-- What stands before the place, below a line with this number. -/
def placeLead (number : List Char) : List Char := ' ' :: spaces number.length ++ "--> ".toList

/-- What stands before the help, below a line with this number. -/
def helpLead (number : List Char) : List Char := spaces number.length ++ " = help: ".toList

/-- The line that tells the source, the line and the column. -/
def placeLine (p : Pointer) (name : List Char) : List Char :=
  placeLead p.number ++ ((name ++ ':' :: p.number) ++ ':' :: p.columnNumber)

/-- The empty margin above the text. -/
def barLine (p : Pointer) : List Char := ' ' :: spaces p.number.length ++ " |".toList

/-- The line of the source with its number. -/
def sourceLine (p : Pointer) : List Char := ' ' :: (p.number ++ (" | ".toList ++ p.text.toList))

/-- The margin, the mark under the region, and the dashes after a short mark. -/
def markLine (p : Pointer) : List Char :=
  ' ' :: spaces p.number.length ++ " | ".toList ++
    highlight (spaces p.column ++ List.replicate p.length '^') ++
      List.replicate (3 - p.length) '-'

/-- The help at the foot of the report. -/
def helpLine (p : Pointer) (help : String) : List Char := helpLead p.number ++ help.toList

/-- The equation that is made of the definition takes the codes of the colours for lists, which is
slow. -/
theorem highlight_eq (s : List Char) :
    highlight s = "\x1b[33m".toList ++ s ++ "\x1b[0m".toList := rfl

/-- The lines of a pointer, without the one that it is put behind. -/
def renderLines (p : Pointer) (name help : Option String) : List (List Char) :=
  [p.placeLine (name.getD "?").toList, p.barLine, p.sourceLine, p.markLine, p.barLine] ++
    (help.map p.helpLine).toList

/-- A pointer whose mark can be set is printed line by line. -/
theorem render?_eq_ofLines {p : Pointer} (h : p.column + p.length ≤ widthLimit)
    (name help : Option String) :
    p.render? name help = some (String.ofList ('\n' :: ofLines (p.renderLines name help))) := by
  unfold render?
  rw [if_pos h]
  cases help <;>
    simp [renderLines, ofLines, placeLine, barLine, sourceLine, markLine, helpLine, placeLead,
      helpLead, number, columnNumber]

end Pointer

namespace Diagnostic

/-- What stands before the reason. -/
def summaryLead : List Char := "\x1b[31merror\x1b[0m: ".toList

/-- What stands before the help where there is no pointer. -/
def plainHelpLead : List Char := "  = help: ".toList

/-- The lines of the report of a diagnostic whose visual, if any, is a pointer. -/
def reportLines (d : Diagnostic) : List (List Char) :=
  (summaryLead ++ d.reason.toList) ::
    match d.visual with
    | some (.pointer p) => p.renderLines d.name d.help
    | _ => (d.help.map fun help => plainHelpLead ++ help.toList).toList

/-- A diagnostic without line feeds in its texts, which points to a place of a source or to none,
and whose mark can be set. -/
structure Legible (d : Diagnostic) : Prop where
  reason : '\n' ∉ d.reason.toList
  help : ∀ help ∈ d.help, '\n' ∉ help.toList
  name : ∀ name ∈ d.name, '\n' ∉ name.toList
  visual : d.visual = none ∨ ∃ source r, d.visual = some (.pointer (.of source r)) ∧
    (Pointer.of source r).column + (Pointer.of source r).length ≤ 65535

variable {d : Diagnostic}

theorem toList_summary (d : Diagnostic) :
    d.summary.toList = summaryLead ++ d.reason.toList := String.toList_append

/-- **The report is its lines.** -/
theorem report_eq_ofLines (h : d.Legible) :
    d.report = .ok (String.ofList (ofLines d.reportLines)) := by
  unfold report reportLines
  obtain hnone | ⟨source, r, hpointer, hfits⟩ := h.visual
  · simp only [hnone]
    cases d.help with
    | none =>
      refine congrArg Except.ok (String.toList_inj.mp ?_)
      simp [ofLines, toList_summary]
    | some help =>
      have hlead : "\n  = help: ".toList = '\n' :: plainHelpLead := rfl
      refine congrArg Except.ok (String.toList_inj.mp ?_)
      simp only [String.toList_append, hlead, toList_summary]
      simp [ofLines]
  · simp only [hpointer, Visual.render, Pointer.render?_eq_ofLines hfits]
    refine congrArg Except.ok (String.toList_inj.mp ?_)
    simp [ofLines, toList_summary]

end Diagnostic

/-! ## Reading -/

/-- What comes after the part that a line begins with. -/
def afterLead (lead line : List Char) : List Char := line.drop lead.length

theorem afterLead_append (lead s : List Char) : afterLead lead (lead ++ s) = s :=
  List.drop_left

namespace Pointer

/-- The number before the bar. -/
def readNumber (source : List Char) : List Char := (source.drop 1).takeWhile Char.isDigit

/-- The pointer that is told by its lines, and the name that is told with it. -/
def ofLines (place source mark : List Char) : Pointer × String :=
  let number := readNumber source
  let place := afterLead (placeLead number) place
  let column := trailingDigits place
  let name := place.take (place.length - (number.length + column.length + 2))
  ({ line := Nat.ofDigitChars 10 number 0 - 1
     column := Nat.ofDigitChars 10 column 0 - 1
     length := mark.count '^'
     text := String.ofList (afterLead (' ' :: number ++ " | ".toList) source) }, String.ofList name)

/-- The number of the line is read off the margin. -/
theorem readNumber_sourceLine (p : Pointer) : readNumber p.sourceLine = p.number := by
  have hblank : ' '.isDigit = false := by decide
  have hdigits : ∀ c ∈ p.number, c.isDigit = true := Json.isDigit_of_mem_toDigits
  unfold readNumber sourceLine
  rw [List.drop_succ_cons, List.drop_zero, List.takeWhile_append_of_pos hdigits]
  simp [hblank]

/-- The length of the mark is the number of carets. -/
theorem count_markLine (p : Pointer) : p.markLine.count '^' = p.length := by
  simp [markLine, highlight_eq, spaces, List.count_replicate]

/-- **The lines of a pointer tell all of it,** and the name of its source. -/
theorem ofLines_lines (p : Pointer) (name : List Char) :
    ofLines (p.placeLine name) p.sourceLine p.markLine = (p, String.ofList name) := by
  have hplace : afterLead (placeLead p.number) (p.placeLine name) =
      (name ++ ':' :: p.number) ++ ':' :: p.columnNumber := afterLead_append _ _
  have hcolumn : trailingDigits ((name ++ ':' :: p.number) ++ ':' :: p.columnNumber) =
      p.columnNumber := trailingDigits_append Json.isDigit_of_mem_toDigits _
  have hname : ((name ++ ':' :: p.number) ++ ':' :: p.columnNumber).take
      (((name ++ ':' :: p.number) ++ ':' :: p.columnNumber).length -
        (p.number.length + p.columnNumber.length + 2)) = name := by
    rw [List.append_assoc]
    refine List.take_left' ?_
    simp only [List.length_append, List.length_cons]
    omega
  have hsource : afterLead (' ' :: p.number ++ " | ".toList) p.sourceLine = p.text.toList := by
    unfold sourceLine
    rw [← List.append_assoc, ← List.cons_append]
    exact afterLead_append _ _
  unfold ofLines
  simp only [readNumber_sourceLine, hplace, hcolumn, hname, hsource, count_markLine,
    String.ofList_toList]
  simp [number, columnNumber]

/-! Nothing that stands in a line is a line feed. -/

theorem lineFeed_not_mem_text (source : String) (r : Region) :
    '\n' ∉ (of source r).text.toList := by
  simp [of, lineFeed_not_mem_firstLine, lineFeed_not_mem_lastLine]

theorem lineFeed_not_mem_spaces (n : Nat) : '\n' ∉ spaces n := by
  intro hmem
  exact absurd (List.eq_of_mem_replicate hmem) (by decide)

theorem lineFeed_not_mem_digits (n : Nat) : '\n' ∉ Nat.toDigits 10 n := by
  intro hmem
  exact absurd (Json.isDigit_of_mem_toDigits _ hmem) (by decide)

/-- No line of a pointer has a line feed in it, if the texts have none. -/
theorem lineFeed_not_mem_renderLines {p : Pointer} {name help : Option String}
    (htext : '\n' ∉ p.text.toList) (hname : '\n' ∉ (name.getD "?").toList)
    (hhelp : ∀ h ∈ help, '\n' ∉ h.toList) :
    ∀ line ∈ p.renderLines name help, '\n' ∉ line := by
  have hspaces := lineFeed_not_mem_spaces
  have hdigits := lineFeed_not_mem_digits
  refine List.forall_mem_append.mpr ⟨?_, ?_⟩
  · simp [placeLine, barLine, sourceLine, markLine, placeLead, highlight_eq, number, columnNumber,
      hspaces, hdigits, htext, hname]
  · cases help with
    | none => exact fun _ hmem => absurd hmem List.not_mem_nil
    | some help => simp [helpLine, helpLead, hspaces, hhelp help rfl]

end Pointer

/-- What a report tells. -/
structure Told where
  reason : String
  help : Option String
  /-- the pointer, and the name of the source as it is shown -/
  place : Option (Pointer × String)

namespace Told

/-- What is told by the lines of a report. -/
def ofLines? : List (List Char) → Option Told
  | summary :: place :: _ :: source :: mark :: _ :: help => some
    { reason := String.ofList (afterLead Diagnostic.summaryLead summary)
      help := help.head?.map fun line =>
        String.ofList (afterLead (Pointer.helpLead (Pointer.readNumber source)) line)
      place := some (Pointer.ofLines place source mark) }
  | summary :: help => some
    { reason := String.ofList (afterLead Diagnostic.summaryLead summary)
      help := help.head?.map fun line => String.ofList (afterLead Diagnostic.plainHelpLead line)
      place := none }
  | [] => none

/-- What is told by a report. Behind its last line feed there is nothing. -/
def read? (report : String) : Option Told := ofLines? (lines report.toList).dropLast

end Told

namespace Diagnostic

variable {d e : Diagnostic}

/-- What the report of the diagnostic tells. -/
def told (d : Diagnostic) : Told where
  reason := d.reason
  help := d.help
  place :=
    match d.visual with
    | some (.pointer p) => some (p, d.name.getD "?")
    | _ => none

theorem ofLines?_reportLines (h : d.Legible) : Told.ofLines? d.reportLines = some d.told := by
  unfold reportLines told
  obtain hnone | ⟨source, r, hpointer, -⟩ := h.visual
  · cases d.help <;> simp [hnone, Told.ofLines?, afterLead_append]
  · simp only [hpointer, Pointer.renderLines, List.cons_append, List.nil_append, Told.ofLines?,
      Pointer.ofLines_lines, Pointer.readNumber_sourceLine, afterLead_append, String.ofList_toList]
    cases d.help <;> simp [Pointer.helpLine, afterLead_append]

theorem lineFeed_not_mem_reportLines (h : d.Legible) : ∀ line ∈ d.reportLines, '\n' ∉ line := by
  have hsummary : '\n' ∉ summaryLead := by decide
  have hplain : '\n' ∉ plainHelpLead := by decide
  have hhelp := h.help
  refine List.forall_mem_cons.mpr ⟨by simp [hsummary, h.reason], ?_⟩
  obtain hnone | ⟨source, r, hpointer, -⟩ := h.visual
  · simp only [hnone]
    cases hd : d.help with
    | none => exact fun _ hmem => absurd hmem List.not_mem_nil
    | some help => simp [hplain, hhelp help hd]
  · simp only [hpointer]
    refine Pointer.lineFeed_not_mem_renderLines (Pointer.lineFeed_not_mem_text source r) ?_ hhelp
    cases hd : d.name with
    | none => decide
    | some name => exact h.name name hd

/-- **A legible report is read back.** -/
theorem read?_report (h : d.Legible) :
    ∃ text, d.report = .ok text ∧ Told.read? text = some d.told := by
  refine ⟨_, report_eq_ofLines h, ?_⟩
  rw [Told.read?, String.toList_ofList, lines_ofLines (lineFeed_not_mem_reportLines h),
    List.dropLast_concat, ofLines?_reportLines h]

/-- Equal reports tell the same. -/
theorem told_eq_of_report_eq (hd : d.Legible) (he : e.Legible) (h : d.report = e.report) :
    d.told = e.told := by
  obtain ⟨text, hdtext, hdread⟩ := read?_report hd
  obtain ⟨text', hetext, heread⟩ := read?_report he
  obtain rfl : text = text' := Except.ok.inj (hdtext.symm.trans (h.trans hetext))
  exact Option.some.inj (hdread.symm.trans heread)

/-- A report tells no place exactly if there is no visual. -/
theorem place_told_eq_none_iff (h : d.Legible) : d.told.place = none ↔ d.visual = none := by
  unfold told
  obtain hnone | ⟨source, r, hpointer, -⟩ := h.visual
  · simp [hnone]
  · simp [hpointer]

/-- **A report can be read in one way only.** Two diagnostics whose texts are free of line feeds and
whose marks can be set have reports, and if the reports are equal, so are their reasons and their
helps, and they point to the same place of a source of the same name or both to none. -/
theorem report_injective (hd : d.Legible) (he : e.Legible) :
    (∃ text, d.report = .ok text) ∧ (∃ text, e.report = .ok text) ∧
      (d.report = e.report →
        d.reason = e.reason ∧ d.help = e.help ∧ (d.visual = none ↔ e.visual = none) ∧
          ∀ p q, d.visual = some (.pointer p) → e.visual = some (.pointer q) →
            p.line = q.line ∧ p.column = q.column ∧ p.length = q.length ∧ p.text = q.text ∧
              d.name.getD "?" = e.name.getD "?") := by
  obtain ⟨text, hdtext, -⟩ := read?_report hd
  obtain ⟨text', hetext, -⟩ := read?_report he
  refine ⟨⟨text, hdtext⟩, ⟨text', hetext⟩, fun h => ?_⟩
  have htold := told_eq_of_report_eq hd he h
  have hplace : d.told.place = e.told.place := congrArg (·.place) htold
  refine ⟨congrArg (·.reason) htold, congrArg (·.help) htold, ?_, fun p q hp hq => ?_⟩
  · rw [← place_told_eq_none_iff hd, ← place_told_eq_none_iff he, hplace]
  · have hshown : some (p, d.name.getD "?") = some (q, e.name.getD "?") := by
      simpa only [told, hp, hq] using hplace
    obtain ⟨rfl, hname⟩ := Prod.mk.inj (Option.some.inj hshown)
    exact ⟨rfl, rfl, rfl, rfl, hname⟩

/-- Texts that are full of what the layout puts between them. The kind is not told, and no name is
told like a question mark; but a digit that goes from the name to the line number is found out. -/
theorem report_injective_of_separators :
    let d : Diagnostic :=
      { kind := .service, reason := "a: b", help := some " | = help: ^\x1b[0m", name := some "?" }
    let e : Diagnostic := { d with kind := .invalidName, name := none }
    let source := "1 | x\n--> y:2:1 | ^^--\x1b[33m"
    let r : Region := ⟨8, 12⟩
    (d.pointTo source r).Legible ∧ (e.pointTo source r).Legible ∧
      (d.pointTo source r).report = (e.pointTo source r).report ∧
      (d.pointTo source r).report ≠ ({ e with name := some "?:2" }.pointTo source r).report := by
  intro d e source r
  have hfits : (Pointer.of source r).column + (Pointer.of source r).length ≤ 65535 := by decide
  have hreason : '\n' ∉ d.reason.toList := by decide
  have hhelp : ∀ help ∈ d.help, '\n' ∉ help.toList := by decide
  have hlegible : ∀ kind name, (∀ n ∈ name, '\n' ∉ n.toList) →
      ({ d with kind := kind, name := name }.pointTo source r).Legible := by
    intro kind name hname
    exact ⟨hreason, hhelp, hname, Or.inr ⟨source, r, rfl, hfits⟩⟩
  have hd := hlegible .service (some "?") (by decide)
  have he := hlegible .invalidName none (by decide)
  have hequal : (d.pointTo source r).report = (e.pointTo source r).report := by
    rw [report_eq_ofLines hd, report_eq_ofLines he]
    rfl
  refine ⟨hd, he, hequal, fun hreport => ?_⟩
  obtain ⟨_, _, htold⟩ := report_injective hd (hlegible .invalidName (some "?:2") (by decide))
  obtain ⟨_, _, _, hplace⟩ := htold hreport
  obtain ⟨_, _, _, _, hname⟩ := hplace _ _ rfl rfl
  exact absurd hname (by decide)

end Diagnostic

end LexicalScope
