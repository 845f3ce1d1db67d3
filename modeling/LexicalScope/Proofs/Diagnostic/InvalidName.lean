import LexicalScope.Proofs.Diagnostic.Legible
import LexicalScope.Proofs.Text.Quoted
import LexicalScope.Table.Lemmas

/-!
# Names that are refused

A name that is not valid may hold line feeds, escape sequences, quotes and whatever looks like an
escape. The help of its refusal quotes it, and so tells it from every other name and shows it on one
line. What steers a terminal in the report is there for every name alike.

* `Refusal.help_invalidName_inj` — the help tells the name
* `Refusal.plain_help_invalidName` — the help is plain
* `Diagnostic.help_mem_lines` — in a legible report the help is at the end of one line
* `Refusal.invalid_name_shown` — all of it together, from the declaration to the report
-/

namespace LexicalScope

open Text

namespace Text

/-- A plain text has no control characters. -/
theorem Plain.filter_isControl {cs : List Char} (h : Plain cs) : cs.filter isControl = [] :=
  List.filter_eq_nil_iff.mpr fun c hc => Bool.eq_false_iff.mp (h c hc).1

theorem Plain.lineFeed_not_mem {cs : List Char} (h : Plain cs) : '\n' ∉ cs := by
  intro hmem
  exact absurd (h _ hmem).1 (by decide)

end Text

/-! ## Help in reports -/

namespace Diagnostic

variable {d : Diagnostic}

/-- The lines of a report of a legible diagnostic. -/
theorem lines_report (h : d.Legible) :
    ∃ text, d.report = .ok text ∧ lines text.toList = d.reportLines ++ [[]] := by
  refine ⟨_, report_eq_ofLines h, ?_⟩
  rw [String.toList_ofList, lines_ofLines (lineFeed_not_mem_reportLines h)]

/-- **The help stands at the end of a line,** with a pointer before it or without. -/
theorem help_mem_lines (h : d.Legible) {help : String} (hd : d.help = some help) :
    ∃ text, d.report = .ok text ∧ ∃ lead, lead ++ help.toList ∈ lines text.toList := by
  obtain ⟨text, htext, hlines⟩ := lines_report h
  refine ⟨text, htext, ?_⟩
  rw [hlines]
  obtain hnone | ⟨source, r, hpointer, -⟩ := h.visual
  · exact ⟨plainHelpLead, by simp [reportLines, hnone, hd]⟩
  · refine ⟨Pointer.helpLead (Pointer.of source r).number, ?_⟩
    simp [reportLines, hpointer, hd, Pointer.renderLines, Pointer.helpLine]

end Diagnostic

namespace Refusal

/-! ## The help -/

theorem toList_help_of_ne_empty {name : String} (h : name ≠ "") :
    (invalidName name).help.toList =
      "name ".toList ++ ((quote name).toList ++
        " must not contain whitespace or control characters".toList) := by
  rw [help, if_neg (by simpa using h), String.toList_append, String.toList_append,
    List.append_assoc]

/-- The help for the empty name is like no other. -/
theorem help_empty_ne {name : String} (h : name ≠ "") :
    (invalidName "").help ≠ (invalidName name).help := by
  intro heq
  have hlist := congrArg String.toList heq
  rw [toList_help_of_ne_empty h] at hlist
  exact absurd (congrArg (List.take 5) hlist) (by simp [help])

/-- **The help tells the name.** -/
theorem help_invalidName_inj {a b : String} :
    (invalidName a).help = (invalidName b).help ↔ a = b := by
  refine ⟨fun h => ?_, fun h => h ▸ rfl⟩
  by_cases ha : a = "" <;> by_cases hb : b = ""
  · rw [ha, hb]
  · exact absurd (ha ▸ h) (help_empty_ne hb)
  · exact absurd (hb ▸ h.symm) (help_empty_ne ha)
  · have hlist := congrArg String.toList h
    rw [toList_help_of_ne_empty ha, toList_help_of_ne_empty hb, List.append_right_inj,
      List.append_left_inj, String.toList_inj, quote_inj] at hlist
    exact hlist

/-- **The help is plain,** whatever the name is. -/
theorem plain_help_invalidName (name : String) : Plain (invalidName name).help.toList := by
  by_cases h : name = ""
  · subst h
    decide
  · have hlead : Plain "name ".toList := by decide
    have htail : Plain " must not contain whitespace or control characters".toList := by decide
    rw [toList_help_of_ne_empty h]
    exact plain_append.mpr ⟨hlead, plain_append.mpr ⟨plain_quote name, htail⟩⟩

/-! ## The report -/

theorem lineFeed_not_mem_reason : '\n' ∉ "invalid name".toList := by decide

theorem legible_invalidName (name : String) : (invalidName name).diagnostic.Legible where
  reason := lineFeed_not_mem_reason
  help := by
    rintro _ ⟨⟩
    exact (plain_help_invalidName name).lineFeed_not_mem
  name := by
    rintro _ ⟨⟩
  visual := Or.inl rfl

/-- A pointer, and a name of the source that is on one line, leave the report legible. -/
theorem legible_invalidName_pointTo (name : String) {shown : Option String}
    (hshown : ∀ n ∈ shown, '\n' ∉ n.toList) {source : String} {r : Region}
    (hfits : (Pointer.of source r).column + (Pointer.of source r).length ≤ 65535) :
    (Diagnostic.pointTo { (invalidName name).diagnostic with name := shown } source r).Legible where
  reason := lineFeed_not_mem_reason
  help := (legible_invalidName name).help
  name := hshown
  visual := Or.inr ⟨source, r, rfl, hfits⟩

/-- All parts of the diagnostic on one line. -/
theorem inline_outline (name : String) :
    (invalidName name).diagnostic.outline.inline =
      "Error \x7b kind: InvalidName, reason: \"invalid name\", name: None, " ++
        ("visual: None, help: Some(" ++ (quote (invalidName name).help ++ ") \x7d")) := by
  have hreason : quote "invalid name" = "\"invalid name\"" := by decide
  refine String.toList_inj.mp ?_
  simp [Diagnostic.outline, diagnostic, kind, reason, hreason, DiagnosticKind.name, Outline.inline,
    Outline.inlineFields, Outline.inlineItems, Outline.commas, Outline.quoted, Outline.option]

theorem reportLines_invalidName (name : String) :
    (invalidName name).diagnostic.reportLines =
      ["\x1b[31merror\x1b[0m: invalid name".toList,
        "  = help: ".toList ++ (invalidName name).help.toList] := by
  have hsummary : Diagnostic.summaryLead ++ "invalid name".toList =
      "\x1b[31merror\x1b[0m: invalid name".toList := by decide
  rw [← hsummary]
  rfl

/-- The control characters of the report are the colours of its first line and the ends of its two
lines. -/
theorem report_invalidName (name : String) :
    ∃ text, (invalidName name).diagnostic.report = .ok text ∧
      lines text.toList = ["\x1b[31merror\x1b[0m: invalid name".toList,
        "  = help: ".toList ++ (invalidName name).help.toList, []] ∧
      text.toList.filter isControl = ['\x1b', '\x1b', '\n', '\n'] := by
  obtain ⟨text, htext, hlines⟩ := Diagnostic.lines_report (legible_invalidName name)
  have hofLines := Diagnostic.report_eq_ofLines (legible_invalidName name)
  rw [reportLines_invalidName] at hlines hofLines
  obtain rfl := Except.ok.inj (htext.symm.trans hofLines)
  refine ⟨_, htext, hlines, ?_⟩
  have hsummary : ("\x1b[31merror\x1b[0m: invalid name".toList).filter isControl =
      ['\x1b', '\x1b'] := by decide
  have hlead : ("  = help: ".toList).filter isControl = [] := by decide
  have hend : ['\n'].filter isControl = ['\n'] := by decide
  have hhelp := (plain_help_invalidName name).filter_isControl
  simp only [String.toList_ofList, ofLines, List.flatMap_cons, List.flatMap_nil, List.filter_append,
    hsummary, hlead, hend, hhelp]
  rfl

/-- Nor does the list of all parts below the report have control characters. -/
theorem inspect_invalidName (name : String) :
    ∃ text, (invalidName name).diagnostic.inspect = .ok text ∧
      text.toList.filter isControl = ['\x1b', '\x1b', '\n', '\n', '\n'] := by
  obtain ⟨report, hreport, -, hcontrols⟩ := report_invalidName name
  have hparts :
      ("Error \x7b kind: InvalidName, reason: \"invalid name\", name: None, ".toList).filter
        isControl = [] := by decide
  have hhelp : ("visual: None, help: Some(".toList).filter isControl = [] := by decide
  have hend : (") \x7d".toList).filter isControl = [] := by decide
  have hfeed : ("\n".toList).filter isControl = ['\n'] := by decide
  refine ⟨_, by rw [Diagnostic.inspect, hreport], ?_⟩
  simp only [inline_outline, String.toList_append, List.filter_append, hcontrols, hparts, hhelp,
    hend, hfeed, (plain_quote _).filter_isControl]
  rfl

/-- **A refused name is shown, and shown only.** A name that is not valid is refused by every table,
and the help of the refusal tells it from all other names. The help has no control characters and no
blanks but spaces. So it is one line of the report, under a pointer too, and the control characters
of the report, and of the list of all parts below it, are the same for every name. -/
theorem invalid_name_shown {name : String} (hv : ¬ ValidName name) :
    (∀ {V : Type} (t : Table V) (value : V),
        t.declare name value = .error (.refused (.invalidName name))) ∧
      (∀ other, ¬ ValidName other → other ≠ name →
        (invalidName other).help ≠ (invalidName name).help) ∧
      Plain (invalidName name).help.toList ∧
      (∃ text, (invalidName name).diagnostic.report = .ok text ∧
        lines text.toList = ["\x1b[31merror\x1b[0m: invalid name".toList,
          "  = help: ".toList ++ (invalidName name).help.toList, []] ∧
        text.toList.filter isControl = ['\x1b', '\x1b', '\n', '\n']) ∧
      (∃ text, (invalidName name).diagnostic.inspect = .ok text ∧
        text.toList.filter isControl = ['\x1b', '\x1b', '\n', '\n', '\n']) ∧
      ∀ shown source r, (∀ n ∈ shown, '\n' ∉ n.toList) →
        (Pointer.of source r).column + (Pointer.of source r).length ≤ 65535 →
        let pointed :=
          Diagnostic.pointTo { (invalidName name).diagnostic with name := shown } source r
        ∃ text, pointed.report = .ok text ∧
          ∃ lead, lead ++ (invalidName name).help.toList ∈ lines text.toList :=
  ⟨Table.declare_of_not_validName hv, fun _ _ hne h => hne (help_invalidName_inj.mp h),
    plain_help_invalidName name, report_invalidName name, inspect_invalidName name,
    fun _ _ _ hshown hfits =>
      Diagnostic.help_mem_lines (legible_invalidName_pointTo name hshown hfits) rfl⟩

/-- A name that would end its line and take the colour away, and one that has the escapes of the
first in it. -/
theorem invalid_name_shown_of_escapes :
    let name := "a\n\x1b[0m"
    let other := "a\\n\\u\x7b1b\x7d[0m\t"
    ¬ ValidName name ∧ ¬ ValidName other ∧ other ≠ name ∧
      (invalidName name).help =
        "name \"a\\n\\u\x7b1b\x7d[0m\" must not contain whitespace or control characters" ∧
      (invalidName other).help ≠ (invalidName name).help ∧ Plain (invalidName name).help.toList ∧
      (Pointer.of "x" ⟨0, 1⟩).column + (Pointer.of "x" ⟨0, 1⟩).length ≤ 65535 ∧
      ∃ text, (Diagnostic.pointTo (invalidName name).diagnostic "x" ⟨0, 1⟩).report = .ok text ∧
        ∃ lead, lead ++ (invalidName name).help.toList ∈ lines text.toList := by
  intro name other
  have hv : ¬ ValidName name := by decide
  have hv' : ¬ ValidName other := by decide
  have hne : other ≠ name := by decide
  have hfits : (Pointer.of "x" ⟨0, 1⟩).column + (Pointer.of "x" ⟨0, 1⟩).length ≤ 65535 := by decide
  have hhelp : (invalidName name).help =
      "name \"a\\n\\u\x7b1b\x7d[0m\" must not contain whitespace or control characters" := by
    decide
  obtain ⟨-, hother, hplain, -, -, hpointed⟩ := invalid_name_shown hv
  exact ⟨hv, hv', hne, hhelp, hother other hv' hne, hplain, hfits,
    hpointed none "x" ⟨0, 1⟩ (by rintro _ ⟨⟩) hfits⟩

end Refusal

end LexicalScope
