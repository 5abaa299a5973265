import ManifestCheck.Proofs.Builtin.ManifestShape
import ManifestCheck.Proofs.CommandLine.ValidationRun
import ManifestCheck.Proofs.Report.OneLineMessages
import ManifestCheck.Proofs.Text.Fields

/-!
# The lines of a report

A report is written as one line after another.  Whoever reads it gets these lines back by cutting
the text at line breaks, as long as no line holds a line break itself (`Text.cut_join_iff`).
Messages never hold one, but a path shows its keys as they are.  So a report is read back just if no
key on the path of a violation holds a line break (`Registry.report_lines`), and a document with
such a key adds lines of its own to the report (`Builtin.report_forged`).
-/

namespace ManifestCheck

/-! ## Cutting a text at line breaks -/

namespace Text

/-- What stands between the line breaks of a text. -/
def cut (text : String) : List String := (fields '\n' text.toList).map String.ofList

/-- Lines that end with a line break each are what the text is cut into, up to the empty rest, if
they hold none themselves; and only then, because nothing that a text is cut into does. -/
theorem cut_join_iff {lines : List String} :
    cut (String.join (lines.map (· ++ "\n"))) = lines ++ [""] ↔ ∀ line ∈ lines, OneLine line := by
  constructor
  · intro h line hline
    have hmem : line ∈ cut (String.join (lines.map (· ++ "\n"))) :=
      h ▸ List.mem_append_left _ hline
    obtain ⟨field, hfield, rfl⟩ := List.mem_map.mp hmem
    exact oneLine_ofList.mpr (not_mem_of_mem_fields hfield)
  · intro h
    induction lines with
    | nil => rfl
    | cons line rest ih =>
      obtain ⟨hline, hrest⟩ := List.forall_mem_cons.mp h
      have hchars : (String.join ((line :: rest).map (· ++ "\n"))).toList =
          line.toList ++ '\n' :: (String.join (rest.map (· ++ "\n"))).toList := by
        rw [String.toList_join, String.toList_join, List.map_cons, List.flatMap_cons,
          String.toList_append, List.append_assoc]
        rfl
      rw [cut, hchars, fields_append, fields_of_not_mem hline, List.singleton_append, List.map_cons,
        String.ofList_toList]
      exact congrArg (line :: ·) (ih hrest)

end Text

open Text

/-! ## Headings -/

namespace Report

/-- The line with which the part of a report on one document starts. -/
def heading (d : DocumentReport) : String := (if d.valid then "OK: " else "FAIL: ") ++ d.path

/-- Whether a line reads like a heading. -/
def isHeading (line : String) : Bool :=
  "OK: ".toList.isPrefixOf line.toList || "FAIL: ".toList.isPrefixOf line.toList

theorem isHeading_heading (d : DocumentReport) : isHeading (heading d) = true := by
  unfold isHeading heading
  cases d.valid <;> simp [List.isPrefixOf]

theorem isHeading_indented (text : String) : isHeading ("  " ++ text) = false := by
  simp [isHeading, List.isPrefixOf]

theorem filter_documentLines (d : DocumentReport) :
    (documentLines d).filter isHeading = [heading d] := by
  have hheading := isHeading_heading d
  unfold heading at hheading ⊢
  unfold documentLines
  split
  · rename_i hvalid
    rw [hvalid, if_pos rfl] at hheading
    rw [List.filter_singleton, hheading]
    rfl
  · rename_i hinvalid
    rw [if_neg hinvalid] at hheading
    dsimp only
    rw [List.filter_cons, hheading, if_pos rfl]
    refine congrArg _ (List.filter_eq_nil_iff.mpr (List.forall_mem_map.mpr fun text _ => ?_))
    rw [isHeading_indented]
    exact Bool.false_ne_true

/-- Of the lines of a report just the headings of its documents read like headings. -/
theorem filter_lines (r : Report) : r.lines.filter isHeading = r.documents.map heading := by
  have hsummary : isHeading
      ("Documents: " ++ toString r.passed ++ "/" ++ toString r.total ++ " passed") = false := by
    simp [isHeading, List.isPrefixOf]
  rw [lines, List.filter_append, List.filter_singleton, hsummary, cond_false, List.append_nil]
  induction r.documents with
  | nil => rfl
  | cons d rest ih =>
    rw [List.flatMap_cons, List.filter_append, ih, filter_documentLines, List.map_cons]
    rfl

end Report

/-! ## Reading a report back -/

namespace Registry

variable {lib : Library} {name : String} {s : Schema} {r : Registry} {m : MediaType}
  (hlib : lib.KeysDistinct) (hnumbers : lib.NumbersLiteral) (hs : lib.compile name = .ok s)
  (hr : r.schemas.lookup m.identifier = some s)

section Lines

variable {l : Loader} {source : Source}

include hlib hnumbers hs

theorem oneLine_violation_iff {d : Document} (hd : l.load source.bytes = .ok d) {v : Violation}
    (hv : v ∈ s.violations d) : OneLine v.render ↔ ∀ key, .key key ∈ v.path → OneLine key := by
  obtain ⟨root, hfound, hroot, hu⟩ := Library.unfolds_of_compile hlib hs
  rw [Schema.violations_report] at hv
  exact Violation.oneLine_render_iff (Schema.numbersLiteral_of_mem_report
    (hu.namesDistinct hlib hroot)
    (hu.numbersLiteral hnumbers (hnumbers _ (Entries.mem_of_lookup hfound)))
    (Document.keysDistinct_of_load hd) (Document.numbersLiteral_of_load hd) hv)

include hr

/-- The lines about an examined document hold a line break just if a key on the path of a violation
does. -/
theorem oneLine_documentLines_iff {d : DocumentReport} (hpath : OneLine source.path)
    (hd : r.examine l m source = .ok d) :
    (∀ line ∈ Report.documentLines d, OneLine line) ↔
      ∀ v ∈ d.violations, ∀ key, .key key ∈ v.path → OneLine key := by
  have hfail : OneLine ("FAIL: " ++ source.path) := .append (by decide) hpath
  have indented : ∀ text, OneLine ("  " ++ text) ↔ OneLine text := fun text => by
    rw [oneLine_append, and_iff_right (by decide)]
  cases hload : l.load source.bytes with
  | error e =>
    cases (examine_of_error hload).symm.trans hd
    have hmessage := (indented e.message).mpr (Loader.oneLine_message hload)
    refine iff_of_true ?_ nofun
    exact List.forall_mem_cons.mpr ⟨hfail, List.forall_mem_singleton.mpr hmessage⟩
  | ok document =>
    cases (examine_of_ok hr hload).symm.trans hd
    have hviolation : ∀ v ∈ s.violations document, OneLine ("  " ++ v.render) ↔
        ∀ key, .key key ∈ v.path → OneLine key := fun v hv =>
      (indented v.render).trans (oneLine_violation_iff hlib hnumbers hs hload hv)
    cases hvs : s.violations document with
    | nil =>
      refine iff_of_true ?_ (List.forall_mem_nil _)
      exact List.forall_mem_singleton.mpr (.append (by decide) hpath)
    | cons v vs =>
      rw [← hvs]
      simp only [Report.documentLines, hvs, List.isEmpty_cons, Bool.false_eq_true, if_false]
      rw [← hvs, List.forall_mem_cons, and_iff_right hfail, Option.toList_none, List.nil_append,
        List.map_map, List.forall_mem_map]
      exact forall₂_congr hviolation

/-- The lines of a report hold a line break just if a key on the path of a violation does. -/
theorem oneLine_lines_iff {sources : List Source} {documents : List DocumentReport}
    (hpaths : ∀ source ∈ sources, OneLine source.path)
    (hall : List.Forall₂ (fun source d => r.examine l m source = .ok d) sources documents) :
    (∀ line ∈ Report.lines ⟨m, documents⟩, OneLine line) ↔
      ∀ d ∈ documents, ∀ v ∈ d.violations, ∀ key, .key key ∈ v.path → OneLine key := by
  have hsummary : OneLine ("Documents: " ++ toString (Report.passed ⟨m, documents⟩) ++ "/" ++
      toString (Report.total ⟨m, documents⟩) ++ " passed") :=
    .append (.append (.append (.append (by decide) (oneLine_toString _)) (by decide))
      (oneLine_toString _)) (by decide)
  rw [Report.lines, List.forall_mem_append, List.forall_mem_singleton, and_iff_left hsummary]
  clear hsummary
  induction hall with
  | nil => exact iff_of_true (List.forall_mem_nil _) (List.forall_mem_nil _)
  | @cons source d sources documents hd _ ih =>
    obtain ⟨hpath, hrest⟩ := List.forall_mem_cons.mp hpaths
    rw [List.flatMap_cons, List.forall_mem_append, List.forall_mem_cons,
      oneLine_documentLines_iff hlib hnumbers hs hr hpath hd]
    exact and_congr_right fun _ => ih hrest

end Lines

include hlib hnumbers hs hr

/-- **Reading a report back.**  Several sources, whose paths hold no line break, are examined with a
compiled schema.  There is always a report, on each of them in their order.  Its text, cut at line
breaks, is just the lines of the report if no key on the path of a violation holds a line break, and
only then.  In this case the lines that read like headings are the headings of the documents, one
for each and in their order. -/
theorem report_lines (l : Loader) {sources : List Source}
    (hpaths : ∀ source ∈ sources, OneLine source.path) :
    ∃ rep, r.report l m sources = .ok rep ∧
      rep.documents.map DocumentReport.path = sources.map Source.path ∧
      (cut rep.text = rep.lines ++ [""] ↔
        ∀ d ∈ rep.documents, ∀ v ∈ d.violations, ∀ key, .key key ∈ v.path → OneLine key) ∧
      (cut rep.text = rep.lines ++ [""] →
        (cut rep.text).filter Report.isHeading = rep.documents.map Report.heading) := by
  obtain ⟨documents, hall⟩ := exists_examined hr l sources
  have hlines := oneLine_lines_iff hlib hnumbers hs hr hpaths hall
  refine ⟨⟨m, documents⟩, report_of_examined hall, paths_of_examined hr hall,
    cut_join_iff.trans hlines, fun hcut => ?_⟩
  have hempty : Report.isHeading "" = false := by decide
  rw [hcut, List.filter_append, List.filter_singleton, hempty, cond_false, List.append_nil,
    Report.filter_lines]

end Registry

/-! ### With the built-in schemas -/

namespace Builtin

theorem numbersLiteral_library : library.NumbersLiteral := by
  have literals : ∀ text ∈ ["0", "1", "2", "-9223372036854775808", "9223372036854775807",
      "18446744073709551615"], (readNumberText (Utf8.encode text)).toOption = some ⟨text⟩ := by
    decide +kernel
  have literal : ∀ text ∈ ["0", "1", "2", "-9223372036854775808", "9223372036854775807",
      "18446744073709551615"], (⟨text⟩ : Number).IsLiteral := fun text h =>
    Number.isLiteral_of_read (literals text h)
  simp only [List.forall_mem_cons] at literal
  simp only [Library.NumbersLiteral, library, documents, definitions, descriptorDefinitions,
    contentDescriptor, imageManifest, manifestList, imageLayout, List.forall_mem_cons,
    List.not_mem_nil, false_imp_iff, implies_true, and_self, Document.numbersLiteral_object,
    Document.numbersLiteral_array, Document.numbersLiteral_number, Document.numbersLiteral_string,
    literal]

/-- The report on three headers, of which one is valid and one cannot be loaded. -/
theorem report_lines_mixed : (∀ source ∈ CommandLine.mixedSources, OneLine source.path) ∧
    ∃ r rep, Registry.builtin = .ok r ∧
      r.report {} .imageLayout CommandLine.mixedSources = .ok rep ∧
        cut rep.text = rep.lines ++ [""] ∧
          (cut rep.text).filter Report.isHeading =
            ["OK: oci-layout", "FAIL: bad.json", "FAIL: <stdin>"] := by
  obtain ⟨r, hr⟩ := exists_builtin
  obtain ⟨s, hs, hlookup⟩ := exists_schema hr .imageLayout
  have hpaths : ∀ source ∈ CommandLine.mixedSources, OneLine source.path := by
    simp only [CommandLine.mixedSources, List.forall_mem_cons]
    exact ⟨by decide, by decide, by decide, List.forall_mem_nil _⟩
  obtain ⟨rep, hrep, -, hcut, hheadings⟩ := Registry.report_lines keysDistinct_library
    numbersLiteral_library hs hlookup {} hpaths
  have hmixed := Registry.report_of_examined (CommandLine.examine_mixedSources hr)
  cases hmixed.symm.trans hrep
  have hkey : ∀ key, Segment.key key ∈ [Segment.key "imageLayoutVersion"] → OneLine key := by
    intro key h
    cases List.mem_singleton.mp h
    decide
  have hkeys : ∀ d ∈ CommandLine.mixedDocuments, ∀ v ∈ d.violations, ∀ key, .key key ∈ v.path →
      OneLine key := by
    simp only [CommandLine.mixedDocuments, List.forall_mem_cons]
    exact ⟨List.forall_mem_nil _, ⟨hkey, List.forall_mem_nil _⟩, List.forall_mem_nil _,
      List.forall_mem_nil _⟩
  exact ⟨hpaths, r, _, hr, hmixed, hcut.mpr hkeys, hheadings (hcut.mpr hkeys)⟩

/-- An annotation without a text, whose key reads like a heading between two line breaks. -/
def forgery : Document := .object [("annotations", .object [("x\nOK: b.json\n", .null)])]

/-- **A document can forge lines of the report on it.**  One file is reported on, and it fails; but
a line of the report says that another file has passed. -/
theorem report_forged : ∃ r rep, Registry.builtin = .ok r ∧
    r.report {} .descriptor [⟨"a.json", Utf8.encode
      "\x7b\"annotations\":\x7b\"x\\nOK: b.json\\n\":null\x7d\x7d"⟩] = .ok rep ∧
      rep.total = 1 ∧ rep.passed = 0 ∧
        (cut rep.text).filter Report.isHeading = ["FAIL: a.json", "OK: b.json"] := by
  obtain ⟨r, hr⟩ := exists_builtin
  obtain ⟨mediaType, hm⟩ := exists_mediaTypePattern
  obtain ⟨digest, hg⟩ := exists_digestPattern
  have hs := lookup_of_denotes (m := .descriptor) hr rfl (denotes_descriptor hm hg _)
  have hf : forgery.Faithful := .object (by decide) (by decide) (List.forall_mem_singleton.mpr
    (.object (by decide) (by decide) (List.forall_mem_singleton.mpr .null)))
  have hload : ({} : Loader).load (Utf8.encode
      "\x7b\"annotations\":\x7b\"x\\nOK: b.json\\n\":null\x7d\x7d") = .ok forgery :=
    hf.load_eq_ok (Document.writtenAs_render hf.numbersLiteral) (by decide) (by decide)
  have hviolations : (descriptorSchema mediaType digest).violations forgery = [
      ⟨[], .missing "mediaType"⟩, ⟨[], .missing "size"⟩, ⟨[], .missing "digest"⟩,
      ⟨[.key "annotations", .key "x\nOK: b.json\n"],
        .wrongType (TypeSet.ofList [.string]) .null⟩] := rfl
  have hexamine : r.examine {} .descriptor ⟨"a.json", Utf8.encode
      "\x7b\"annotations\":\x7b\"x\\nOK: b.json\\n\":null\x7d\x7d"⟩ = _ :=
    Registry.examine_of_ok hs hload
  rw [hviolations] at hexamine
  exact ⟨r, _, hr, Registry.report_of_examined (.cons hexamine .nil), rfl, rfl, by decide +kernel⟩

end Builtin

end ManifestCheck
