import ManifestCheck.Proofs.Builtin.ManifestListShape
import ManifestCheck.Proofs.Pattern.Languages
import ManifestCheck.Proofs.Schema.LocalChanges
import ManifestCheck.Proofs.Schema.ValidationOutcomes

/-!
# Manifest lists with one fault

A valid manifest list in which one value is spoiled is reported for that value alone: with one
violation, of the kind of the fault and at the place where it is (`Builtin.spoiled_manifestList`).
Which list it is and what else it holds makes no difference, and nothing is reported in consequence
anywhere else.

That all is reported at the place of the change comes from `Schema.report_replaceAt`.  What is left
is what the schemas there report on the new values, and that the pattern for the media type of a list
matches one text only.
-/

namespace ManifestCheck

/-! ## Reports of one violation -/

namespace Schema

variable {s : Schema} {d : Document}

/-- A value of another kind than the one asked for is reported for that alone. -/
theorem report_of_otherKind {k : Kind} (h : s.checks.types = some (TypeSet.ofList [k]))
    (hk : k ≠ .number) (hd : d.kind ≠ k) :
    s.report d = [⟨[], .wrongType (TypeSet.ofList [k]) d.kind⟩] := by
  have hno : ¬(TypeSet.ofList [k]).accepts d.kind = true := fun hyes =>
    hd ((Checks.admits_iff_eq h hk).mp fun types htypes => by
      cases h.symm.trans htypes
      exact hyes)
  refine report_of_refused ?_
  rw [Checks.refused?, h]
  simp [Option.filter, hno]

/-- A value of an admitted kind with nothing reported inside is reported for its own faults. -/
theorem report_eq_allFaults (hkind : s.checks.refused? d.kind = none)
    (hinside : s.reportInside d = []) :
    s.report d = (s.checks.allFaults d).map (Violation.mk []) := by
  rw [report_of_admitted hkind, hinside, Checks.allFaults, List.append_nil, List.map_append,
    List.map_map]
  rfl

theorem ofPattern_report_of_unmatched {p : Pattern} {value : String}
    (h : p.isMatch value = false) :
    (ofPattern p).report (.string value) = [⟨[], .unmatched value p.source⟩] := by
  have hfaults : (ofPattern p).checks.allFaults (.string value) = [.unmatched value p.source] := by
    show ((some p).filter fun p => !p.isMatch value).toList.map _ ++ [] = _
    simp [Option.filter, h]
  rw [report_eq_allFaults rfl rfl, hfaults]
  rfl

/-- An integer out of bounds is reported for the one bound that it does not keep. -/
theorem ofBounds_report {least most n : Number} {a b v : Int} (hl : least.intValue? = some a)
    (hm : most.intValue? = some b) (ha : a.natAbs ≤ 2 ^ 126) (hb : b.natAbs ≤ 2 ^ 126)
    (hv : n.intValue? = some v) (hab : a ≤ b) (hout : v < a ∨ b < v) :
    ∃ fault, fault.kind = .rangeViolation ∧
      (ofBounds least most).report (.number n) = [⟨[], fault⟩] := by
  have hkind : (ofBounds least most).checks.refused? (Document.number n).kind = none := by
    rw [Document.kind, Number.isInteger_of_intValue? hv]
    rfl
  rw [report_eq_allFaults hkind rfl, ofBounds_allFaults hl hm ha hb hv]
  rcases hout with hlt | hlt
  · rw [if_pos hlt, if_neg (by omega)]
    exact ⟨.tooSmall n least, rfl, rfl⟩
  · rw [if_neg (by omega), if_pos hlt]
    exact ⟨.tooLarge n most, rfl, rfl⟩

/-- An accepted object has a value under every required key. -/
theorem exists_child_of_required {required : List String} {properties : List (String × Schema)}
    (h : (ofProperties required properties).report d = []) (name : String)
    (hname : name ∈ required) : ∃ inner, d.child? (.key name) = some inner := by
  obtain ⟨entries, rfl, hkeys, -⟩ := ofProperties_accepts.mp (accepts_iff_report.mpr h)
  cases hl : entries.lookup name with
  | some inner => exact ⟨inner, hl⟩
  | none => exact absurd (hkeys name hname) (Entries.lookup_eq_none_iff_not_mem_keys.mp hl)

end Schema

namespace Registry

/-- All that is found wrong with a document is one violation, of a kind and at a path. -/
def FindsOnly (r : Registry) (mediaType : String) (d : Document) (k : FaultKind) (p : Path) :
    Prop :=
  ∃ v, r.validate mediaType d = .error (.invalid mediaType [v]) ∧ v.kind = k ∧ v.path = p

variable {r : Registry} {mediaType : String} {s t : Schema} {d node x : Document} {p : Path}
  {fault : Fault}

/-- A fault of a value that is put into an accepted document is all that is found there. -/
theorem findsOnly_replaceAt (h : r.schemas.lookup mediaType = some s) (hs : s.NamesDistinct)
    (hd : d.keysDistinct = true) (ha : s.report d = []) (hp : d.at? p = some node)
    (ht : s.governing? p = some t) (hlist : s.NoListAbove p)
    (hx : t.report x = [⟨[], fault⟩]) :
    r.FindsOnly mediaType (d.replaceAt p x) fault.kind p := by
  have hfound : s.violations (d.replaceAt p x) = [⟨p, fault⟩] := by
    rw [Schema.violations_report, Schema.report_replaceAt hs hd ha hp ht hlist, hx]
    exact congrArg (fun q => [Violation.mk q fault]) (List.append_nil p)
  refine ⟨⟨p, fault⟩, ?_, rfl, rfl⟩
  rw [validate, violations_of_lookup h, hfound]

end Registry

/-! ## Spoiled manifest lists -/

namespace Builtin

open Schema

/-- The pattern for the media type of a manifest list matches this media type only. -/
theorem manifestList_isMatch {p : Pattern} (hp : Pattern.compile manifestListSource = .ok p)
    {value : String} : p.isMatch value = true ↔ value = MediaType.manifestList.identifier := by
  obtain ⟨p', hp', hexpr⟩ := exists_ok_of_map manifestListPattern_fixed
  cases hp.symm.trans hp'
  exact Pattern.isMatch_fixed hexpr

/-- The schema that the registry holds for manifest lists, with the patterns in it. -/
theorem exists_manifestListSchema {r : Registry} (hr : Registry.builtin = .ok r) :
    ∃ listType mediaType digest, Pattern.compile manifestListSource = .ok listType ∧
      Pattern.compile mediaTypeSource = .ok mediaType ∧
      Pattern.compile digestSource = .ok digest ∧
      r.schemas.lookup MediaType.manifestList.identifier =
        some (manifestListSchema listType mediaType digest) ∧
      (manifestListSchema listType mediaType digest).NamesDistinct := by
  obtain ⟨listType, hl⟩ := exists_manifestListPattern
  obtain ⟨mediaType, hm⟩ := exists_mediaTypePattern
  obtain ⟨digest, hg⟩ := exists_digestPattern
  have hs := lookup_of_denotes (m := .manifestList) hr rfl (denotes_manifestList hl hm hg)
  exact ⟨listType, mediaType, digest, hl, hm, hg, hs, namesDistinct_of_lookup hr hs⟩

section Spoiled

variable {r : Registry} {listType mediaType digest : Pattern} {d m : Document} {i : Nat}
  (hs : r.schemas.lookup MediaType.manifestList.identifier =
    some (manifestListSchema listType mediaType digest))
  (hn : (manifestListSchema listType mediaType digest).NamesDistinct)
  (hd : d.keysDistinct = true) (ha : (manifestListSchema listType mediaType digest).report d = [])

include hs hn hd ha

/-- In place of a required value of the list. -/
theorem findsOnly_atKey {key : String} {t : Schema} {x : Document} {fault : Fault}
    (hkey : key ∈ ["schemaVersion", "mediaType", "manifests"])
    (ht : (manifestListSchema listType mediaType digest).child? (.key key) = some t)
    (hx : t.report x = [⟨[], fault⟩]) :
    r.FindsOnly MediaType.manifestList.identifier (d.replaceAt [.key key] x) fault.kind
      [.key key] := by
  obtain ⟨old, hold⟩ := exists_child_of_required ha key hkey
  have hat : d.at? [.key key] = some old := (Document.at?_singleton _ d).trans hold
  have hgoverns : (manifestListSchema listType mediaType digest).governing? [.key key] = some t := by
    rw [governing?, ht]
    rfl
  exact Registry.findsOnly_replaceAt hs hn hd ha hat hgoverns
    (.cons rfl ht (noListAbove_nil _)) hx

/-- In place of a manifest, which is accepted itself. -/
theorem findsOnly_atManifest (hi : d.at? [.key "manifests", .index i] = some m) :
    (manifestReference mediaType digest).report m = [] ∧
      ∀ x fault, (manifestReference mediaType digest).report x = [⟨[], fault⟩] →
        r.FindsOnly MediaType.manifestList.identifier
          (d.replaceAt [.key "manifests", .index i] x) fault.kind
          [.key "manifests", .index i] := by
  have habove : (manifestListSchema listType mediaType digest).NoListAbove
      [.key "manifests", .index i] :=
    .cons rfl rfl (.cons rfl rfl (noListAbove_nil _))
  exact ⟨report_at hn hd ha hi rfl, fun x fault hx =>
    Registry.findsOnly_replaceAt hs hn hd ha hi rfl habove hx⟩

theorem findsOnly_textSize (hi : d.at? [.key "manifests", .index i] = some m) (text : String) :
    r.FindsOnly MediaType.manifestList.identifier
      (d.replaceAt [.key "manifests", .index i, .key "size"] (.string text))
      .typeMismatch [.key "manifests", .index i, .key "size"] := by
  obtain ⟨hman, -⟩ := findsOnly_atManifest hs hn hd ha hi
  obtain ⟨size, hsize⟩ := exists_child_of_required hman "size" (by decide)
  have hat : d.at? [.key "manifests", .index i, .key "size"] = some size := by
    have happend := Document.at?_append [.key "manifests", .index i] [.key "size"] d
    rw [hi, Option.bind_some, Document.at?_singleton, hsize] at happend
    exact happend
  have hreport : int64.report (.string text) =
      [⟨[], .wrongType (TypeSet.ofList [.integer]) .string⟩] :=
    report_of_otherKind rfl (by decide) (by simp [Document.kind])
  exact Registry.findsOnly_replaceAt hs hn hd ha hat rfl
    (.cons rfl rfl (.cons rfl rfl (.cons rfl rfl (noListAbove_nil _)))) hreport

theorem findsOnly_erased (hi : d.at? [.key "manifests", .index i] = some m) {key : String}
    (hkey : key ∈ ["mediaType", "size", "digest", "platform"]) :
    r.FindsOnly MediaType.manifestList.identifier
      (d.replaceAt [.key "manifests", .index i] (m.erase key))
      .missingProperty [.key "manifests", .index i] := by
  obtain ⟨hman, hfinds⟩ := findsOnly_atManifest hs hn hd ha hi
  obtain ⟨entries, rfl, -⟩ := ofProperties_accepts.mp (accepts_iff_report.mpr hman)
  have honly : ["mediaType", "size", "digest", "platform"].filter (· = key) = [key] := by
    revert key
    decide
  have hreport : (manifestReference mediaType digest).report
      (.object (Entries.erase key entries)) = [⟨[], .missing key⟩] :=
    (report_erase rfl hman key).trans
      (congrArg (List.map fun name => Violation.mk [] (.missing name)) honly)
  exact hfinds _ (.missing key) hreport

end Spoiled

/-- **One fault, one violation.**  In a valid manifest list, a text for the size of a manifest is
reported as a value of the wrong type, and a manifest without its media type, size, digest or
platform for lacking that.  Another media type of the list is reported for its pattern, or for its
type if it is no text, and a schema version other than 2 for its range.  In each case nothing else is
reported. -/
theorem spoiled_manifestList {r : Registry} {d : Document} (hr : Registry.builtin = .ok r)
    (hd : d.keysDistinct = true)
    (hvalid : r.validate MediaType.manifestList.identifier d = .ok ()) :
    (∀ i m, d.at? [.key "manifests", .index i] = some m →
      (∀ text, r.FindsOnly MediaType.manifestList.identifier
        (d.replaceAt [.key "manifests", .index i, .key "size"] (.string text))
        .typeMismatch [.key "manifests", .index i, .key "size"]) ∧
      ∀ key ∈ ["mediaType", "size", "digest", "platform"],
        r.FindsOnly MediaType.manifestList.identifier
          (d.replaceAt [.key "manifests", .index i] (m.erase key))
          .missingProperty [.key "manifests", .index i]) ∧
      (∀ text, text ≠ MediaType.manifestList.identifier →
        r.FindsOnly MediaType.manifestList.identifier
          (d.replaceAt [.key "mediaType"] (.string text)) .patternMismatch [.key "mediaType"]) ∧
      (∀ x : Document, x.kind ≠ .string →
        r.FindsOnly MediaType.manifestList.identifier
          (d.replaceAt [.key "mediaType"] x) .typeMismatch [.key "mediaType"]) ∧
      ∀ n v, n.intValue? = some v → v ≠ 2 →
        r.FindsOnly MediaType.manifestList.identifier
          (d.replaceAt [.key "schemaVersion"] (.number n)) .rangeViolation
          [.key "schemaVersion"] := by
  obtain ⟨listType, mediaType, digest, hl, -, -, hs, hn⟩ := exists_manifestListSchema hr
  have ha : (manifestListSchema listType mediaType digest).report d = [] :=
    accepts_iff_report.mp ((Registry.validate_eq_ok_iff hs).mp hvalid)
  refine ⟨fun i m hi => ⟨findsOnly_textSize hs hn hd ha hi, fun key hkey => ?_⟩,
    fun text htext => ?_, fun x hx => ?_, fun n v hv hne => ?_⟩
  · exact findsOnly_erased hs hn hd ha hi hkey
  · have hmatch : listType.isMatch text = false :=
      Bool.eq_false_iff.mpr fun hm => htext ((manifestList_isMatch hl).mp hm)
    exact findsOnly_atKey hs hn hd ha (by decide) rfl (ofPattern_report_of_unmatched hmatch)
  · exact findsOnly_atKey hs hn hd ha (by decide) rfl (report_of_otherKind rfl (by decide) hx)
  · have htwo : Number.intValue? ⟨"2"⟩ = some 2 := by decide
    obtain ⟨fault, hkind, hreport⟩ := ofBounds_report htwo htwo (by decide) (by decide) hv
      (Int.le_refl 2) (Int.lt_or_gt_of_ne hne)
    exact hkind ▸ findsOnly_atKey hs hn hd ha (by decide) rfl hreport

theorem spoiled_singleList : ∃ r, Registry.builtin = .ok r ∧
    r.validate MediaType.manifestList.identifier singleList = .ok () ∧
      r.FindsOnly MediaType.manifestList.identifier
        (singleList.replaceAt [.key "manifests", .index 0, .key "size"] (.string "7143"))
        .typeMismatch [.key "manifests", .index 0, .key "size"] ∧
      r.FindsOnly MediaType.manifestList.identifier
        (singleList.replaceAt [.key "schemaVersion"] (.number ⟨"3"⟩))
        .rangeViolation [.key "schemaVersion"] := by
  obtain ⟨r, hr⟩ := exists_builtin
  obtain ⟨listType, mediaType, digest, hl, hm, hg, hs, -⟩ := exists_manifestListSchema hr
  have haccepts := (manifestList_accepts hl hm hg faithful_singleList.numbersLiteral).mpr
    singleList_isManifestList
  have hvalid : r.validate MediaType.manifestList.identifier singleList = .ok () :=
    (Registry.validate_eq_ok_iff hs).mpr haccepts
  obtain ⟨hmanifests, -, -, hversion⟩ :=
    spoiled_manifestList hr (by decide : singleList.keysDistinct = true) hvalid
  refine ⟨r, hr, hvalid, (hmanifests 0 _ rfl).1 "7143", hversion ⟨"3"⟩ 3 ?_ (by decide)⟩
  decide

end Builtin

end ManifestCheck
