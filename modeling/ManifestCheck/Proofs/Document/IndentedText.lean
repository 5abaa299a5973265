import ManifestCheck.Document.Indented
import ManifestCheck.Proofs.Document.RenderingRoundTrip

/-!
# Indented texts

A document that is written over several lines is written as a text of the grammar: what indenting
adds are blanks, and they stand where the grammar has room for them
(`Document.value_of_indentedChars`).  So an indented text is read as the document that it was made
of (`Document.writtenAs_indented`).
-/

namespace ManifestCheck

open Grammar

namespace Document

theorem blanks_byte {c : Char} (h : Cursor.isBlankByte (byte c) = true) : Blanks [byte c] :=
  List.forall_mem_singleton.mpr h

/-- A line break and what is indented behind it are blanks. -/
theorem blanks_newLine (depth : Nat) : Blanks (charsBytes (newLine depth)) := by
  have hblank : ∀ b ∈ String.utf8EncodeChar ' ', Cursor.isBlankByte b = true := by
    rw [utf8EncodeChar_ascii (by decide)]
    exact blanks_byte (by decide)
  rw [newLine, charsBytes_cons (by decide)]
  refine List.forall_mem_cons.mpr ⟨by decide, fun b hb => ?_⟩
  obtain ⟨c, hc, hb⟩ := List.mem_flatMap.mp hb
  rw [List.eq_of_mem_replicate hc] at hb
  exact hblank b hb

/-- The characters of an indented key and its value. -/
def indentedMember (depth : Nat) (m : String × Document) : List Char :=
  Quoted.chars m.1 ++ ": ".toList ++ m.2.indentedChars depth

theorem indentedRest_eq (depth : Nat) (ds : List Document) :
    indentedRest depth ds =
      ds.flatMap fun d => ',' :: (newLine depth ++ d.indentedChars depth) := by
  induction ds with
  | nil => rfl
  | cons d ds ih => rw [indentedRest, ih, List.flatMap_cons, List.cons_append]

theorem indentedEntries_eq (depth : Nat) (es : List (String × Document)) :
    indentedEntries depth es =
      es.flatMap fun e => ',' :: (newLine depth ++ indentedMember depth e) := by
  induction es with
  | nil => rfl
  | cons e es ih =>
    rw [indentedEntries, ih, List.flatMap_cons, indentedMember]
    simp only [List.append_assoc, List.cons_append]

/-- A key and its value, with a blank between colon and value, are a member of the grammar. -/
theorem member_of_indented {depth : Nat} {m : String × Document}
    (h : Value m.2 (charsBytes (m.2.indentedChars depth))) :
    Member Value m (charsBytes (indentedMember depth m)) := by
  obtain ⟨quoted, hquoted, htext⟩ := quoted_chars m.1
  have hblank : Blanks [byte ' '] := blanks_byte (by decide)
  have hcolon : charsBytes ": ".toList = [byte ':', byte ' '] := by decide
  rw [indentedMember, charsBytes_append, charsBytes_append, htext, hcolon, List.append_assoc]
  exact .colon hquoted blanks_nil hblank h

/-- **An indented document is written by its characters**, at whatever depth it starts. -/
theorem value_of_indentedChars {d : Document} (h : d.NumbersLiteral) (depth : Nat) :
    Value d (charsBytes (d.indentedChars depth)) := by
  induction h generalizing depth with
  | null => exact value_of_chars .null
  | bool b => exact value_of_chars (.bool b)
  | number hn => exact value_of_chars (.number hn)
  | string text => exact value_of_chars (.string text)
  | @array items _ ih =>
    cases items with
    | nil => exact .array (.none blanks_nil)
    | cons d ds =>
      have hparts : Parts Value (byte ']') (d :: ds) _ :=
        parts_joined (indentedChars (depth + 1)) (newLine (depth + 1)) (newLine depth) (by decide)
          (blanks_newLine _) (blanks_newLine _) fun e he => ih e he (depth + 1)
      rw [indentedChars, indentedRest_eq, List.cons_append, List.cons_append, List.cons_append,
        List.cons_append, charsBytes_cons (by decide), List.append_assoc]
      exact .array hparts
  | @object entries _ ih =>
    cases entries with
    | nil => exact .object (.none blanks_nil)
    | cons e es =>
      have hparts : Parts (Member Value) (byte '\x7d') (e :: es) _ :=
        parts_joined (indentedMember (depth + 1)) (newLine (depth + 1)) (newLine depth) (by decide)
          (blanks_newLine _) (blanks_newLine _) fun m hm => member_of_indented (ih m hm (depth + 1))
      have hchars : (object (e :: es)).indentedChars depth = '\x7b' :: (newLine (depth + 1) ++
          indentedMember (depth + 1) e ++
            es.flatMap (fun e => ',' :: (newLine (depth + 1) ++ indentedMember (depth + 1) e)) ++
              (newLine depth ++ ['\x7d'])) := by
        rw [indentedChars, indentedEntries_eq, indentedMember]
        simp only [List.append_assoc, List.cons_append]
      rw [hchars, charsBytes_cons (by decide)]
      exact .object hparts

/-- An indented document is written as its text, with a line break behind it. -/
theorem writtenAs_indented {d : Document} (h : d.NumbersLiteral) :
    d.WrittenAs (Utf8.encode (d.indented ++ "\n")) := by
  refine ⟨[], charsBytes (d.indentedChars 0), [byte '\n'], blanks_nil, value_of_indentedChars h 0,
    blanks_byte (by decide), ?_⟩
  rw [Utf8.encode, String.toList_append, indented, String.toList_ofList, List.flatMap_append]
  rfl

end Document

end ManifestCheck
