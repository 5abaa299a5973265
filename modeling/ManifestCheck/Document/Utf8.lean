/-!
# Well-formed byte sequences

How far a list of bytes is well-formed UTF-8. Overlong forms, surrogates and values past the last
code point are not.
-/

namespace ManifestCheck.Utf8

/-- The bytes that continue a sequence. -/
def isTail (b : UInt8) : Bool := 0x80 ≤ b && b ≤ 0xBF

/-- The length of the well-formed sequence at the head of the bytes, zero if there is none. -/
def sequenceLength : List UInt8 → Nat
  | [] => 0
  | a :: rest =>
    if a < 0x80 then 1
    else if 0xC2 ≤ a && a ≤ 0xDF then
      match rest with
      | b :: _ => if isTail b then 2 else 0
      | _ => 0
    else if 0xE0 ≤ a && a ≤ 0xEF then
      match rest with
      | b :: c :: _ =>
        let low : UInt8 := if a = 0xE0 then 0xA0 else 0x80
        let high : UInt8 := if a = 0xED then 0x9F else 0xBF
        if low ≤ b && b ≤ high && isTail c then 3 else 0
      | _ => 0
    else if 0xF0 ≤ a && a ≤ 0xF4 then
      match rest with
      | b :: c :: d :: _ =>
        let low : UInt8 := if a = 0xF0 then 0x90 else 0x80
        let high : UInt8 := if a = 0xF4 then 0x8F else 0xBF
        if low ≤ b && b ≤ high && isTail c && isTail d then 4 else 0
      | _ => 0
    else 0

/-- How many bytes in front are well-formed. -/
def validLength (bytes : List UInt8) : Nat :=
  match bytes with
  | [] => 0
  | b :: rest =>
    match sequenceLength (b :: rest) with
    | 0 => 0
    | n + 1 => n + 1 + validLength (rest.drop n)
termination_by bytes.length
decreasing_by simp only [List.length_drop, List.length_cons]; omega

/-- Text from its bytes, if they are well-formed. -/
def decode? (bytes : List UInt8) : Option String := String.fromUTF8? ⟨bytes.toArray⟩

/-- The bytes of a text. -/
def encode (text : String) : List UInt8 := text.toList.flatMap String.utf8EncodeChar

end ManifestCheck.Utf8
