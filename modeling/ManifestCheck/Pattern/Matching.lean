import ManifestCheck.Pattern.Expr

/-!
# Matching

A set of places of a text is a number: place `i` is in the set when bit `i` is one. An expression
takes the set of places where it may start to the set of places where it may end. Repetition goes on
round by round; as places are only added, a text of `n` characters needs no more than `n + 1`
rounds. What each character set and each assertion says about the text is worked out once beforehand, in the
`Plan` of the expression.
-/

namespace ManifestCheck.Pattern

/-- An expression as seen by one text: its leaves are the sets of places where they apply. -/
inductive Plan where
  | pass
  | advance (places : Nat)
  | stay (places : Nat)
  | seq (first second : Plan)
  | alt (first second : Plan)
  | rep (body : Plan) (least : Nat) (rounds : Nat)

/-- The places whose neighbours satisfy a test, given the character in front of the text. -/
def placesFrom (test : Option Char → Option Char → Bool) (prev : Option Char) : List Char → Nat
  | [] => (test prev none).toNat
  | c :: cs => (test prev (some c)).toNat + 2 * placesFrom test (some c) cs

/-- The places of a text whose neighbours satisfy a test. -/
def places (test : Option Char → Option Char → Bool) (text : List Char) : Nat :=
  placesFrom test none text

def Expr.plan (text : List Char) : Expr → Plan
  | empty => .pass
  | chars set => .advance (places (fun _ after => after.any set.contains) text)
  | assertion a => .stay (places a.holds text)
  | seq e f => .seq (plan text e) (plan text f)
  | alt e f => .alt (plan text e) (plan text f)
  | group e => plan text e
  | rep e least most =>
    .rep (plan text e) least (match most with
      | some m => m - least
      | none => text.length + 1)

/-- A function applied so many times, or until it changes nothing. -/
def iterate (f : Nat → Nat) : Nat → Nat → Nat
  | 0, s => s
  | n + 1, s => if f s = s then s else iterate f n (f s)

/-- The places where an expression may end that starts at one of the given places. -/
def Plan.ends : Plan → Nat → Nat
  | pass, s => s
  | advance here, s => 2 * (s &&& here)
  | stay here, s => s &&& here
  | seq p q, s => q.ends (p.ends s)
  | alt p q, s => p.ends s ||| q.ends s
  | rep p least rounds, s =>
    iterate (fun t => t ||| p.ends t) rounds (iterate p.ends least s)

/-- Whether an expression leads from some place of a text to another. -/
def Expr.occursIn (e : Expr) (text : List Char) : Bool :=
  (e.plan text).ends (Nat.pow 2 (text.length + 1) - 1) ≠ 0

end ManifestCheck.Pattern
