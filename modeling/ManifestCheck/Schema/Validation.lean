import ManifestCheck.Path
import ManifestCheck.Schema

/-!
# Validation

Every fault of a document, with the path of the value that has it. A value of a kind that is not
asked for has that one fault, and nothing inside it is looked at; nothing else is passed over. The
values inside an object come in the order of the schema's declarations, those under undeclared keys
behind them in the order of the document. A walk carries the path with it: it steps into a value and
back out again.
-/

namespace ManifestCheck

/-- A fault and the path of the value that has it; for a missing property this is the object that
lacks it. -/
structure Violation where
  path : Path
  fault : Fault

namespace Violation

def kind (v : Violation) : FaultKind := v.fault.kind

def message (v : Violation) : String := v.fault.message

/-- The path and the message in one line. -/
def render (v : Violation) : String :=
  (if v.path.isEmpty then "(root)" else v.path.render) ++ ": " ++ v.message

/-- A line for each violation, indented. -/
def renderAll (vs : List Violation) : String :=
  "\n".intercalate (vs.map fun v => "  " ++ v.render)

/-- The violations at the value whose path is written in a given way. -/
def located (path : String) (vs : List Violation) : List Violation :=
  vs.filter fun v => v.path.render == path

/-- Whether there is a violation of a kind at a path. -/
def reported (path : String) (kind : FaultKind) (vs : List Violation) : Bool :=
  (located path vs).any fun v => v.kind = kind

end Violation

/-- The steps to the present value, last one first, and the violations found, last one first. -/
structure Walk where
  steps : List Segment := []
  found : List Violation := []

namespace Walk

def enter (w : Walk) (step : Segment) : Walk := { w with steps := step :: w.steps }

def leave (w : Walk) : Walk := { w with steps := w.steps.drop 1 }

/-- Notes a fault of the present value. -/
def report (w : Walk) (fault : Fault) : Walk :=
  { w with found := ⟨w.steps.reverse, fault⟩ :: w.found }

def reportAll (w : Walk) (faults : List Fault) : Walk := faults.foldl report w

end Walk

namespace Schema

mutual

/-- Walks over a value and what is inside it. -/
def visit : Schema → Document → Walk → Walk
  | node checks properties additional items, d, w =>
    match checks.typeFault? d with
    | some fault => w.report fault
    | none =>
      let w := w.reportAll (checks.ownFaults d)
      let w := match d with
        | .object entries =>
          let w := visitProperties properties entries w
          match additional with
          | none => w
          | some extra =>
            (entries.filter fun (e : String × Document) => (properties.lookup e.1).isNone).foldl
              (fun w (e : String × Document) => (extra.visit e.2 (w.enter (.key e.1))).leave) w
        | .array elements =>
          match items with
          | none => w
          | some each =>
            let step := fun (w : Walk) (e : Document × Nat) =>
              (each.visit e.1 (w.enter (.index e.2))).leave
            elements.zipIdx.foldl step w
        | _ => w
      w.reportAll (checks.listFaults d)

/-- Walks over the values under declared keys. -/
def visitProperties : List (String × Schema) → List (String × Document) → Walk → Walk
  | [], _, w => w
  | (name, s) :: rest, entries, w =>
    visitProperties rest entries
      (match entries.lookup name with
        | none => w
        | some d => (s.visit d (w.enter (.key name))).leave)

end

/-- The violations of a document, in the order in which they are found. -/
def violations (s : Schema) (d : Document) : List Violation := (s.visit d {}).found.reverse

/-- Whether a document conforms. -/
def accepts (s : Schema) (d : Document) : Bool := (s.violations d).isEmpty

end Schema

end ManifestCheck
