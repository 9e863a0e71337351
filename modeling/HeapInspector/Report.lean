import HeapInspector.Output
import HeapInspector.Rendering
import HeapInspector.Snapshot

/-!
Reports on words. Each word is described on its own. One that cannot be described is reported as an
error and keeps none of the others from being described.
-/

namespace HeapInspector

inductive ReportFormat where
  | text
  | json
  deriving DecidableEq, Repr

/-- A description in a format, without colours. The depth matters to text only. -/
def Introspector.report (i : Introspector) (format : ReportFormat) (depth : Nat)
    (description : Description) : Inquiry String :=
  match format with
  | .text => do return (← i.render depth description).text .plain
  | .json => do return (← description.snapshot).toJson.pretty 0 ++ "\n"

/-- The report on the value that a word holds. -/
def Introspector.reportWord (i : Introspector) (format : ReportFormat) (depth word : Nat) :
    Inquiry String := do
  i.report format depth (← i.describe word)

/-- Reports on words, and whether all of them could be described. -/
structure ReportedWords where
  succeeded : Bool
  output : Output
  deriving DecidableEq, Repr

def Introspector.reportWords (i : Introspector) (format : ReportFormat) (depth : Nat) :
    List Nat → Inquiry ReportedWords
  | [] => return ⟨true, .empty⟩
  | word :: rest => do
      let first : ReportedWords := match ← (i.reportWord format depth word).attempt with
        | .ok text => ⟨true, .print text⟩
        | .error error => ⟨false, .complain (Numeral.hex word ++ ": " ++ error.message)⟩
      let rest ← i.reportWords format depth rest
      return ⟨first.succeeded && rest.succeeded, first.output ++ rest.output⟩

end HeapInspector
