import HeapInspector.Description
import HeapInspector.Text.Style

/-!
Descriptions as text. An object is an indented tree: a line for the object, and under it a line for
each field. Fields that reference objects are expanded until the depth is used up. What is rendered
is a row of spans, each with the role that it plays; a palette turns the roles into styles. So the
same reads are made and the same text is shown with colours and without.
-/

namespace HeapInspector

/-- What a piece of rendered text is. -/
inductive Role where
  | header
  | value
  | fieldName
  | error
  deriving DecidableEq, Repr

/-- A piece of text. Without a role it is never painted. -/
structure Span where
  role : Option Role
  text : String
  deriving DecidableEq, Repr

abbrev Rendering := List Span

structure Palette where
  style : Role → Style

namespace Palette

def plain : Palette := ⟨fun _ => .plain⟩

def coloured : Palette where
  style
    | .header => .deepBlue
    | .value => .boldGreen
    | .fieldName => .purple
    | .error => .boldRed

def paint (palette : Palette) (span : Span) : String :=
  match span.role with
  | some role => (palette.style role).paint span.text
  | none => span.text

end Palette

namespace Rendering

def text (rendering : Rendering) (palette : Palette) : String :=
  String.join (rendering.map palette.paint)

def bare (text : String) : Span := ⟨none, text⟩

/-- An error in the place of what could not be read. -/
def failure (error : Error) : Span := ⟨some .error, "<" ++ error.message ++ ">"⟩

/-- An error as a message of its own. -/
def message (error : Error) : Rendering := [⟨some .error, "error: " ++ error.message⟩]

/-- Two blanks for each level. -/
def indent (level : Nat) : String := String.ofList (List.replicate (2 * level) ' ')

end Rendering

open Rendering

/-- The line for an object: what its header tells, and its value. -/
def ObjectDescription.renderLine (d : ObjectDescription) : Inquiry Rendering := do
  match ← d.value.attempt with
  | .ok (some value) =>
      return [⟨some .header, d.display⟩, bare " ", ⟨some .value, value⟩, bare "\n"]
  | .ok none => return [⟨some .header, d.display⟩, bare "\n"]
  | .error error => return [⟨some .header, d.display⟩, bare " ", failure error, bare "\n"]

/-- What stands behind the name of a field that is not expanded. -/
def FieldValue.render (value : FieldValue) : Rendering :=
  [⟨if value.isUnavailable then some .error else none, value.display⟩, bare "\n"]

/-- The line of a field at a level, and what is expanded behind it. -/
def Field.renderLine (expand : FieldValue → Inquiry Rendering) (level : Nat) (field : Field) :
    Inquiry Rendering := do
  return [bare (indent level), ⟨some .fieldName, field.name⟩, bare ": "] ++ (← expand field.value)

/-- The fields of an object, each on a line of its own, or one line that tells why there are none. -/
def ObjectDescription.renderFieldLines (expand : FieldValue → Inquiry Rendering) (level : Nat)
    (d : ObjectDescription) : Inquiry Rendering := do
  match ← d.fields.attempt with
  | .error error => return [bare (indent level), failure error, bare "\n"]
  | .ok fields =>
      let lines ← Inquiry.forEach
        (fun index => do (← fields.field index).renderLine expand level)
        (List.range fields.count)
      return lines.flatten

namespace Introspector

/-- The fields of an object at a level. Objects behind them are expanded if the depth is above one:
their own fields then stand one level further in, at a depth less by one. -/
def renderFields (i : Introspector) : Nat → Nat → ObjectDescription → Inquiry Rendering
  | depth + 2, level, d =>
      let expand (value : FieldValue) : Inquiry Rendering :=
        match value.tagged? with
        | some (.reference address) => do
            match ← (i.describeObject address).attempt with
            | .ok nested =>
                let line ← nested.renderLine
                return line ++ (← i.renderFields (depth + 1) (level + 1) nested)
            | .error error => return [failure error, bare "\n"]
        | _ => return value.render
      d.renderFieldLines expand level
  | _, level, d => d.renderFieldLines (fun value => return value.render) level

/-- An object on a line of its own, and its fields under it unless the depth is zero. -/
def renderObject (i : Introspector) (depth : Nat) (d : ObjectDescription) : Inquiry Rendering := do
  let line ← d.renderLine
  if depth = 0 then return line
  else return line ++ (← i.renderFields depth 1 d)

/-- A value, with as many levels of fields as the depth says. -/
def render (i : Introspector) (depth : Nat) : Description → Inquiry Rendering
  | .object d => i.renderObject depth d
  | other => return [⟨some .value, other.display⟩, bare "\n"]

/-- Only the fields of a value. -/
def renderOnlyFields (i : Introspector) (depth : Nat) : Description → Inquiry Rendering
  | .object d => i.renderFields depth 0 d
  | other => return [bare (other.display ++ " has no fields\n")]

end Introspector

end HeapInspector
