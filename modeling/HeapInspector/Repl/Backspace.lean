import HeapInspector.Text.Cluster
import HeapInspector.Text.Utf8

/-!
Lines that do not come from a terminal are edited as they come in: a backspace takes back what was
typed before it. What one backspace takes back is a cluster, as a reader sees it.
-/

namespace HeapInspector.Repl

/-- A line on its way in. Both lists hold the last part of the line first. -/
structure TypedText where
  text : List Char
  /-- The sizes of the clusters that a backspace can still take back. -/
  sizes : List Nat
  deriving DecidableEq, Repr

/-- The size of a cluster is kept in one byte, so of a cluster that is larger than that a backspace
takes back only what exceeds it. -/
def sizeBound : Nat := 256

def clusterSize (cluster : List Char) : Nat := Utf8.size cluster % sizeBound

/-- Takes as many characters off the front as have room in a number of bytes. -/
def dropBytes : Nat → List Char → List Char
  | _, [] => []
  | room, c :: rest => if c.utf8Size ≤ room then dropBytes (room - c.utf8Size) rest else c :: rest

/-- Takes back the last cluster, if there is one. -/
def TypedText.erase (typed : TypedText) : TypedText :=
  match typed.sizes with
  | [] => typed
  | size :: sizes => ⟨dropBytes size typed.text, sizes⟩

def TypedText.append (typed : TypedText) (cluster : List Char) : TypedText :=
  ⟨cluster.reverse ++ typed.text, clusterSize cluster :: typed.sizes⟩

def TypedText.type (typed : TypedText) (cluster : List Char) : TypedText :=
  if cluster = ['\x08'] then typed.erase else typed.append cluster

/-- The line that remains of a text when its backspaces have done their work. -/
def applyBackspaces (text : String) : String :=
  String.ofList ((Cluster.split text.toList).foldl TypedText.type ⟨[], []⟩).text.reverse

theorem text_foldl_type {clusters : List (List Char)} (h : ['\x08'] ∉ clusters)
    (typed : TypedText) :
    (clusters.foldl TypedText.type typed).text = clusters.flatten.reverse ++ typed.text := by
  induction clusters generalizing typed with
  | nil => rfl
  | cons first rest ih =>
    have hFirst : first ≠ ['\x08'] := fun same => h (by simp [same])
    have hRest : ['\x08'] ∉ rest := fun inside => h (List.mem_cons_of_mem _ inside)
    simp [ih hRest, TypedText.type, TypedText.append, hFirst]

/-- Without a backspace a line comes in as it is. -/
theorem applyBackspaces_of_not_mem {text : String} (h : '\x08' ∉ text.toList) :
    applyBackspaces text = text := by
  have hClusters : ['\x08'] ∉ Cluster.split text.toList := by
    intro inside
    have hText : '\x08' ∈ (Cluster.split text.toList).flatten :=
      List.mem_flatten.2 ⟨_, inside, by simp⟩
    exact h (by simpa using hText)
  simp [applyBackspaces, text_foldl_type hClusters]

end HeapInspector.Repl
