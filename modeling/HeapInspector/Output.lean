/-!
What a program writes: to the user, and to the channel for errors.
-/

namespace HeapInspector

structure Output where
  out : String
  err : String
  deriving DecidableEq, Repr

namespace Output

def empty : Output := ⟨"", ""⟩

def print (text : String) : Output := ⟨text, ""⟩

/-- A line on the channel for errors. -/
def complain (text : String) : Output := ⟨"", text ++ "\n"⟩

def append (first second : Output) : Output := ⟨first.out ++ second.out, first.err ++ second.err⟩

instance : Append Output := ⟨append⟩

end Output

end HeapInspector
