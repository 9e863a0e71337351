/-!
Terminal styles. A style is the parameter of the control sequence that turns it on; painted text is
closed by the sequence that turns every style off.
-/

namespace HeapInspector

/-- How a piece of text is shown. Without a code it is shown as it is. -/
structure Style where
  code : Option String
  deriving DecidableEq, Repr

namespace Style

def plain : Style := ⟨none⟩
def boldRed : Style := ⟨some "1;31"⟩
def boldGreen : Style := ⟨some "1;32"⟩
def purple : Style := ⟨some "35"⟩
def deepBlue : Style := ⟨some "38;5;25"⟩
def dimmed : Style := ⟨some "2"⟩

/-- The text in the style. Empty text is painted as well. -/
def paint (style : Style) (text : String) : String :=
  match style.code with
  | none => text
  | some code => "\x1b[" ++ code ++ "m" ++ text ++ "\x1b[0m"

end Style

end HeapInspector
