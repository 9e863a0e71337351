import HeapInspector.Field

/-!
The room for data in an object that stores the size of its bytes. The size counts a few fixed words
and the data behind them.
-/

namespace HeapInspector.ObjectRef

/-- What the stored size leaves for the data behind the fixed words. -/
def dataExtent (object : ObjectRef) (stored fixedWords : Nat) : Inquiry Nat :=
  if stored < fixedWords * object.wordSize then object.inconsistent (.implausibleSize stored)
  else .done (stored - fixedWords * object.wordSize)

def checkFitsExtent (object : ObjectRef) (dataSize extent : Nat) : Inquiry Unit :=
  if extent < dataSize then object.inconsistent (.lengthExceedsExtent dataSize extent) else .done ()

/-- The size of data whose length is stored, if it fits into the extent and can be real. -/
def checkDataSize (object : ObjectRef) (stored fixedWords dataSize : Nat) : Inquiry Nat := do
  let extent ← object.dataExtent stored fixedWords
  object.checkFitsExtent dataSize extent
  object.checkPayloadSize dataSize

end HeapInspector.ObjectRef
