import HeapInspector.Decoder.Array
import HeapInspector.Decoder.ByLayout
import HeapInspector.Decoder.PackedText
import HeapInspector.Decoder.RawBytes
import HeapInspector.Decoder.Scalar
import HeapInspector.TypeKey

/-!
The decoders by type. A registry has at most one decoder for a key. Looking up never fails: objects
of a type without a decoder of its own are decoded by the layout that their type declares.
-/

namespace HeapInspector

/-- The registered decoders, in the order of their registration. -/
structure Registry where
  entries : List (TypeKey × Decoder)

namespace Registry

def empty : Registry := ⟨[]⟩

def get? (registry : Registry) (name : String) : Option Decoder :=
  registry.entries.lookup (TypeKey.ofName name)

def contains (registry : Registry) (name : String) : Bool := (registry.get? name).isSome

/-- The decoder for a type name, which may not be known. -/
def lookup (registry : Registry) (name : Option String) : Decoder :=
  (name.bind registry.get?).getD Decoder.byLayout

/-- Adds a decoder for the types with the given name. A key that has a decoder already keeps it. The
registry is the one that the call leaves behind, whether it succeeds or not. -/
def register (registry : Registry) (name : String) (decoder : Decoder) : Except Error Unit × Registry :=
  let key := TypeKey.ofName name
  if registry.contains name then (.error (.duplicateDecoder key.text), registry)
  else (.ok (), ⟨registry.entries ++ [(key, decoder)]⟩)

def keys (registry : Registry) : List TypeKey := registry.entries.map (·.1)

/-- The decoders of the types that are built into the runtime, by key. -/
def builtin : Registry where
  entries :=
    [("bool", Decoder.bool), ("float", Decoder.float), ("nil", Decoder.nil),
      ("array", Decoder.array), ("array_slots", Decoder.slots), ("tuple", Decoder.slots),
      ("symbol", Decoder.symbol), ("string", Decoder.string), ("bytes", Decoder.bytes),
      ("type", Decoder.typeDescriptor)].map fun (key, decoder) => (⟨key⟩, decoder)

end Registry

end HeapInspector
