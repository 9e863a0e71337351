import HeapInspector.Decoder.Extent
import HeapInspector.Text.Utf8

/-!
Symbols: the stored size, a link, a hash, and text in UTF-8. The text ends at the first zero byte,
or at the end of its extent; nothing behind it matters.
-/

namespace HeapInspector.Decoder

/-- The number of words in front of the data of a symbol. -/
def symbolFixedWords : Nat := 3

def decodeUtf8 (object : ObjectRef) (bytes : Bytes) : Inquiry String :=
  match Utf8.decode bytes with
  | some text => .done text
  | none => object.inconsistent .invalidUtf8

def readSymbolText (object : ObjectRef) (stored : Nat) : Inquiry String := do
  let extent ← object.dataExtent stored symbolFixedWords
  let size ← object.checkPayloadSize extent
  let offset ← object.bodyWordOffset symbolFixedWords
  let data ← object.readBytes offset size
  decodeUtf8 object (data.takeWhile (· ≠ 0))

def symbol : Decoder where
  value object := do
    let stored ← object.readWord object.bodyOffset
    return some (Quoted.quote (← readSymbolText object stored))
  fields object := do
    match ← object.readWords object.bodyOffset symbolFixedWords with
    | stored :: next :: hash :: _ =>
        return Fields.known "hash" (.unsigned hash) ++
          Fields.known "registry_next" (.tagged (object.classify next)) ++
          Fields.one "text" (do return .text (← readSymbolText object stored))
    | _ => Inquiry.defect .indexOutOfBounds

end HeapInspector.Decoder
