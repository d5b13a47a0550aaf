/-!
# Bytes as characters

Program text may hold any bytes. `toChars` shows every byte as the character of the same number, so that readers can be
written over lists of characters; `ofChars` goes back, and `ofString` writes real characters as the bytes of their UTF-8 form.
-/

namespace PluginHost.Bytes

/-- Each byte as the character of its number. -/
def toChars (b : ByteArray) : List Char := b.toList.map fun x => Char.ofNat x.toNat

/-- Each character as the byte of its number; higher bits are lost. -/
def ofChars (cs : List Char) : ByteArray := ⟨(cs.map fun c => UInt8.ofNat c.toNat).toArray⟩

/-- The bytes of a text. -/
def ofString (s : String) : ByteArray := s.toUTF8

/-- The order of byte sequences, byte by byte. -/
def compare (a b : ByteArray) : Ordering := go a.toList b.toList
where
  go : List UInt8 → List UInt8 → Ordering
    | [], [] => .eq
    | [], _ :: _ => .lt
    | _ :: _, [] => .gt
    | x :: xs, y :: ys => (Ord.compare x y).then (go xs ys)

end PluginHost.Bytes
