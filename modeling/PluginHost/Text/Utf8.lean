/-!
# Reading bytes as text

Bytes that come from scripts and files need not be valid UTF-8. `ofBytes?` accepts exactly the valid ones;
`ofBytesLossy` accepts everything and writes U+FFFD for each maximal ill-formed part, so that valid text is kept
as it is.
-/

namespace PluginHost.Text

/-- The text that the bytes spell, if they are valid UTF-8. -/
def ofBytes? (bytes : ByteArray) : Option String := String.fromUTF8? bytes

@[simp] theorem ofBytes?_toUTF8 (s : String) : ofBytes? s.toUTF8 = some s := dif_pos s.isValidUTF8

/-- Whether a byte continues a multi-byte sequence. -/
def isContinuation (b : UInt8) : Bool := b &&& 0xC0 == 0x80

/-- The bytes that may follow a leading byte, and how many bytes the whole sequence has. -/
def secondRange (lead : UInt8) : Option (Nat × UInt8 × UInt8) :=
  if 0xC2 ≤ lead ∧ lead ≤ 0xDF then some (2, 0x80, 0xBF)
  else if lead = 0xE0 then some (3, 0xA0, 0xBF)
  else if lead = 0xED then some (3, 0x80, 0x9F)
  else if 0xE1 ≤ lead ∧ lead ≤ 0xEF then some (3, 0x80, 0xBF)
  else if lead = 0xF0 then some (4, 0x90, 0xBF)
  else if 0xF1 ≤ lead ∧ lead ≤ 0xF3 then some (4, 0x80, 0xBF)
  else if lead = 0xF4 then some (4, 0x80, 0x8F)
  else none

/-- The replacement character. -/
def replacement : Char := '\uFFFD'

/-- Joins the payload bits of a sequence that starts with the payload `acc`. -/
def payload (acc : Nat) (tail : List UInt8) : Nat :=
  tail.foldl (fun n b => n * 64 + (b &&& 0x3F).toNat) acc

/-- The payload bits of a leading byte of a sequence of `width` bytes. -/
def leadPayload (lead : UInt8) (width : Nat) : Nat :=
  if width = 2 then (lead &&& 0x1F).toNat else if width = 3 then (lead &&& 0x0F).toNat else (lead &&& 0x07).toNat

/-- The first character of the bytes and the number of bytes it takes. An ill-formed start is replaced, and takes
the longest part that could still have begun a character. -/
def firstLossy (lead : UInt8) (rest : List UInt8) : Char × Nat :=
  if lead < 0x80 then (Char.ofNat lead.toNat, 1)
  else match secondRange lead with
    | none => (replacement, 1)
    | some (width, low, high) => match rest with
      | [] => (replacement, 1)
      | second :: more =>
        if low ≤ second ∧ second ≤ high then
          let tail := (more.take (width - 2)).takeWhile isContinuation
          if tail.length = width - 2 then (Char.ofNat (payload (leadPayload lead width) (second :: tail)), width)
          else (replacement, 2 + tail.length)
        else (replacement, 1)

/-- Reads all the bytes, `count` of which are left to skip because the last character took them. -/
def readLossy (acc : Array Char) : Nat → List UInt8 → Array Char
  | _, [] => acc
  | count + 1, _ :: rest => readLossy acc count rest
  | 0, b :: rest =>
    let (c, width) := firstLossy b rest
    readLossy (acc.push c) (width - 1) rest

/-- The text of the bytes, with U+FFFD for each maximal ill-formed part. -/
def ofBytesLossy (bytes : ByteArray) : String :=
  match ofBytes? bytes with
  | some s => s
  | none => String.ofList (readLossy #[] 0 bytes.toList).toList

@[simp] theorem ofBytesLossy_toUTF8 (s : String) : ofBytesLossy s.toUTF8 = s := by
  rw [ofBytesLossy, ofBytes?_toUTF8]

end PluginHost.Text
