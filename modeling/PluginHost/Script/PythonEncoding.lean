import PluginHost.Script.PythonNative

/-!
# Bytes and texts of Python

Texts are encoded as UTF-8, in which surrogates have no form, and bytes that are no UTF-8 cannot be decoded.
-/

namespace PluginHost.Python

open Run

/-- The first thing wrong in bytes as a text: where, how many bytes, and why. -/
def decodeError? : Nat → List UInt8 → Nat → Option (Nat × Nat × String)
  | 0, _, _ => none
  | _ + 1, [], _ => none
  | fuel + 1, b :: rest, i =>
    if b < 0x80 then decodeError? fuel rest (i + 1)
    else match PluginHost.Text.secondRange b with
      | none => some (i, 1, "invalid start byte")
      | some (width, low, high) => match rest with
        | [] => some (i, 1, "unexpected end of data")
        | second :: more =>
          if ¬ (low ≤ second ∧ second ≤ high) then some (i, 1, "invalid continuation byte")
          else
            let tail := (more.take (width - 2)).takeWhile PluginHost.Text.isContinuation
            if tail.length = width - 2 then decodeError? fuel (rest.drop (width - 1)) (i + width)
            else if more.length < width - 2 ∧ tail.length = more.length then
              some (i, 2 + tail.length, "unexpected end of data")
            else some (i, 2 + tail.length, "invalid continuation byte")

/-- The text of bytes. -/
def decodeBytes (b : List UInt8) : Run Value := do
  match PluginHost.Text.ofBytes? ⟨b.toArray⟩ with
  | some s => return .ofString s
  | none =>
    let (start, width, reason) := (decodeError? (b.length + 1) b 0).getD (0, 1, "invalid start byte")
    throwValue (← exception "UnicodeDecodeError" [.ofString "utf-8", .bytes b, .int start, .int (start + width : Nat),
      .ofString reason] [])

/-- The bytes of a text. -/
def encodeText (s : Text) : Run (List UInt8) := do
  match s.encode? with
  | some b => return b
  | none =>
    let start := (s.takeWhile fun n => decide n.isValidChar).length
    let width := ((s.drop start).takeWhile fun n => !decide n.isValidChar).length
    throwValue (← exception "UnicodeEncodeError" [.ofString "utf-8", .str s, .int start, .int (start + width : Nat),
      .ofString "surrogates not allowed"] [])

/-- Refuses encodings other than the one that is known. -/
def checkEncoding (v : Option Value) (what : String) : Run Unit := do
  match v with
  | none => return ()
  | some v =>
    let name := (← needText what v).string
    let plain := (name.toLower.replace "-" "").replace "_" ""
    unless plain = "utf8" ∨ plain = "ascii" ∨ plain = "latin1" do fail "LookupError" ("unknown encoding: " ++ name)

/-- The bytes that a value gives to a constructor of bytes. -/
def bytesOf (eng : Engine) (what : String) (args : List Value) : Run (List UInt8) := do
  match args with
  | [] => return []
  | v :: more => match ← v.plain with
    | .str s =>
      if more.isEmpty then typeError "string argument without an encoding"
      else
        checkEncoding more.head? (what ++ "() argument 'encoding'")
        encodeText s
    | .bytes b => return b
    | p => match p.int? with
      | some n => if n < 0 then fail "ValueError" "negative count" else return List.replicate n.toNat 0
      | none => match p with
        | .ref id => match ← data id with
          | .bytearray b => return b
          | _ => fromItems v
        | _ => fromItems v
where
  /-- The bytes of integers. -/
  fromItems (v : Value) : Run (List UInt8) := do
    match ← attempt (iter eng v) with
    | .error _ => typeError ("cannot convert '" ++ (← v.typeName) ++ "' object to " ++ what)
    | .ok it =>
      (← itemsOf eng it).mapM fun x => do
        let n ← needInt eng x
        if n < 0 ∨ 255 < n then fail "ValueError" (what ++ " must be in range(0, 256)") else return UInt8.ofNat n.toNat

end PluginHost.Python
