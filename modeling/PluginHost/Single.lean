/-!
# Singles and doubles

A double that is made of a single is equal to it. A single that is made of a double is the nearest one, a tie going to the one
whose mantissa is even; what is too large becomes infinite.
-/

namespace PluginHost.Single

open Float.Model (Format UnpackedFloat)

/-- A number rounded to a format; infinities and what is no number stay as they are. -/
def roundTo (format : Format) : UnpackedFloat → UnpackedFloat
  | .finite sign mantissa exponent _ => .round format sign mantissa exponent
  | x => x

/-- A single as a double. -/
def toDouble (x : Float32) : Float := .ofModel (.pack (roundTo .binary64 x.toModel.unpack))

/-- A double rounded to a single. -/
def ofDouble (x : Float) : Float32 := .ofModel (.pack (roundTo .binary32 x.toModel.unpack))

end PluginHost.Single
