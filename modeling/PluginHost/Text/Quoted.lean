import PluginHost.Text.Printable

/-!
# Quoted text in reports

The notation in which the host shows a text inside a report: double quotes around it, a backslash before a quote or
a backslash, the usual letters for a tab, line ends and NUL, and a numbered escape for what cannot be seen on its own.
-/

namespace PluginHost.Text

/-- The lower-case hexadecimal digits of a number. -/
def hexDigits (n : Nat) : String := String.ofList (Nat.toDigits 16 n)

/-- A character by its number: a backslash, a u, and the hexadecimal digits in braces. -/
def escapeByNumber (c : Char) : String := "\\u\x7b" ++ hexDigits c.toNat ++ "\x7d"

/-- How one character is written between the quotes. -/
def quoteChar (c : Char) : String :=
  if c = '\x00' then "\\0"
  else if c = '\t' then "\\t"
  else if c = '\r' then "\\r"
  else if c = '\n' then "\\n"
  else if c = '"' then "\\\""
  else if c = '\\' then "\\\\"
  else if isCombining c.toNat || !isPrintable c.toNat then escapeByNumber c
  else c.toString

/-- A text between quotes. -/
def quote (s : String) : String := "\"" ++ String.join (s.toList.map quoteChar) ++ "\""

end PluginHost.Text
