import ObjectQuery.Text.Printable
import ObjectQuery.Text.Hex

/-!
Text as a literal: between quotation marks, with the marks and backslashes escaped, the common
controls by name and other unprintable characters by their code point. An apostrophe stands as it
is.
-/
namespace ObjectQuery.Text

def escapeChar (c : Char) : String :=
  if c = '\x00' then "\\0"
  else if c = '\t' then "\\t"
  else if c = '\n' then "\\n"
  else if c = '\r' then "\\r"
  else if c = '\\' then "\\\\"
  else if c = '"' then "\\\""
  else if ' ' ≤ c ∧ c ≤ '~' then c.toString
  else if isUnprintable c then "\\u\x7b" ++ hexDigits c.toNat ++ "\x7d"
  else c.toString

def literal (s : String) : String := "\"" ++ String.join (s.toList.map escapeChar) ++ "\""

end ObjectQuery.Text
