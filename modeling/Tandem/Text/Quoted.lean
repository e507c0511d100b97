import Tandem.Text.Numeral
import Tandem.Text.Visible

/-! # Quoted text

Text between double quotes, as messages show the strings that they speak of. -/

namespace Tandem.Text

/-- One character inside double quotes: short escapes for the usual controls, the code point in
hexadecimal for every other hidden character. -/
def quotedChar (c : Char) : String :=
  if c = '\x00' then "\\0"
  else if c = '\t' then "\\t"
  else if c = '\r' then "\\r"
  else if c = '\n' then "\\n"
  else if c = '\\' then "\\\\"
  else if c = '"' then "\\\""
  else if isVisible c then c.toString
  else "\\u\x7b" ++ hex c.toNat ++ "\x7d"

/-- A text in double quotes. -/
def quoted (s : String) : String :=
  "\"" ++ String.join (s.toList.map quotedChar) ++ "\""

/-- A name in backticks, as messages set off the names of fields and variants. -/
def ticked (s : String) : String := "`" ++ s ++ "`"

end Tandem.Text
