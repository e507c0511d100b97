import Tandem.Json.Basic

/-! # JSON as text

Values written compactly on one line, or spread over lines with an indent of two blanks. -/

namespace Tandem.Json

/-- One character inside a JSON string: short escapes for the usual controls, four hexadecimal
digits for the others below the blank. -/
def escapedChar (c : Char) : List Char :=
  if c = '"' then ['\\', '"']
  else if c = '\\' then ['\\', '\\']
  else if c = '\x08' then ['\\', 'b']
  else if c = '\x0c' then ['\\', 'f']
  else if c = '\n' then ['\\', 'n']
  else if c = '\r' then ['\\', 'r']
  else if c = '\t' then ['\\', 't']
  else if c.toNat < 0x20 then
    ['\\', 'u', '0', '0', Nat.digitChar (c.toNat / 16), Nat.digitChar (c.toNat % 16)]
  else [c]

/-- A string in quotes. -/
def quotedText (s : String) : List Char :=
  '"' :: (s.toList.flatMap escapedChar ++ ['"'])

mutual

/-- The characters of a value on one line, without blanks. -/
def compactChars : Json → List Char
  | .null => ['n', 'u', 'l', 'l']
  | .bool true => ['t', 'r', 'u', 'e']
  | .bool false => ['f', 'a', 'l', 's', 'e']
  | .number n => n.text.toList
  | .string s => quotedText s
  | .array items => '[' :: compactItems items
  | .object fields => '{' :: compactFields fields

/-- The items of an array, up to and with its closing bracket. -/
def compactItems : List Json → List Char
  | [] => [']']
  | [item] => item.compactChars ++ [']']
  | item :: rest => item.compactChars ++ ',' :: compactItems rest

/-- The fields of an object, up to and with its closing brace. -/
def compactFields : List (String × Json) → List Char
  | [] => ['}']
  | [(name, value)] => quotedText name ++ ':' :: (value.compactChars ++ ['}'])
  | (name, value) :: rest => quotedText name ++ ':' :: (value.compactChars ++ ',' :: compactFields rest)

end

/-- A value on one line, without blanks. -/
def compact (value : Json) : String := String.ofList value.compactChars

/-- A new line, indented by two blanks per level. -/
def newLine (level : Nat) : List Char := '\n' :: List.replicate (2 * level) ' '

mutual

/-- The characters of a value spread over lines, inside a given number of enclosing values. -/
def prettyChars (level : Nat) : Json → List Char
  | .array [] => ['[', ']']
  | .array (item :: rest) => '[' :: prettyItems level (item :: rest)
  | .object [] => ['{', '}']
  | .object (field :: rest) => '{' :: prettyFields level (field :: rest)
  | .null => ['n', 'u', 'l', 'l']
  | .bool true => ['t', 'r', 'u', 'e']
  | .bool false => ['f', 'a', 'l', 's', 'e']
  | .number n => n.text.toList
  | .string s => quotedText s

/-- The items of an array, each on lines of its own, up to and with the closing bracket. -/
def prettyItems (level : Nat) : List Json → List Char
  | [] => newLine level ++ [']']
  | [item] => newLine (level + 1) ++ prettyChars (level + 1) item ++ newLine level ++ [']']
  | item :: rest =>
    newLine (level + 1) ++ prettyChars (level + 1) item ++ ',' :: prettyItems level rest

/-- The fields of an object, each on lines of its own, up to and with the closing brace. -/
def prettyFields (level : Nat) : List (String × Json) → List Char
  | [] => newLine level ++ ['}']
  | [(name, value)] =>
    newLine (level + 1) ++ quotedText name ++ ':' :: ' ' :: (prettyChars (level + 1) value ++
      newLine level ++ ['}'])
  | (name, value) :: rest =>
    newLine (level + 1) ++ quotedText name ++ ':' :: ' ' :: (prettyChars (level + 1) value ++
      ',' :: prettyFields level rest)

end

/-- A value spread over lines, without a final line end. -/
def pretty (value : Json) : String := String.ofList (value.prettyChars 0)

end Tandem.Json
