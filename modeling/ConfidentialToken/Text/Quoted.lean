import ConfidentialToken.Text.Unprintable

/-!
# Quoted text and record notation

How values are shown for reading: text between quotes with escapes, lists, options, maps, and records
as a name with its fields. Nothing reads this notation back.
-/

namespace ConfidentialToken.Text

/-- The hexadecimal digits of a number, without leading zeros. -/
def hexDigits (n : Nat) : String := String.ofList (Nat.toDigits 16 n)

/-- A character between quotes. -/
def escape (c : Char) : String :=
  if c = '\x00' then "\\0"
  else if c = '\t' then "\\t"
  else if c = '\n' then "\\n"
  else if c = '\r' then "\\r"
  else if c = '"' then "\\\""
  else if c = '\\' then "\\\\"
  else if isUnprintable c then "\\u\x7b" ++ hexDigits c.toNat ++ "\x7d"
  else c.toString

/-- A text between quotes. -/
def quote (text : String) : String :=
  "\"" ++ String.join (text.toList.map escape) ++ "\""

/-- Shown values between brackets. -/
def list (items : List String) : String :=
  "[" ++ String.intercalate ", " items ++ "]"

/-- Shown values inside braces, each after its key. -/
def map (entries : List (String × String)) : String :=
  "\x7b" ++ String.intercalate ", " (entries.map fun (key, value) => key ++ ": " ++ value) ++ "\x7d"

/-- A shown value that may be missing. -/
def option : Option String → String
  | none => "None"
  | some text => "Some(" ++ text ++ ")"

/-- A name with fields. -/
def record (name : String) (fields : List (String × String)) : String :=
  if fields.isEmpty then name
  else
    name ++ " \x7b " ++
      String.intercalate ", " (fields.map fun (field, value) => field ++ ": " ++ value) ++ " \x7d"

/-- A name around one value. -/
def wrapped (name value : String) : String := name ++ "(" ++ value ++ ")"

end ConfidentialToken.Text
