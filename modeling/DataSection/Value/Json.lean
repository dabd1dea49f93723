import DataSection.Binary
import DataSection.Text.Numeral
import DataSection.Text.Utf8
import DataSection.Value.Basic

/-!
# Values as JSON

The text has no spaces.  Strings are read with replacement characters, byte arrays
are arrays of numbers, and a map is an object with its entries in their order.  JSON
numbers would lose bits of a float, so a finite one is a string of its bits; one that
is not finite is `null`.
-/

namespace DataSection.Value

/-- A character within a JSON string. -/
def escapeJson (char : Char) : String :=
  if char = '"' then "\\\""
  else if char = '\\' then "\\\\"
  else if char = '\x08' then "\\b"
  else if char = '\x0c' then "\\f"
  else if char = '\n' then "\\n"
  else if char = '\r' then "\\r"
  else if char = '\t' then "\\t"
  else if char.toNat < 0x20 then "\\u" ++ Text.paddedHex 4 char.toNat
  else char.toString

/-- Append the JSON string of some bytes. -/
def jsonString (out : String) (text : ByteArray) : String :=
  ((Text.lossy text).foldl (fun out char => out ++ escapeJson char) (out.push '"')).push '"'

/-- The JSON text of a float, whose bits take `digits` hexadecimal digits and are
labelled. -/
def jsonFloat (format : Binary.Format) (label : String) (digits bits : Nat) : String :=
  match format.decode bits with
  | .finite _ _ _ => "\"" ++ label ++ ":" ++ Text.paddedHex digits bits ++ "\""
  | _ => "null"

/-- Append the JSON numbers of bytes, with commas between them. -/
def jsonBytes : List UInt8 → String → String
  | [], out => out
  | [byte], out => out ++ toString byte.toNat
  | byte :: rest, out => jsonBytes rest (out ++ toString byte.toNat ++ ",")

mutual

/-- Append the JSON text of a value. -/
def jsonOnto : Value → String → String
  | .string text, out => jsonString out text
  | .double bits, out => out ++ jsonFloat .double "f64" 16 bits.toNat
  | .float bits, out => out ++ jsonFloat .single "f32" 8 bits.toNat
  | .bytes content, out => (jsonBytes content.data.toList (out.push '[')).push ']'
  | .uint16 number, out => out ++ toString number.toNat
  | .uint32 number, out => out ++ toString number.toNat
  | .uint64 number, out => out ++ toString number.toNat
  | .uint128 number, out => out ++ toString number.toNat
  | .int32 number, out => out ++ toString number.toInt
  | .boolean flag, out => out ++ (if flag then "true" else "false")
  | .array elements, out => (jsonElements elements (out.push '[')).push ']'
  | .map ⟨entries⟩, out => (jsonEntries entries (out ++ "\x7b")) ++ "\x7d"

/-- Append the JSON texts of elements, with commas between them. -/
def jsonElements : List Value → String → String
  | [], out => out
  | element :: rest, out =>
      let out := element.jsonOnto out
      jsonElements rest (if rest.isEmpty then out else out.push ',')

/-- Append the JSON texts of entries, with commas between them. -/
def jsonEntries : List (ByteArray × Value) → String → String
  | [], out => out
  | (key, value) :: rest, out =>
      let out := value.jsonOnto ((jsonString out key).push ':')
      jsonEntries rest (if rest.isEmpty then out else out.push ',')

end

/-- The JSON text of a value. -/
def toJson (value : Value) : String :=
  value.jsonOnto ""

end DataSection.Value
