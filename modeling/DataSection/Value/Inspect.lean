import DataSection.Decimal.Shortest
import DataSection.Text.Numeral
import DataSection.Text.Printable
import DataSection.Text.Utf8
import DataSection.Value.Basic

/-!
# Values for the reader's eye

The text of a value names the kind of every node.  Strings are read with replacement
characters and quoted, and floats are written with the fewest digits that read back.
-/

namespace DataSection.Value

/-- Floats from a ten-thousandth up to ten quadrillions are written without an
exponent. -/
def inspectStyle : Decimal.Style :=
  { lowestPositional := -4, firstAbove := 16 }

/-- A character within a quoted string. -/
def escapeInspected (char : Char) : String :=
  if char = '"' then "\\\""
  else if char = '\\' then "\\\\"
  else if char = '\n' then "\\n"
  else if char = '\r' then "\\r"
  else if char = '\t' then "\\t"
  else if char = '\x00' then "\\0"
  else if Text.isPrintable char then char.toString
  else "\\u\x7b" ++ Text.hex char.toNat ++ "\x7d"

/-- Append a quoted string of some bytes. -/
def inspectString (out : String) (text : ByteArray) : String :=
  ((Text.lossy text).foldl (fun out char => out ++ escapeInspected char) (out.push '"')).push '"'

/-- The text of the bits of a float. -/
def inspectFloat (format : Binary.Format) (bits : Nat) : String :=
  Decimal.text format inspectStyle (format.decode bits)

/-- Append the numbers of bytes, with commas between them. -/
def inspectBytes : List UInt8 → String → String
  | [], out => out
  | byte :: rest, out =>
      inspectBytes rest (out ++ toString byte.toNat ++ (if rest.isEmpty then "" else ", "))

mutual

/-- Append the text of a value. -/
def inspectOnto : Value → String → String
  | .string text, out => inspectString (out ++ "String(") text ++ ")"
  | .double bits, out => out ++ "Double(" ++ inspectFloat .double bits.toNat ++ ")"
  | .float bits, out => out ++ "Float(" ++ inspectFloat .single bits.toNat ++ ")"
  | .bytes content, out => inspectBytes content.data.toList (out ++ "Bytes([") ++ "])"
  | .uint16 number, out => out ++ "Uint16(" ++ toString number.toNat ++ ")"
  | .uint32 number, out => out ++ "Uint32(" ++ toString number.toNat ++ ")"
  | .uint64 number, out => out ++ "Uint64(" ++ toString number.toNat ++ ")"
  | .uint128 number, out => out ++ "Uint128(" ++ toString number.toNat ++ ")"
  | .int32 number, out => out ++ "Int32(" ++ toString number.toInt ++ ")"
  | .boolean flag, out => out ++ (if flag then "Bool(true)" else "Bool(false)")
  | .array elements, out => inspectElements elements (out ++ "Array([") ++ "])"
  | .map ⟨entries⟩, out => inspectEntries entries (out ++ "Map(\x7b") ++ "\x7d)"

/-- Append the texts of elements, with commas between them. -/
def inspectElements : List Value → String → String
  | [], out => out
  | element :: rest, out =>
      let out := element.inspectOnto out
      inspectElements rest (if rest.isEmpty then out else out ++ ", ")

/-- Append the texts of entries, with commas between them. -/
def inspectEntries : List (ByteArray × Value) → String → String
  | [], out => out
  | (key, value) :: rest, out =>
      let out := value.inspectOnto (inspectString out key ++ ": ")
      inspectEntries rest (if rest.isEmpty then out else out ++ ", ")

end

/-- The text of a value. -/
def inspect (value : Value) : String :=
  value.inspectOnto ""

end DataSection.Value

namespace DataSection.Dictionary

/-- The text of a dictionary of values. -/
def inspect (dictionary : Dictionary Value) : String :=
  Value.inspectEntries dictionary.entries "\x7b" ++ "\x7d"

end DataSection.Dictionary
