/-!
# Documents

Settings are written as JSON.  A document keeps what settings need: of a number only
whether it is a natural one, and of a string its code points.  These may be
surrogates without a partner, because an escape can name one.

Reading is strict: no trailing commas, no comments, no leading zeros, and nothing but
blanks behind the document.
-/

namespace DataSection.Settings

/-- A JSON document. -/
inductive Document where
  | null
  | boolean (flag : Bool)
  /-- A number, with its value if it is written in digits alone. -/
  | number (natural? : Option Nat)
  /-- A string of code points, surrogates among them. -/
  | string (codes : List Nat)
  | array (items : List Document)
  | object (members : List (List Nat × Document))

namespace Document

/-- Whether a character may stand between the parts of a document. -/
def isBlank (char : Char) : Bool :=
  char == ' ' || char == '\n' || char == '\t' || char == '\r'

/-- A text without the blanks at its beginning. -/
def skipBlanks (text : List Char) : List Char :=
  text.dropWhile isBlank

/-- The value of a hexadecimal digit. -/
def hexDigit? (char : Char) : Option Nat :=
  if '0' ≤ char ∧ char ≤ '9' then some (char.toNat - '0'.toNat)
  else if 'a' ≤ char ∧ char ≤ 'f' then some (char.toNat - 'a'.toNat + 10)
  else if 'A' ≤ char ∧ char ≤ 'F' then some (char.toNat - 'A'.toNat + 10)
  else none

/-- The number that four hexadecimal digits write. -/
def hexCode? (first second third fourth : Char) : Option Nat := do
  let first ← hexDigit? first
  let second ← hexDigit? second
  let third ← hexDigit? third
  let fourth ← hexDigit? fourth
  return ((first * 16 + second) * 16 + third) * 16 + fourth

/-- The code point that a letter behind a backslash names. -/
def escaped? : Char → Option Nat
  | '"' => some 0x22
  | '\\' => some 0x5C
  | '/' => some 0x2F
  | 'b' => some 0x08
  | 'f' => some 0x0C
  | 'n' => some 0x0A
  | 'r' => some 0x0D
  | 't' => some 0x09
  | _ => none

/-- The codes up to the closing quote, and the text behind it.  `codes` are those
read so far, the last one first. -/
def stringCodes? : List Char → (codes : List Nat) → Option (List Nat × List Char)
  | [], _ => none
  | '"' :: rest, codes => some (codes.reverse, rest)
  | '\\' :: 'u' :: first :: second :: third :: fourth :: rest, codes =>
      match hexCode? first second third fourth with
      | none => none
      | some code => stringCodes? rest (code :: codes)
  | '\\' :: letter :: rest, codes =>
      match escaped? letter with
      | none => none
      | some code => stringCodes? rest (code :: codes)
  | char :: rest, codes =>
      if char.toNat < 0x20 then none else stringCodes? rest (char.toNat :: codes)

/-- Whether a code is the first half of a pair of surrogates. -/
def isHighSurrogate (code : Nat) : Bool :=
  0xD800 ≤ code && code < 0xDC00

/-- Whether a code is the second half of a pair of surrogates. -/
def isLowSurrogate (code : Nat) : Bool :=
  0xDC00 ≤ code && code < 0xE000

/-- Codes in which each pair of surrogates is the code point that it stands for. -/
def joinSurrogates : List Nat → List Nat
  | high :: low :: rest =>
      if isHighSurrogate high && isLowSurrogate low then
        (0x10000 + (high - 0xD800) * 0x400 + (low - 0xDC00)) :: joinSurrogates rest
      else
        high :: joinSurrogates (low :: rest)
  | codes => codes

/-- The string whose opening quote was read, and the text behind it. -/
def string? (text : List Char) : Option (List Nat × List Char) :=
  (stringCodes? text []).map fun (codes, rest) => (joinSurrogates codes, rest)

/-- Whether digits are the whole part of a number, and the fraction or exponent
behind it are complete.  Gives the text behind the number, and whether either of
them is there. -/
def numberTail? (text : List Char) : Option (Bool × List Char) := do
  let (fraction, text) ← match text with
    | '.' :: rest =>
        let (digits, rest) := rest.span Char.isDigit
        if digits.isEmpty then none else some (true, rest)
    | rest => some (false, rest)
  match text with
  | char :: rest =>
      if char = 'e' ∨ char = 'E' then
        let unsigned := match rest with
          | '+' :: rest => rest
          | '-' :: rest => rest
          | rest => rest
        let (digits, rest) := unsigned.span Char.isDigit
        if digits.isEmpty then none else some (true, rest)
      else
        some (fraction, char :: rest)
  | [] => some (fraction, [])

/-- The value of digits in a row. -/
def digitsValue (digits : List Char) : Nat :=
  digits.foldl (fun total digit => total * 10 + (digit.toNat - '0'.toNat)) 0

/-- The number at the beginning of a text, and the text behind it. -/
def number? (text : List Char) : Option (Document × List Char) := do
  let (negative, unsigned) := match text with
    | '-' :: rest => (true, rest)
    | rest => (false, rest)
  let (whole, rest) := unsigned.span Char.isDigit
  if whole.isEmpty || (1 < whole.length && whole.head? == some '0') then none
  else
    let (scaled, rest) ← numberTail? rest
    return (.number (if negative || scaled then none else some (digitsValue whole)), rest)

mutual

/-- The document at the beginning of a text, and the text behind it.  Every two
steps take at least one character. -/
def value? : (steps : Nat) → List Char → Option (Document × List Char)
  | 0, _ => none
  | steps + 1, text =>
      match skipBlanks text with
      | '"' :: rest => (string? rest).map fun (codes, rest) => (.string codes, rest)
      | '[' :: rest =>
          match skipBlanks rest with
          | ']' :: rest => some (.array [], rest)
          | rest => items? steps rest []
      | '\x7b' :: rest =>
          match skipBlanks rest with
          | '\x7d' :: rest => some (.object [], rest)
          | rest => members? steps rest []
      | 'n' :: 'u' :: 'l' :: 'l' :: rest => some (.null, rest)
      | 't' :: 'r' :: 'u' :: 'e' :: rest => some (.boolean true, rest)
      | 'f' :: 'a' :: 'l' :: 's' :: 'e' :: rest => some (.boolean false, rest)
      | rest => number? rest

/-- The array whose remaining items stand at the beginning of a text.  `items` are
those read so far, the last one first. -/
def items? : (steps : Nat) → List Char → (items : List Document) →
    Option (Document × List Char)
  | 0, _, _ => none
  | steps + 1, text, items =>
      match value? steps text with
      | none => none
      | some (item, rest) =>
          match skipBlanks rest with
          | ',' :: rest => items? steps rest (item :: items)
          | ']' :: rest => some (.array (item :: items).reverse, rest)
          | _ => none

/-- The object whose remaining members stand at the beginning of a text.  `members`
are those read so far, the last one first. -/
def members? : (steps : Nat) → List Char → (members : List (List Nat × Document)) →
    Option (Document × List Char)
  | 0, _, _ => none
  | steps + 1, text, members =>
      match skipBlanks text with
      | '"' :: rest =>
          match string? rest with
          | none => none
          | some (name, rest) =>
              match skipBlanks rest with
              | ':' :: rest =>
                  match value? steps rest with
                  | none => none
                  | some (value, rest) =>
                      match skipBlanks rest with
                      | ',' :: rest => members? steps rest ((name, value) :: members)
                      | '\x7d' :: rest =>
                          some (.object ((name, value) :: members).reverse, rest)
                      | _ => none
              | _ => none
      | _ => none

end

/-- The document that a text is. -/
def read? (text : String) : Option Document :=
  let chars := text.toList
  match value? (2 * chars.length + 2) chars with
  | some (document, rest) => if (skipBlanks rest).isEmpty then some document else none
  | none => none

end Document

end DataSection.Settings
