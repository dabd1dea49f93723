import DataSection.Path
import DataSection.Section.Skip

/-!
# Looking up a path

`lookup` reads only the value that a path leads to.  Items beside the way are
skipped, and of a key that stands twice the last one counts, as it does in the
dictionary that reading the whole map would give.

A step costs one level even where there is nothing to step into, and so does each
pointer on the way.

Levels are counted down from the limit.  Where a depth is counted up in a word and
compared with the limit, this is the same for every limit below the largest word.  No
word is larger than the largest one: with that one as limit the count of depths starts
again at zero where levels run out, and a circle of pointers is followed for ever.  A
function always ends, and says `.tooDeep` even then.  `Proofs.Traversal.Limit` proves
both, and what holds of limits there is about depths that are words.
-/

namespace DataSection

namespace Section

/-- The header of the first item that is no pointer, on the way from an offset
along pointers, and the levels left there.

The loop that counts its depth in a word, `resolving`, ends with this for every limit below
the largest word, and for the largest one unless levels run out. -/
def resolve (data : Section) : (levels offset : Nat) → Except ReadError (Header × Nat)
  | 0, offset => do
      let header ← data.header offset
      if header.kind = .pointer then throw (.tooDeep data.limit) else return (header, 0)
  | levels + 1, offset => do
      let header ← data.header offset
      if header.kind = .pointer then do
        let (target, _) ← data.pointer header
        data.resolve levels target
      else
        return (header, levels + 1)

/-- The offset of the value under the last of `count` keys that equals `wanted`.
`found` is the last one so far. -/
def findKey (data : Section) (levels : Nat) (wanted : ByteArray) :
    (count offset : Nat) → (found : Option Nat) → Except ReadError (Option Nat)
  | 0, _, found => .ok found
  | count + 1, offset, found =>
      match key (data.decodeAt levels) offset with
      | .error error => .error error
      | .ok (held, start) =>
          match data.skipAt levels start with
          | .error error => .error error
          | .ok next =>
              data.findKey levels wanted count next (if held = wanted then some start else found)

/-- The offset to which a step leads from the item with a header, if it leads
anywhere, with so many levels left below that item. -/
def child (data : Section) (levels : Nat) (header : Header) :
    Step → Except ReadError (Option Nat)
  | .key text =>
      if header.kind = .map then
        data.findKey levels text.toUTF8 header.size header.payload none
      else
        return none
  | .index position =>
      if header.kind = .array ∧ position < header.size then
        (advance (data.skipAt levels) position header.payload).map some
      else
        return none

/-- The value at the end of a path from an offset, with so many levels left. -/
def lookupAt (data : Section) :
    (path : Path) → (levels offset : Nat) → Except ReadError (Option Value)
  | [], levels, offset => (data.decodeAt levels offset).map fun result => some result.1
  | step :: path, levels, offset => do
      let (header, levels) ← data.resolve levels offset
      match levels with
      | 0 => throw (.tooDeep data.limit)
      | levels + 1 =>
          match ← data.child levels header step with
          | none => return none
          | some next => data.lookupAt path levels next

/-- The value at the end of a path from an offset, if there is one.  For a limit that is the
largest word this is `lookingUp` unless levels run out, as for `resolve`. -/
def lookup (data : Section) (offset : Nat) (path : Path) :
    Except ReadError (Option Value) :=
  data.lookupAt path data.limit offset

end Section

end DataSection
