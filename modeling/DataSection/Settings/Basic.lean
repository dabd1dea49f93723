import DataSection.Format
import DataSection.Settings.Document

/-!
# Settings

How values are read can be set in a document: an object with the limit on nesting as
its member, or a list with the limit as its item.  Members of other names have no
influence.
-/

namespace DataSection

/-- How values are read. -/
structure Settings where
  /-- How deep values may nest. -/
  limit : Nat := Format.defaultLimit
  deriving DecidableEq

namespace Settings

/-- The name of the member that holds the limit. -/
def limitName : String := "max_depth"

/-- Whether all codes of a name are code points of characters. -/
def isName (codes : List Nat) : Bool :=
  codes.all fun code => !(Document.isHighSurrogate code || Document.isLowSurrogate code)

/-- The settings with a limit that a document gives, which a machine word must
hold. -/
def ofLimit? : Document → Option Settings
  | .number (some limit) => if limit < Format.offsetRange then some { limit } else none
  | _ => none

/-- The settings that a document gives.  What it leaves out stays as it is by
default, and what it gives twice is refused. -/
def ofDocument? : Document → Option Settings
  | .object members =>
      if members.all fun (name, _) => isName name then
        match members.filter fun (name, _) => name == limitName.toList.map Char.toNat with
        | [] => some {}
        | [(_, limit)] => ofLimit? limit
        | _ => none
      else
        none
  | .array [] => some {}
  | .array [limit] => ofLimit? limit
  | _ => none

/-- The settings that a text gives. -/
def read? (text : String) : Option Settings :=
  (Document.read? text).bind ofDocument?

/-- The text of settings. -/
def write (settings : Settings) : String :=
  "\x7b\"" ++ limitName ++ "\":" ++ toString settings.limit ++ "\x7d"

end Settings

end DataSection
