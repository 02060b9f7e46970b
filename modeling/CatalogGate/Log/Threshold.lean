-- From which level on events are logged.
import CatalogGate.Log.Event
import CatalogGate.Text.Blank
import CatalogGate.Text.Number

namespace CatalogGate.Log

/-- The least urgent level that is let through, or nothing at all. -/
abbrev Threshold := Option Level

namespace Threshold

/-- A number from 0 to 5 or a name, in any case. No text at all means errors. -/
def ofText? (text : List Char) : Option Threshold :=
  let byNumber := match Text.count? text with
    | some 0 => some none
    | some 1 => some (some Level.error)
    | some 2 => some (some .warn)
    | some 3 => some (some .info)
    | some 4 => some (some .debug)
    | some 5 => some (some .trace)
    | _ => none
  let byName := match String.ofList (Text.lowerAscii text) with
    | "" => some (some Level.error)
    | "off" => some none
    | "error" => some (some .error)
    | "warn" => some (some .warn)
    | "info" => some (some .info)
    | "debug" => some (some .debug)
    | "trace" => some (some .trace)
    | _ => none
  byNumber.or byName

def admits (t : Threshold) (l : Level) : Bool :=
  match t with
  | none => false
  | some least => least.rank ≤ l.rank

end Threshold

end CatalogGate.Log
