-- Text in columns and in lines.
namespace CatalogGate.Text

/-- A text with blanks behind it up to a number of characters. A longer one stays as it is. -/
def padded (width : Nat) (s : String) : String :=
  s ++ String.ofList (List.replicate (width - s.length) ' ')

/-- Lines, each with a line feed at its end. -/
def ofLines (lines : List String) : String := String.join (lines.map (· ++ "\n"))

end CatalogGate.Text
