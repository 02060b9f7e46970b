-- Which files count as YAML: their name or their media type says so at its end.
import CatalogGate.Text.Blank

namespace CatalogGate.Upload

/-- Whether a text ends in `yaml` or `yml`. Case and blanks around it do not count. -/
def namesYaml (text : List Char) : Bool :=
  let text := Text.lowerAscii (Text.trim text)
  "yaml".toList.isSuffixOf text || "yml".toList.isSuffixOf text

/-- A content type without its parameters. -/
def mediaType (contentType : List Char) : List Char := contentType.takeWhile (· ≠ ';')

def isYaml (filename : String) (contentType : Option String) : Bool :=
  namesYaml filename.toList
    || (match contentType with
      | some t => namesYaml (mediaType t.toList)
      | none => false)

end CatalogGate.Upload
