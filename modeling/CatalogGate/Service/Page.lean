-- The page on which the description of the service can be read.
import CatalogGate.Json.Printer
import CatalogGate.Text.Columns

namespace CatalogGate.Service

/-- What the page is told about the description and how to show it. -/
def pageSettings : Json :=
  .object
    [("spec", .object [("url", .string "/openapi")]), ("theme", .string "purple"), ("layout", .string "modern"),
      ("hideModels", .bool false), ("hideDownloadButton", .bool false)]

/-- Where the browser finds the script that shows the description. -/
def scriptAddress : String := "https:" ++ "//cdn.jsdelivr.net" ++ "/npm/@scalar/api-reference"

def pageLines : List String :=
  ["<!doctype html>",
    "<html>",
    "  <head>",
    "    <title>Scalar API Reference</title>",
    "    <meta charset=\"utf-8\" />",
    "    <meta",
    "      name=\"viewport\"",
    "      content=\"width=device-width, initial-scale=1\" />",
    "  </head>",
    "",
    "  <body>",
    "    <div id=\"app\"></div>",
    "",
    "    <!-- Load the Script -->",
    "    <script src=\"" ++ scriptAddress ++ "\"></script>",
    "",
    "    <!-- Initialize the Scalar API Reference -->",
    "    <script>",
    "      Scalar.createApiReference('#app', " ++ pageSettings.compact ++ ")",
    "    </script>",
    "  </body>",
    "</html>"]

def page : String := Text.ofLines pageLines

end CatalogGate.Service
