-- What the program is called, and which version of it this is.
namespace CatalogGate.Program

def name : String := "oasgate"

def version : String := "0.1.0"

end CatalogGate.Program
