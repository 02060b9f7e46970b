-- The editions of the schema language. Each has a schema of schemas, whose identifier names it.
namespace CatalogGate.Schema

inductive Edition where
  | draft4
  | draft6
  | draft7
  | of2019
  | of2020
deriving Repr, DecidableEq

namespace Edition

def all : List Edition := [draft4, draft6, draft7, of2019, of2020]

/-- The year decides where no edition is older than another by name. -/
def year : Edition → Nat
  | draft4 => 2013
  | draft6 => 2017
  | draft7 => 2018
  | of2019 => 2019
  | of2020 => 2020

/-- Whether an edition is as new as another one. -/
def isSince (e first : Edition) : Bool := first.year ≤ e.year

/-- What the identifiers of all documents of the edition begin with. -/
def place : Edition → String
  | draft4 => "http://json-schema.org/draft-04/"
  | draft6 => "http://json-schema.org/draft-06/"
  | draft7 => "http://json-schema.org/draft-07/"
  | of2019 => "https://json-schema.org/draft/2019-09/"
  | of2020 => "https://json-schema.org/draft/2020-12/"

/-- The identifier of the schema of schemas. -/
def identifier (e : Edition) : String := e.place ++ "schema"

def ofIdentifier? (name : String) : Option Edition := all.find? (·.identifier == name)

end Edition

end CatalogGate.Schema
