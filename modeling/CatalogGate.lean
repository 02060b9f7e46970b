import CatalogGate.Main
import CatalogGate.Service.Router
import CatalogGate.Proofs.Document.Location
import CatalogGate.Proofs.Service.Accounting
import CatalogGate.Proofs.Command.Exits
import CatalogGate.Proofs.Document.Nesting
import CatalogGate.Proofs.Json.Pointers
import CatalogGate.Proofs.Yaml.Conversion
import CatalogGate.Proofs.Query.Printing
import CatalogGate.Proofs.Query.Selection
import CatalogGate.Proofs.Ruleset.Independence
import CatalogGate.Proofs.Ruleset.Loading
import CatalogGate.Proofs.Rule.Casing
import CatalogGate.Proofs.Rule.Fields
import CatalogGate.Proofs.Rule.Template
import CatalogGate.Proofs.Ruleset.Faithfulness
import CatalogGate.Proofs.Upload.Acceptance
import CatalogGate.Proofs.Document.Addresses
import CatalogGate.Proofs.OpenApi.Structure
import CatalogGate.Proofs.OpenApi.SchemaText
