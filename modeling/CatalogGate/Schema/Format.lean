-- The named formats of strings that schemas know.
import CatalogGate.Pattern.Search
import CatalogGate.Schema.Edition
import CatalogGate.Schema.Format.Calendar
import CatalogGate.Schema.Format.Mailbox
import CatalogGate.Schema.Format.Pointer
import CatalogGate.Schema.Format.Template
import CatalogGate.Schema.Format.WideHost
import CatalogGate.Schema.Identifier

namespace CatalogGate.Schema

inductive Format where
  | date
  | dateTime
  | duration
  | email
  | hostname
  | idnEmail
  | idnHostname
  | ipv4
  | ipv6
  | iri
  | iriReference
  | jsonPointer
  | regex
  | relativeJsonPointer
  | time
  | uri
  | uriReference
  | uriTemplate
  | uuid
deriving Repr, DecidableEq

namespace Format

def all : List Format :=
  [date, dateTime, duration, email, hostname, idnEmail, idnHostname, ipv4, ipv6, iri, iriReference,
    jsonPointer, regex, relativeJsonPointer, time, uri, uriReference, uriTemplate, uuid]

def name : Format → String
  | date => "date"
  | dateTime => "date-time"
  | duration => "duration"
  | email => "email"
  | hostname => "hostname"
  | idnEmail => "idn-email"
  | idnHostname => "idn-hostname"
  | ipv4 => "ipv4"
  | ipv6 => "ipv6"
  | iri => "iri"
  | iriReference => "iri-reference"
  | jsonPointer => "json-pointer"
  | regex => "regex"
  | relativeJsonPointer => "relative-json-pointer"
  | time => "time"
  | uri => "uri"
  | uriReference => "uri-reference"
  | uriTemplate => "uri-template"
  | uuid => "uuid"

def ofName? (name : String) : Option Format := all.find? (·.name == name)

/-- The first edition in which a format has a meaning. -/
def since : Format → Edition
  | uuid => .of2019
  | duration => .of2019
  | iri => .draft7
  | iriReference => .draft7
  | idnHostname => .draft7
  | relativeJsonPointer => .draft7
  | jsonPointer => .draft6
  | uriReference => .draft6
  | uriTemplate => .draft6
  | _ => .draft4

/-- Groups of hexadecimal digits, of certain lengths, with dashes between. -/
def isUuid (cs : List Char) : Bool :=
  (Address.split '-' cs).map List.length == [8, 4, 4, 4, 12] && cs.all fun c => c == '-' || Text.isHexDigit c

/-- Whether a text is in the format. -/
def admits (f : Format) (s : String) : Bool :=
  let cs := s.toList
  match f with
  | date => Calendar.isDate cs
  | dateTime => Calendar.isDateTime cs
  | duration => Calendar.isDuration cs
  | email => Mailbox.isMailbox Address.isHostname cs
  | hostname => Address.isHostname cs
  | idnEmail => Mailbox.isMailbox WideHost.isHostname cs
  | idnHostname => WideHost.isHostname cs
  | ipv4 => Address.isIpv4 cs
  | ipv6 => Address.isIpv6 cs
  | iri => Identifier.isAbsolute ⟨true⟩ cs
  | iriReference => Identifier.isReference ⟨true⟩ cs
  | jsonPointer => Pointer.isPointer cs
  | regex => (Pattern.Search.read? cs).isSome
  | relativeJsonPointer => Pointer.isRelativePointer cs
  | time => Calendar.isTime cs
  | uri => Identifier.isAbsolute ⟨false⟩ cs
  | uriReference => Identifier.isReference ⟨false⟩ cs
  | uriTemplate => Template.isTemplate cs
  | uuid => isUuid cs

end Format

end CatalogGate.Schema
