import SystemCatalog.Proofs.Acl.RoundTrip
import SystemCatalog.Address.Fields
import SystemCatalog.Journal.Output
import SystemCatalog.Release
import SystemCatalog.Sql.Token
import SystemCatalog.Session.Run
import SystemCatalog.Proofs.Sql.Reading
import SystemCatalog.Proofs.Sql.Fragment
import SystemCatalog.Proofs.Sql.Recovery
import SystemCatalog.Proofs.Redaction
import SystemCatalog.Proofs.Catalog.Strategy
import SystemCatalog.Catalog.Shape
import SystemCatalog.Proofs.Catalog.Sketch
import SystemCatalog.Proofs.Catalog.Conditions
import SystemCatalog.Proofs.Catalog.Kinds
import SystemCatalog.Proofs.Catalog.Injection
import SystemCatalog.Proofs.Session.Action
import SystemCatalog.Proofs.Session.Wire
import SystemCatalog.Session.Reading
import SystemCatalog.Proofs.Session.Memo
import SystemCatalog.Proofs.Session.Readings
import SystemCatalog.Proofs.Session.Peers
import SystemCatalog.Proofs.Acl.Default
import SystemCatalog.Acl.Printed
import SystemCatalog.Proofs.Acl.Printed
import SystemCatalog.Proofs.Session.Opening
import SystemCatalog.Catalog.Reported
import SystemCatalog.Catalog.Selection
import SystemCatalog.Proofs.Catalog.Record
import SystemCatalog.Proofs.Catalog.Reported
import SystemCatalog.Proofs.Catalog.SelectList
import SystemCatalog.Proofs.Catalog.Selection
import SystemCatalog.Session.Count
import SystemCatalog.Proofs.Session.Count
import SystemCatalog.Proofs.Text.Percent
import SystemCatalog.Proofs.Address.Fields
import SystemCatalog.Proofs.Address.Query
import SystemCatalog.Proofs.Address.Reading
import SystemCatalog.Proofs.Address.RoundTrip
import SystemCatalog.Connection.Shares
import SystemCatalog.Proofs.Connection.Options
import SystemCatalog.Proofs.Connection.Shares
import SystemCatalog.Proofs.Connection.Concealed
import SystemCatalog.Proofs.Connection.Revealed
import SystemCatalog.Proofs.Connection.Outcome
import SystemCatalog.Proofs.Address.Literal
import SystemCatalog.Proofs.Address.Bracketed
import SystemCatalog.Proofs.Address.Masked
import SystemCatalog.Proofs.Acl.Division
import SystemCatalog.Proofs.Acl.Regrouped
import SystemCatalog.Proofs.Version.Brackets
import SystemCatalog.Proofs.Version.Reading
import SystemCatalog.Proofs.Version.Handshake
import SystemCatalog.Proofs.Session.Grants
import SystemCatalog.Proofs.Session.Parameters
import SystemCatalog.Proofs.Session.Limits
import SystemCatalog.Proofs.Text.Cut
import SystemCatalog.Proofs.Acl.Escaped
import SystemCatalog.Proofs.Catalog.Keys
import SystemCatalog.Proofs.Acl.Separators
import SystemCatalog.Proofs.Catalog.NativeType
import SystemCatalog.Proofs.Number.Floor
import SystemCatalog.Proofs.Connection.Waiting
