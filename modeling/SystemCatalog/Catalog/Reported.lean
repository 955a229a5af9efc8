import SystemCatalog.Catalog.Answer

/-!
# Reported tables

What a row of the catalog of tables is reported as, where the catalog tells types apart or only
schemas.
-/

namespace SystemCatalog.Catalog

def reportedTable (typed : Bool) (schemaColumn : String) (r : Record) : Except Fault TableRow :=
  if typed then extendedTable schemaColumn r else legacyTable schemaColumn r

def reportedKind (typed : Bool) (schemaColumn : String) (r : Record) : Except Fault Datum :=
  if typed then extendedKind (r.getD "table_type") (r.getD schemaColumn)
  else .text <$> legacyKind (r.getD schemaColumn)

/-- Whether a value may stand in the catalog as the type of a table: words that are reported as
kinds but for the word for views do not. -/
def CatalogType (d : Datum) : Prop :=
  d = .null ∨ ∃ s, d = .text s ∧ s ∉ tableTypes.erase "VIEW"

end SystemCatalog.Catalog
