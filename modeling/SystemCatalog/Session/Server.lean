import SystemCatalog.Catalog.Record
import SystemCatalog.Datum.Whole
import SystemCatalog.Sql.Literal
import SystemCatalog.Version.Reader

/-!
# Servers

What a server answers at the moment: rows for the statements that the session reads constants with,
one result for every other statement, and what it says of itself in the handshake.
-/

namespace SystemCatalog.Session

open Catalog (RawRow)

structure Failure where
  message : String
  driverOwn : Bool := true

/-- The version that a server gives in the handshake: by itself or as a number. -/
inductive Handshake where
  | version (v : Version.Given)
  | number (d : Datum)

def Handshake.read : Handshake → Except Fault Version
  | version v => v.resolve
  | number d => do return Version.ofHandshake (← d.whole)

structure Server where
  probe : RawRow := .cells [.text "5.4.0"]
  nameRow : RawRow := .cells [.int 64]
  indexRow : RawRow := .cells [.text "32"]
  columns : Option (List Datum) := none
  rows : List RawRow := []
  failure : Option Failure := none
  handshake : Handshake
  /-- What the server says of its reading of backslashes. -/
  standardStrings : Datum := .text "on"
  silent : Bool := false
  refusing : Bool := false
  closeFails : Bool := false

namespace Server

def constantRow (s : Server) : Constant → RawRow
  | .nameWidth => s.nameRow
  | .indexKeys => s.indexRow

/-- The rows of the result of a statement; a constant's row does not come with them. -/
def resultRows (s : Server) (sql : String) : List RawRow :=
  if readsConstant sql then [] else s.rows

/-- The rule for literals that a new connection finds: the standard one, unless the server says
otherwise. -/
def quoting (s : Server) : Sql.Quoting :=
  if s.silent || s.standardStrings.isNull then .standard
  else .ofConforming (s.standardStrings.same (.text "on"))

end Server

end SystemCatalog.Session
