import SystemCatalog.Acl.Array
import SystemCatalog.Acl.Entry
import SystemCatalog.Assoc

/-!
# Granted privileges

The entries of an access list, regrouped by privilege and grantee.  Privileges and grantees stand
in the order in which they first occur, and every grant is kept.
-/

namespace SystemCatalog.Acl

structure Grant where
  grantor : Option String
  grantable : Bool
  deriving DecidableEq, Repr

/-- A decoded access list: its entries, and the tokens that are none. -/
structure Grants where
  entries : List Entry
  malformed : List String

namespace Grants

abbrev Table := List (Privilege × List (String × List Grant))

def Table.insert (t : Table) (privilege : Privilege) (grantee : String) (grant : Grant) : Table :=
  Assoc.update privilege
    (fun grantees =>
      Assoc.update grantee (fun grants => grants.getD [] ++ [grant]) (grantees.getD []))
    t

def Table.insertEntry (t : Table) (e : Entry) : Table :=
  e.privileges.foldl
    (fun t (privilege, grantable) => t.insert privilege e.grantee ⟨e.grantor, grantable⟩) t

def table (g : Grants) : Table := g.entries.foldl Table.insertEntry []

def defaultArray (owner privileges : String) : String :=
  "\x7b" ++ owner ++ "=" ++ privileges ++ "/" ++ owner ++ "\x7d"

def ofTokens : List String → Grants
  | [] => ⟨[], []⟩
  | token :: rest =>
    let g := ofTokens rest
    match Entry.ofToken token with
    | .ok entry => { g with entries := entry :: g.entries }
    | .error _ => { g with malformed := token :: g.malformed }

/-- The access list of an array; a missing array stands for the owner's default privileges. -/
def decode (array : Option String) (owner defaultPrivileges : String) : Grants :=
  ofTokens (tokens (some (array.getD (defaultArray owner defaultPrivileges))))

structure Row where
  catalog : Option String
  schema : Option String
  table : String
  grantor : Option String
  grantee : String
  privilege : Privilege
  grantable : Bool

def Row.fields : List String :=
  ["table_cat", "table_schem", "table_name", "grantor", "grantee", "privilege", "is_grantable"]

def Row.cells (r : Row) : List Datum :=
  [.ofOption r.catalog, .ofOption r.schema, .text r.table, .ofOption r.grantor, .text r.grantee,
   .text r.privilege.name, .text (if r.grantable then "YES" else "NO")]

def sortOn {α : Type} (name : α → String) (items : List α) : List α :=
  items.mergeSort fun a b => name a ≤ name b

def rows (g : Grants) (catalog schema : Option String) (table : String) : List Row :=
  (sortOn (fun (privilege, _) => privilege.name) g.table).flatMap fun (privilege, grantees) =>
    (sortOn (·.1) grantees).flatMap fun (grantee, grants) =>
      grants.map fun grant =>
        { catalog, schema, table, grantor := grant.grantor, grantee, privilege,
          grantable := grant.grantable }

def shownName : Option String → String
  | some s => Text.quoted s
  | none => "None"

def Grant.shown (g : Grant) : String :=
  "Grant(grantor=" ++ shownName g.grantor ++ ", grantable=" ++
    (if g.grantable then "True" else "False") ++ ")"

def shownGrants (grants : List Grant) : String :=
  match grants.map Grant.shown with
  | [one] => "(" ++ one ++ ",)"
  | parts => "(" ++ Datum.commaJoin parts ++ ")"

def shownBindings (bindings : List (String × String)) : String :=
  "\x7b" ++ Datum.commaJoin (bindings.map fun (key, value) => Text.quoted key ++ ": " ++ value) ++
    "\x7d"

def shown (g : Grants) : String :=
  "PrivilegeGrantMap(" ++
    shownBindings (g.table.map fun (privilege, grantees) =>
      (privilege.name, shownBindings (grantees.map fun (grantee, grants) =>
        (grantee, shownGrants grants)))) ++ ")"

end Grants

end SystemCatalog.Acl
