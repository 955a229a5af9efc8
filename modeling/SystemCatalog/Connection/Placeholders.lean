import SystemCatalog.Fault

/-!
# Placeholders

A placeholder in a statement is a percent sign with the letter `s`; a doubled percent sign stands
for itself.  A statement takes as many parameters as it has placeholders.
-/

namespace SystemCatalog.Connection

def placeholders : List Char → Nat
  | [] => 0
  | '%' :: 's' :: rest => placeholders rest + 1
  | '%' :: '%' :: rest => placeholders rest
  | _ :: rest => placeholders rest

def checkParameters (sql : String) (parameters : Datum) : Except Fault Unit :=
  let expected := placeholders sql.toList
  match parameters.size? with
  | none => .error .wrongKind
  | some received =>
    if received = expected then .ok () else .error (.parameterCount expected received)

/-- A text as it stands in a statement with parameters, where percent signs are doubled. -/
def escaped (text : List Char) : List Char :=
  text.flatMap fun c => if c = '%' then ['%', '%'] else [c]

/-- The statement of some texts, with a placeholder between each and the next. -/
def template (texts : List String) : String :=
  String.ofList (List.intercalate ['%', 's'] (texts.map fun text => escaped text.toList))

end SystemCatalog.Connection
