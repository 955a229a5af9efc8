import SystemCatalog.Datum
import SystemCatalog.Text.Blank
import SystemCatalog.Text.LetterCase

/-!
# Column types

The engine's names of types and the standard codes for them.  Arrays of every type have one code,
and names that are not known have the code for other types.
-/

namespace SystemCatalog.Catalog

inductive StandardType where
  | tinyint
  | smallint
  | integer
  | bigint
  | real
  | double
  | varchar
  | boolean
  | timestamp
  | struct
  | array
  | other
  deriving DecidableEq, Repr, Inhabited

namespace StandardType

def all : List StandardType :=
  [tinyint, smallint, integer, bigint, real, double, varchar, boolean, timestamp, struct, array,
   other]

def name : StandardType → String
  | tinyint => "TINYINT"
  | smallint => "SMALLINT"
  | integer => "INTEGER"
  | bigint => "BIGINT"
  | real => "REAL"
  | double => "DOUBLE"
  | varchar => "VARCHAR"
  | boolean => "BOOLEAN"
  | timestamp => "TIMESTAMP"
  | struct => "STRUCT"
  | array => "ARRAY"
  | other => "OTHER"

def code : StandardType → Int
  | tinyint => -6
  | smallint => 5
  | integer => 4
  | bigint => -5
  | real => 7
  | double => 8
  | varchar => 12
  | boolean => 16
  | timestamp => 93
  | struct => 2002
  | array => 2003
  | other => 1111

end StandardType

def nativeTypes : List (String × StandardType) :=
  [("byte", .tinyint), ("\"char\"", .tinyint), ("short", .smallint), ("smallint", .smallint),
   ("integer", .integer), ("int", .integer), ("long", .bigint), ("bigint", .bigint),
   ("float", .real), ("real", .real), ("double", .double), ("double precision", .double),
   ("string", .varchar), ("text", .varchar), ("varchar", .varchar),
   ("character varying", .varchar), ("ip", .varchar), ("boolean", .boolean),
   ("timestamp", .timestamp), ("timestamp with time zone", .timestamp),
   ("timestamp without time zone", .timestamp), ("object", .struct)]

def arraySuffix : List Char := "_array".toList

/-- Whether the name is that of an array: the suffix after at least one character. -/
def isArrayName (name : List Char) : Bool :=
  arraySuffix.isSuffixOf name && arraySuffix.length < name.length

def normalizeType (name : List Char) : List Char := Text.lower (Text.trim name)

def standardType (name : List Char) : StandardType :=
  match nativeTypes.find? (·.1.toList == name) with
  | some (_, type) => type
  | none => if isArrayName name then .array else .other

/-- The standard type for the engine's name of a type; padding and letter case do not count, and a
value that is no text names no known type. -/
def mapNativeType : Datum → StandardType
  | .text s => standardType (normalizeType s.toList)
  | _ => .other

end SystemCatalog.Catalog
