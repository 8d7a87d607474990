/-
Diagnostic text of a record.

Values that end up in logs describe themselves as a name with named fields between
braces.  A description that leaves fields out says so with two dots at the end.
-/
namespace SessionAuth.Text.Record

/-- The fields as `name: value`, separated by commas. -/
def fields (items : List (String × String)) : String :=
  String.intercalate ", " (items.map fun item => item.1 ++ ": " ++ item.2)

/-- A record shown with all its fields. -/
def complete (name : String) (items : List (String × String)) : String :=
  name ++ " \x7b " ++ fields items ++ " \x7d"

/-- A record of which some fields are not shown. -/
def abridged (name : String) (items : List (String × String)) : String :=
  name ++ " \x7b " ++ fields items ++ ", .. \x7d"

end SessionAuth.Text.Record
