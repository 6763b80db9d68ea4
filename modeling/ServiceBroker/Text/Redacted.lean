import ServiceBroker.Text.Quoted

/-!
# Records in log text

A record is shown with its name and fields. Secret fields are left out, which two dots show.

## Main definitions

* `Text.record`: a record with every field
* `Text.partialRecord`: a record with some of its fields
-/

namespace ServiceBroker.Text

/-- The fields of a record, with commas between them. -/
def fieldList (fields : List (String × String)) : String :=
  String.intercalate ", " (fields.map fun f => f.1 ++ ": " ++ f.2)

/-- A record with every field. -/
def record (name : String) (fields : List (String × String)) : String :=
  name ++ " \x7b " ++ fieldList fields ++ " \x7d"

/-- A record with some of its fields. -/
def partialRecord (name : String) (fields : List (String × String)) : String :=
  name ++ " \x7b " ++ fieldList fields ++ ", .. \x7d"

end ServiceBroker.Text
