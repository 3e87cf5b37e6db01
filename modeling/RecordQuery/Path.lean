/-!
# `RecordQuery.Path` — dotted paths of field names
-/

namespace RecordQuery

/-- The names on the way to a field, from the outermost record to the field itself. -/
abbrev Path := List String

/-- The names with dots between them. -/
def Path.text (path : Path) : String := String.intercalate "." path

end RecordQuery
