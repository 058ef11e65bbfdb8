import RowExpr.Codec.Operator
import RowExpr.Dialect.Profile

/-!
# The choices of a dialect in JSON
-/

namespace RowExpr.Codec

def featureNames : List (String × Feature) :=
  [("native_nulls_ordering", .nativeNullsOrdering), ("native_offset_fetch", .nativeOffsetFetch),
   ("substring_from_for", .substringFromFor), ("boolean_sort_keys", .booleanSortKeys),
   ("alias_with_as", .aliasWithAs)]

def trimStyleNames : List (String × TrimStyle) :=
  [("standard", .standard), ("function_call", .functionCall),
   ("source_then_chars", .sourceThenChars)]

def limitStyleNames : List (String × LimitStyle) :=
  [("limit_offset", .limitOffset), ("limit_comma", .limitComma)]

def nullCollationNames : List (String × NullCollation) :=
  [("first", .first), ("last", .last), ("low", .low), ("high", .high)]

def encodeFeature (f : Feature) : Json := .str (nameOf featureNames f)

def encodeTrimStyle (s : TrimStyle) : Json := .str (nameOf trimStyleNames s)

def encodeLimitStyle (s : LimitStyle) : Json := .str (nameOf limitStyleNames s)

def encodeNullCollation (c : NullCollation) : Json := .str (nameOf nullCollationNames c)

end RowExpr.Codec
