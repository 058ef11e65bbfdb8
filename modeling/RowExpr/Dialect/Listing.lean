import RowExpr.Dialect.Profile

/-!
# Listing the profiles

One line for each product, with the names that its choices have in the list.
-/

namespace RowExpr

def NullCollation.label : NullCollation → String
  | first => "First"
  | last => "Last"
  | low => "Low"
  | high => "High"

def TrimStyle.label : TrimStyle → String
  | standard => "Standard"
  | functionCall => "FunctionCall"
  | sourceThenChars => "SourceThenChars"

def LimitStyle.label : LimitStyle → String
  | limitOffset => "LimitOffset"
  | limitComma => "LimitComma"

def Feature.label : Feature → String
  | nativeNullsOrdering => "NativeNullsOrdering"
  | nativeOffsetFetch => "NativeOffsetFetch"
  | substringFromFor => "SubstringFromFor"
  | booleanSortKeys => "BooleanSortKeys"
  | aliasWithAs => "AliasWithAs"

/-- A text with blanks after it, at least `width` characters in all. -/
def padded (width : Nat) (s : String) : String :=
  s ++ String.ofList (List.replicate (width - s.length) ' ')

def Dialect.listing (d : Dialect) : String :=
  padded 12 d.product.name ++ " nulls=" ++ d.nullCollation.label ++ " trim=" ++ d.trimStyle.label
    ++ " limit=" ++ d.limitStyle.label
    ++ " features=[" ++ ", ".intercalate (d.featureList.map Feature.label) ++ "]"

def Dialect.listAll : String :=
  "\n".intercalate (Product.all.map fun p => (Dialect.standard p).listing)

end RowExpr
