import RowExpr.Dialect.Basic

/-!
# Profiles

The dialects of the known products.
-/

namespace RowExpr.Dialect

/-- `PI()`, for engines where it is a function like any other. -/
def piFunction : Operator :=
  { id := "PI_FUNCTION", name := "PI", kind := .otherFunction, form := .function,
    returns := .fixedNotNull .double, operands := .niladic, arity := .zero }

def withPiFunction (d : Dialect) : Dialect := d.withOverride Catalog.pi.id piFunction

def ansi : Dialect := { product := .ansi, features := Feature.all }

/-- The first version of Hive that can say where nulls go. -/
def hiveNativeNulls : Version := ⟨2, 1⟩

/-- A version that is not known counts as an old one. -/
def hive (version : Option Version) : Dialect :=
  let native := version.any fun v => !v.before hiveNativeNulls
  withPiFunction
    { product := .hive
      version
      nullCollation := .low
      features := if native then [.nativeNullsOrdering, .booleanSortKeys] else [.booleanSortKeys]
      quote := some '\x60'
      trimStyle := .functionCall
      limitStyle := .limitComma }

def spark : Dialect :=
  withPiFunction
    { product := .spark
      nullCollation := .low
      features := [.nativeNullsOrdering, .booleanSortKeys, .aliasWithAs]
      quote := some '\x60'
      trimStyle := .functionCall }

def mySql (version : Option Version) : Dialect :=
  withPiFunction
    { product := .mySql
      version
      nullCollation := .low
      features := [.aliasWithAs]
      quote := some '\x60'
      limitStyle := .limitComma }

def postgreSql : Dialect :=
  withPiFunction
    { product := .postgreSql
      features := [.nativeNullsOrdering, .substringFromFor, .booleanSortKeys, .aliasWithAs] }

def bigQuery : Dialect :=
  { product := .bigQuery
    nullCollation := .low
    features := [.nativeNullsOrdering, .booleanSortKeys, .aliasWithAs]
    quote := some '\x60'
    trimStyle := .sourceThenChars }

/-- The profile of a product. The version counts where the profile depends on it. -/
def ofProduct (product : Product) (version : Option Version) : Dialect :=
  match product with
  | .ansi => ansi
  | .hive => hive version
  | .spark => spark
  | .mySql => mySql version
  | .postgreSql => postgreSql
  | .bigQuery => bigQuery

def standard (product : Product) : Dialect := ofProduct product none

theorem ofProduct_product (p : Product) (v : Option Version) : (ofProduct p v).product = p := by
  cases p <;> rfl

end RowExpr.Dialect
