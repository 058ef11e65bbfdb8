import RowExpr.Dialect.Version
import RowExpr.Node
import RowExpr.Operator.Catalog
import RowExpr.Text.Case

/-!
# Dialects

A dialect is data: what an engine can do, where it puts nulls, which operators it replaces,
and a few choices of spelling.
-/

namespace RowExpr

inductive Product
  | ansi
  | hive
  | spark
  | mySql
  | postgreSql
  | bigQuery
  deriving DecidableEq, Repr, Inhabited

def Product.name : Product → String
  | ansi => "ansi"
  | hive => "hive"
  | spark => "spark"
  | mySql => "mysql"
  | postgreSql => "postgresql"
  | bigQuery => "bigquery"

def Product.all : List Product := [ansi, hive, spark, mySql, postgreSql, bigQuery]

/-- Other names by which a product is known. -/
def Product.aliases : List (String × Product) := [("calcite", ansi), ("postgres", postgreSql)]

def Product.parse (s : String) : Except TargetError Product :=
  let name := Text.lower s
  match (all.map fun p => (p.name, p)).lookup name <|> aliases.lookup name with
  | some p => .ok p
  | none => .error (.unknownProduct name)

/-! ## Where nulls go -/

/-- Where an engine puts nulls when a sort key does not say. -/
inductive NullCollation
  | first
  | last
  /-- Below every value. -/
  | low
  /-- Above every value. -/
  | high
  deriving DecidableEq, Repr, Inhabited

/-- Whether nulls come first in a direction. -/
def NullCollation.nullsFirst (c : NullCollation) (descending : Bool) : Bool :=
  match c with
  | first => true
  | last => false
  | low => !descending
  | high => descending

/-- Whether the engine puts nulls at the wanted end by itself. -/
def NullCollation.isDefaultOrder (c : NullCollation) (nullsFirst descending : Bool) : Bool :=
  nullsFirst == c.nullsFirst descending

/-! ## Choices -/

inductive Feature
  /-- Sort keys may say `NULLS FIRST` and `NULLS LAST`. -/
  | nativeNullsOrdering
  /-- `OFFSET … ROWS FETCH NEXT … ROWS ONLY`. -/
  | nativeOffsetFetch
  /-- `SUBSTRING(… FROM … FOR …)`. -/
  | substringFromFor
  /-- A truth value may be a sort key. -/
  | booleanSortKeys
  /-- `AS` before an alias. -/
  | aliasWithAs
  deriving DecidableEq, Repr, Inhabited

def Feature.all : List Feature :=
  [nativeNullsOrdering, nativeOffsetFetch, substringFromFor, booleanSortKeys, aliasWithAs]

/-- How an engine spells a trim. -/
inductive TrimStyle
  /-- `TRIM(BOTH chars FROM source)`. -/
  | standard
  /-- `TRIM(source)` for blanks, a regular expression for anything else. -/
  | functionCall
  /-- `TRIM(source, chars)`. -/
  | sourceThenChars
  deriving DecidableEq, Repr, Inhabited

/-- How an engine without `OFFSET … FETCH` limits rows. -/
inductive LimitStyle
  /-- `LIMIT count OFFSET offset`. -/
  | limitOffset
  /-- `LIMIT offset, count`. -/
  | limitComma
  deriving DecidableEq, Repr, Inhabited

structure Dialect where
  product : Product
  version : Option Version := none
  nullCollation : NullCollation := .high
  features : List Feature := []
  /-- The operators that replace others, by the identity of the replaced one. -/
  overrides : List (String × Operator) := []
  /-- The character around a name that is not plain; without one, names stand as they are. -/
  quote : Option Char := some '"'
  trimStyle : TrimStyle := .standard
  limitStyle : LimitStyle := .limitOffset
  deriving Repr, Inhabited

namespace Dialect

def has (d : Dialect) (f : Feature) : Bool := d.features.contains f

def withFeature (d : Dialect) (f : Feature) : Dialect :=
  { d with features := f :: d.features }

def withFeatures (d : Dialect) (fs : List Feature) : Dialect :=
  fs.foldl withFeature d

/-- What the dialect can do, each feature once and in a fixed order. -/
def featureList (d : Dialect) : List Feature := Feature.all.filter d.has

/-- The operator that stands in for the one of this identity. -/
def overrideOf? (d : Dialect) (id : String) : Option Operator := d.overrides.lookup id

/-- Replaces an operator; a later replacement counts. -/
def withOverride (d : Dialect) (id : String) (op : Operator) : Dialect :=
  { d with overrides := (id, op) :: d.overrides }

/-- The operator that a call is written with: the one that stands in for its own, where that
takes as many operands. -/
def resolve (d : Dialect) (op : Operator) (count : Nat) : Operator :=
  match d.overrideOf? op.id with
  | some other => if other.arity.admits count then other else op
  | none => op

@[simp] theorem has_withFeature (d : Dialect) (f g : Feature) :
    (d.withFeature f).has g = (g == f || d.has g) := by
  simp only [has, withFeature, List.contains_cons]

theorem resolve_of_overrideOf?_eq_none {d : Dialect} {op : Operator}
    (h : d.overrideOf? op.id = none) (count : Nat) : d.resolve op count = op := by
  simp [resolve, h]

theorem resolve_of_overrides_nil {d : Dialect} (h : d.overrides = []) (op : Operator)
    (count : Nat) : d.resolve op count = op :=
  resolve_of_overrideOf?_eq_none (by simp [overrideOf?, h]) count

end Dialect

end RowExpr
