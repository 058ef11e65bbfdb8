import RowExpr.Sql.Name

/-!
# Literals in SQL

What a value looks like in SQL text. Of the types only dates and times matter: a string of
such a type is written behind the type's name.
-/

namespace RowExpr.Sql

def floatText (x : Float) : String :=
  match Decimal.FloatValue.ofFloat x with
  | .nan => "CAST('NaN' AS DOUBLE)"
  | .infinite false => "CAST('Infinity' AS DOUBLE)"
  | .infinite true => "CAST('-Infinity' AS DOUBLE)"
  | .finite _ => Decimal.Layout.sql.write x

def stringText (s : String) (name : TypeName) : String :=
  if name.isDatetime then name.text ++ " " ++ quoteString s else quoteString s

def literalText (v : Value) (type : SqlType) : String :=
  match v with
  | .null => "NULL"
  | .bool true => "TRUE"
  | .bool false => "FALSE"
  | .int i => toString i.toInt
  | .float x => floatText x
  | .flag f => f.keyword
  | .string s => stringText s type.name

def inputText (d : Dialect) (index : UInt64) (name : Option String) : String :=
  match name with
  | some name => quoteName d name
  | none => "$" ++ toString index.toNat

end RowExpr.Sql
