import RowExpr.Dialect.Basic

/-!
# Quoted strings and names

Inside quotes a quote is written twice. A name is quoted where it is not plain.
-/

namespace RowExpr.Sql

def double (q : Char) (s : List Char) : List Char :=
  s.flatMap fun c => if c = q then [q, q] else [c]

def enclose (q : Char) (s : List Char) : List Char := q :: double q s ++ [q]

def quoteString (s : String) : String := String.ofList (enclose '\'' s.toList)

def isNameStart (c : Char) : Bool := c.isAlpha || c == '_'

def isNameChar (c : Char) : Bool := c.isAlphanum || c == '_'

/-- An ASCII letter or underscore, then letters, digits and underscores. -/
def isPlainName : List Char → Bool
  | [] => false
  | c :: rest => isNameStart c && rest.all isNameChar

/-- A name as the dialect writes it. -/
def quoteName (d : Dialect) (name : String) : String :=
  match d.quote with
  | none => name
  | some q => if isPlainName name.toList then name else String.ofList (enclose q name.toList)

/-- An expression with a name for it. -/
def aliased (d : Dialect) (expr name : String) : String :=
  expr ++ (if d.has .aliasWithAs then " AS " else " ") ++ quoteName d name

theorem double_eq_self {q : Char} {s : List Char} (h : q ∉ s) : double q s = s := by
  induction s with
  | nil => rfl
  | cons c rest ih =>
    simp only [List.mem_cons, not_or] at h
    simpa [double, Ne.symm h.1] using ih h.2

end RowExpr.Sql
