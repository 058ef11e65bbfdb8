/-!
# SQL types

A type is a name and whether null belongs to it.
-/

namespace RowExpr

inductive TypeName
  | boolean
  | tinyInt
  | smallInt
  | integer
  | bigInt
  | decimal (precision scale : UInt8)
  | real
  | double
  | char
  | varchar
  | date
  | time
  | timestamp
  | intervalDayTime
  | intervalYearMonth
  | null
  /-- Flags such as the side that a trim takes characters from. -/
  | symbol
  | any
  deriving DecidableEq, Repr, Inhabited

namespace TypeName

def isIntegral : TypeName → Bool
  | tinyInt | smallInt | integer | bigInt => true
  | _ => false

def isApproximate : TypeName → Bool
  | real | double => true
  | _ => false

def isNumeric : TypeName → Bool
  | decimal _ _ => true
  | t => t.isIntegral || t.isApproximate

def isCharacter : TypeName → Bool
  | char | varchar => true
  | _ => false

def isDatetime : TypeName → Bool
  | date | time | timestamp => true
  | _ => false

def isInterval : TypeName → Bool
  | intervalDayTime | intervalYearMonth => true
  | _ => false

/-! ## Promotion -/

/-- The place of a numeric type among the numeric types; wider is higher. -/
def rank? : TypeName → Option Nat
  | tinyInt => some 1
  | smallInt => some 2
  | integer => some 3
  | bigInt => some 4
  | decimal _ _ => some 5
  | real => some 6
  | double => some 7
  | _ => none

/-- The less restrictive of two numeric types. Two decimals take the greater precision and
the greater scale. -/
def promote (a b : TypeName) : Option TypeName := do
  let m ← a.rank?
  let n ← b.rank?
  match a, b with
  | decimal p s, decimal q t => some (decimal (max p q) (max s t))
  | _, _ => some (if n ≤ m then a else b)

theorem rank?_isSome (t : TypeName) : t.rank?.isSome = t.isNumeric := by
  cases t <;> rfl

theorem isNumeric_of_promote {l r t : TypeName} (h : l.promote r = some t) :
    l.isNumeric = true ∧ r.isNumeric = true ∧ t.isNumeric = true := by
  simp only [← rank?_isSome]
  cases hl : l.rank? with
  | none => simp [promote, hl] at h
  | some m =>
    cases hr : r.rank? with
    | none => simp [promote, hl, hr] at h
    | some n =>
      refine ⟨rfl, rfl, ?_⟩
      simp only [promote, hl, hr, Option.bind_eq_bind, Option.bind_some] at h
      split at h
      · cases h
        rfl
      · rw [Option.some.injEq] at h
        subst h
        split <;> simp [hl, hr]

/-! ## Text -/

def text : TypeName → String
  | boolean => "BOOLEAN"
  | tinyInt => "TINYINT"
  | smallInt => "SMALLINT"
  | integer => "INTEGER"
  | bigInt => "BIGINT"
  | decimal p s => "DECIMAL(" ++ toString p.toNat ++ ", " ++ toString s.toNat ++ ")"
  | real => "REAL"
  | double => "DOUBLE"
  | char => "CHAR"
  | varchar => "VARCHAR"
  | date => "DATE"
  | time => "TIME"
  | timestamp => "TIMESTAMP"
  | intervalDayTime => "INTERVAL DAY TO SECOND"
  | intervalYearMonth => "INTERVAL YEAR TO MONTH"
  | null => "NULL"
  | symbol => "SYMBOL"
  | any => "ANY"

end TypeName

/-- A type name, and whether null is a value of the type. -/
structure SqlType where
  name : TypeName
  nullable : Bool
  deriving DecidableEq, Repr, Inhabited

namespace SqlType

def notNull (name : TypeName) : SqlType := ⟨name, false⟩

def orNull (name : TypeName) : SqlType := ⟨name, true⟩

/-- The same type with null added. -/
def nullify (t : SqlType) : SqlType := { t with nullable := true }

def text (t : SqlType) : String :=
  if t.nullable then t.name.text else t.name.text ++ " NOT NULL"

end SqlType

end RowExpr
