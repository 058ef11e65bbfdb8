import RowExpr.Text.Blank

/-!
# Versions and products

The two words that name a target: the database product and its version.
-/

namespace RowExpr

/-- Why a target is not known. -/
inductive TargetError
  /-- In lower case. -/
  | unknownProduct (name : String)
  | invalidVersion (text : String)
  deriving DecidableEq, Repr

def TargetError.message : TargetError → String
  | unknownProduct name => "Unknown database product: " ++ name
  | invalidVersion text => "Invalid dialect version: " ++ text

structure Version where
  major : UInt32
  minor : UInt32
  deriving DecidableEq, Repr, Inhabited

namespace Version

def text (v : Version) : String := toString v.major.toNat ++ "." ++ toString v.minor.toNat

def before (v w : Version) : Bool :=
  v.major < w.major || (v.major == w.major && v.minor < w.minor)

/-- The value of a row of decimal digits; there has to be one. -/
def digits? (cs : List Char) : Option Nat :=
  if cs.isEmpty || !cs.all Char.isDigit then none
  else some (cs.foldl (fun n c => 10 * n + (c.toNat - '0'.toNat)) 0)

/-- A number of 32 bits, perhaps with a plus sign. -/
def number? (cs : List Char) : Option UInt32 :=
  let unsigned := match cs with
    | '+' :: rest => rest
    | _ => cs
  match digits? unsigned with
  | some n => if n < UInt32.size then some (UInt32.ofNat n) else none
  | none => none

def splitPoint (cs : List Char) : List Char × Option (List Char) :=
  match cs.dropWhile (· ≠ '.') with
  | [] => (cs, none)
  | _ :: rest => (cs.takeWhile (· ≠ '.'), some rest)

/-- A major number, perhaps a point and a minor number; what a second point starts is not
looked at. -/
def ofChars? (cs : List Char) : Option Version :=
  match splitPoint cs with
  | (major, none) => (number? major).map (⟨·, 0⟩)
  | (major, some rest) =>
    match number? major, number? (splitPoint rest).1 with
    | some major, some minor => some ⟨major, minor⟩
    | _, _ => none

def parse (s : String) : Except TargetError Version :=
  match ofChars? (Text.strip s.toList) with
  | some v => .ok v
  | none => .error (.invalidVersion s)

end Version

end RowExpr
