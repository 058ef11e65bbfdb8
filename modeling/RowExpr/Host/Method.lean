import Std.Data.HashMap
import RowExpr.Host.Function

/-!
# Host methods

A method has an owner, a name and as many arguments as it has parameters. A table holds one
overload per parameter count; a later one takes the place of an earlier one.
-/

namespace RowExpr.Host

structure Method where
  owner : String
  name : String
  params : List HostType
  returns : HostType
  /-- Is called with one argument per parameter. -/
  body : List Value → Except EvalError Value

def Method.signature (m : Method) : String :=
  m.returns.text ++ " " ++ m.owner ++ "." ++ m.name ++ "("
    ++ ", ".intercalate (m.params.map (·.text)) ++ ")"

structure MethodTable where
  overloads : Std.HashMap (String × String) (List Method) := ∅

namespace MethodTable

def empty : MethodTable := {}

/-- Adds a method, in place of one with as many parameters. -/
def register (t : MethodTable) (m : Method) : MethodTable :=
  { overloads := t.overloads.alter (m.owner, m.name) fun ms =>
      some ((ms.getD []).filter (·.params.length ≠ m.params.length) ++ [m]) }

def contains (t : MethodTable) (owner name : String) : Bool := t.overloads.contains (owner, name)

/-- The methods of a name, the latest last. -/
def named (t : MethodTable) (owner name : String) : List Method :=
  t.overloads.getD (owner, name) []

def resolve (t : MethodTable) (owner name : String) (count : Nat) : Option Method :=
  (t.named owner name).find? (·.params.length == count)

def invoke (t : MethodTable) (owner name : String) (args : List Value) :
    Except EvalError Value :=
  match t.resolve owner name args.length with
  | some m => m.body args
  | none => .error (.methodNotFound owner name)

theorem named_register (t : MethodTable) (m : Method) (owner name : String) :
    (t.register m).named owner name =
      if m.owner = owner ∧ m.name = name then
        (t.named owner name).filter (·.params.length ≠ m.params.length) ++ [m]
      else t.named owner name := by
  simp only [named, register, Std.HashMap.getD_alter, beq_iff_eq, Prod.mk.injEq]
  split
  · next h =>
    obtain ⟨rfl, rfl⟩ := h
    simp [Std.HashMap.getD_eq_getD_getElem?]
  · rfl

end MethodTable

/-! ## The standard methods -/

/-- Nothing but null comes of a null argument. -/
def strict (body : List Value → Except EvalError Value) (args : List Value) :
    Except EvalError Value :=
  if args.any Value.isNull then .ok .null else body args

def stringArg (method : String) : Value → Except EvalError String
  | .string s => .ok s
  | v => .error (.mismatch (.argument method "a string" v))

def intArg (method : String) : Value → Except EvalError Int64
  | .int i => .ok i
  | v => .error (.mismatch (.argument method "an integer" v))

def flagArg (method : String) : Value → Except EvalError TrimFlag
  | .flag f => .ok f
  | v => .error (.mismatch (.argument method "a flag" v))

def ofFunction {α : Type} (f : α → Value) : Except MethodFailure α → Except EvalError Value
  | .ok a => .ok (f a)
  | .error e => .error (.method e)

namespace Standard

def owner : String := "SqlFunctions"

def stringType : HostType := .inBox .string

def intType : HostType := .inBox .int

def objectType : HostType := .inBox .object

/-- The value of a body that is given too few or too many arguments; no table does that. -/
def wrongCount : Except EvalError Value := .ok .null

def upperBody : List Value → Except EvalError Value
  | [v] => return .string (Text.upper (← stringArg "upper" v))
  | _ => wrongCount

def lowerBody : List Value → Except EvalError Value
  | [v] => return .string (Text.lower (← stringArg "lower" v))
  | _ => wrongCount

def charLengthBody : List Value → Except EvalError Value
  | [v] => return .int (Int64.ofNat (← stringArg "charLength" v).length)
  | _ => wrongCount

def substringBody : List Value → Except EvalError Value
  | [s, start] => do
    let s ← stringArg "substring" s
    let start ← intArg "substring" start
    ofFunction .string (Function.substring s start none)
  | [s, start, length] => do
    let s ← stringArg "substring" s
    let start ← intArg "substring" start
    let length ← intArg "substring" length
    ofFunction .string (Function.substring s start (some length))
  | _ => wrongCount

/-- A trim takes off one character, not a set of them. That is seen to before the source is
looked at. -/
def trimBody : List Value → Except EvalError Value
  | [flag, chars, source] => do
    let flag ← flagArg "trim" flag
    let chars ← stringArg "trim" chars
    match chars.toList with
    | [c] =>
      let source ← stringArg "trim" source
      return .string (String.ofList (Function.trimChar flag c source.toList))
    | _ => .error (.method (.trimCharacters chars))
  | _ => wrongCount

def absBody : List Value → Except EvalError Value
  | [.int i] => ofFunction .int (Function.absInt i)
  | [.float x] => .ok (.float x.abs)
  | [v] => .error (.mismatch (.argument "abs" "a number" v))
  | _ => wrongCount

def piBody (_ : List Value) : Except EvalError Value := .ok (.float Function.pi)

def nullIndicatorBody : List Value → Except EvalError Value
  | v :: _ => .ok (.int (if v.isNull then 1 else 0))
  | [] => .ok (.int 1)

def strictMethod (name : String) (params : List HostType) (returns : HostType)
    (body : List Value → Except EvalError Value) : Method :=
  { owner, name, params, returns, body := strict body }

def methods : List Method :=
  [strictMethod "upper" [stringType] stringType upperBody,
   strictMethod "lower" [stringType] stringType lowerBody,
   strictMethod "charLength" [stringType] intType charLengthBody,
   strictMethod "substring" [stringType, intType] stringType substringBody,
   strictMethod "substring" [stringType, intType, intType] stringType substringBody,
   strictMethod "trim" [.inBox .symbol, stringType, stringType] stringType trimBody,
   strictMethod "abs" [objectType] objectType absBody,
   { owner, name := "pi", params := [], returns := .primitive .double, body := piBody },
   { owner, name := "nullIndicator", params := [objectType], returns := .primitive .int,
     body := nullIndicatorBody }]

end Standard

def MethodTable.ofList (ms : List Method) : MethodTable := ms.foldl register empty

def MethodTable.standard : MethodTable := ofList Standard.methods

end RowExpr.Host
