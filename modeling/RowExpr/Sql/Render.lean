import RowExpr.Sql.Literal
import RowExpr.Sql.Step
import RowExpr.Sql.Trim

/-!
# Row expressions in SQL

An expression is written in a context: how strongly its neighbours on the left and on the
right bind. A call is in parentheses where a neighbour would take its operand away. How a
call is spelled depends on the operator, on what the dialect puts in its place, and on the
dialect's features.
-/

namespace RowExpr.Sql

/-- How an expression is written between two neighbours, zero standing for none. -/
abbrev Fragment := Nat → Nat → List Step

/-- Whether an operator that binds with `opLeft` and `opRight` has to be in parentheses. -/
def needsParens (opLeft opRight left right : Nat) : Bool :=
  opLeft < left || (right ≠ 0 && opRight ≤ right)

/-- Puts a fragment in parentheses where its operator needs them; inside there are no
neighbours. -/
def wrap (opLeft opRight : Nat) (body : Fragment) : Fragment := fun left right =>
  if needsParens opLeft opRight left right then .paren :: body 0 0 ++ [.close]
  else body left right

/-! ## Spellings -/

def function (name : String) (parts : List Fragment) : List Step :=
  .call name :: [Step.comma].intercalate (parts.map (· 0 0)) ++ [.close]

def between (op : Operator) : List Fragment → Fragment
  | [], _, _ => []
  | [part], left, right => part left right
  | part :: rest, left, right =>
    part left op.leftPrec ++ .word op.name :: between op rest op.rightPrec right

def before (op : Operator) (parts : List Fragment) : List Step :=
  .word op.name :: parts.flatMap fun part => part op.leftPrec op.rightPrec

def behind (op : Operator) (parts : List Fragment) : Fragment := fun left _ =>
  (parts.flatMap fun part => part left op.leftPrec) ++ [.word op.name]

/-- A source, `FROM` a start, `FOR` a length. -/
def substring (name : String) (parts : List Fragment) : List Step :=
  let operands := match parts with
    | [] => []
    | [source] => source 0 0
    | source :: start :: rest =>
      source 0 0 ++ .word "FROM" :: start 0 0
        ++ rest.flatMap fun part => .word "FOR" :: part 0 0
  .call name :: operands ++ [.close]

def standardTrim (name : String) (flag chars source : Fragment) : List Step :=
  .call name :: flag 0 0 ++ chars 0 0 ++ .word "FROM" :: source 0 0 ++ [.close]

/-- A trim by the regular expression of what is taken off. -/
def patternTrim (flag : TrimFlag) (chars : List Char) (source : Fragment) : List Step :=
  .call "REGEXP_REPLACE" :: source 0 0
    ++ [.comma, .word (quoteString (String.ofList (trimPattern flag chars))), .comma,
        .word "''", .close]

/-- A null test that sorts: a truth value where the dialect sorts those, else one and zero. -/
def nullIndicator (d : Dialect) (operand : Option Fragment) : Fragment :=
  let op := Catalog.isNull
  match operand with
  | none => fun _ _ => [.word "0"]
  | some part =>
    if d.has .booleanSortKeys then
      wrap op.leftPrec op.rightPrec fun left _ => part left op.leftPrec ++ [.word "IS NULL"]
    else fun _ _ =>
      .word "CASE WHEN" :: part 0 op.leftPrec ++ [.word "IS NULL THEN 1 ELSE 0 END"]

/-! ## Calls -/

/-- A trim in the dialect's style. `flag` and `chars` are the first two operands. -/
def trim (d : Dialect) (name : String) (flag chars : Node)
    (flagPart charsPart source : Fragment) : List Step :=
  let side := flagOf flag
  match d.trimStyle, charsOf? chars with
  | .standard, _ | .functionCall, none => standardTrim name flagPart charsPart source
  | .functionCall, some cs =>
    if Text.isBlankText cs then function (trimFunction name side) [source]
    else patternTrim side cs source
  | .sourceThenChars, some cs =>
    if Text.isBlankText cs then function (trimFunction name side) [source]
    else function (trimFunction name side) [source, charsPart]
  | .sourceThenChars, none => function (trimFunction name side) [source, charsPart]

/-- A call by the form of its operator. -/
def byForm (d : Dialect) (op : Operator) (parts : List Fragment) : Fragment :=
  match op.form with
  | .function => fun _ _ => function op.name parts
  | .functionId => fun _ _ =>
    if parts.isEmpty then [.word op.name] else function op.name parts
  | .trim =>
    match parts with
    | [flag, chars, source] => fun _ _ => standardTrim op.name flag chars source
    | _ => fun _ _ => function op.name parts
  | .substring => fun _ _ => substring op.name parts
  | .nullIndicator => nullIndicator d parts.head?
  | .binary => wrap op.leftPrec op.rightPrec (between op parts)
  | .prefixOp => wrap op.leftPrec op.rightPrec fun _ _ => before op parts
  | .postfixOp => wrap op.leftPrec op.rightPrec (behind op parts)

/-- A call of an operator. The operands are given as they are and as they are written. -/
def spell (d : Dialect) (op : Operator) (operands : List Node) (parts : List Fragment) :
    Fragment :=
  match op.kind, operands, parts with
  | .trim, [flag, chars, _], [flagPart, charsPart, source] => fun _ _ =>
    trim d op.name flag chars flagPart charsPart source
  | .otherFunction, _, _ =>
    if op.form = .substring ∧ d.has .substringFromFor = false then fun _ _ =>
      function op.name parts
    else byForm d op parts
  | _, _, _ => byForm d op parts

section

variable {d : Dialect} {op : Operator} (parts : List Fragment)

theorem byForm_function (h : op.form = .function) :
    byForm d op parts = fun _ _ => function op.name parts := by
  simp [byForm, h]

theorem byForm_binary (h : op.form = .binary) :
    byForm d op parts = wrap op.leftPrec op.rightPrec (between op parts) := by
  simp [byForm, h]

theorem byForm_prefixOp (h : op.form = .prefixOp) :
    byForm d op parts = wrap op.leftPrec op.rightPrec fun _ _ => before op parts := by
  simp [byForm, h]

theorem byForm_postfixOp (h : op.form = .postfixOp) :
    byForm d op parts = wrap op.leftPrec op.rightPrec (behind op parts) := by
  simp [byForm, h]

end

/-- Only trims of three operands and substrings are not spelled by their form alone. -/
theorem spell_of_no_trim {d : Dialect} {op : Operator} {parts : List Fragment}
    (htrim : op.kind = .trim → parts.length ≠ 3) (operands : List Node) :
    spell d op operands parts =
      if op.kind = .otherFunction ∧ op.form = .substring ∧ d.has .substringFromFor = false then
        fun _ _ => function op.name parts
      else byForm d op parts := by
  unfold spell
  split
  · next hkind => exact absurd rfl (htrim hkind)
  · next hkind => simp [hkind]
  · next hkind _ => rw [if_neg fun h => hkind h.1]

theorem spell_eq_byForm {d : Dialect} {op : Operator} {parts : List Fragment}
    (htrim : op.kind = .trim → parts.length ≠ 3) (hform : op.form ≠ .substring)
    (operands : List Node) : spell d op operands parts = byForm d op parts := by
  rw [spell_of_no_trim htrim, if_neg fun h => hform h.2.1]

/-! ## Expressions -/

mutual

def render (d : Dialect) : Node → Fragment
  | .literal v type => fun _ _ => [.word (literalText v type)]
  | .input index name _ => fun _ _ => [.word (inputText d index name)]
  | .call op operands _ =>
    spell d (d.resolve op operands.length) operands (renderAll d operands)

def renderAll (d : Dialect) : List Node → List Fragment
  | [] => []
  | n :: rest => render d n :: renderAll d rest

end

/-- The SQL text of an expression between two neighbours. -/
def text (d : Dialect) (n : Node) (left : Nat := 0) (right : Nat := 0) : String :=
  layout (render d n left right)

theorem renderAll_eq_map (d : Dialect) (ns : List Node) : renderAll d ns = ns.map (render d) := by
  induction ns with
  | nil => rfl
  | cons n rest ih => simp [renderAll, ih]

theorem render_eq_byForm {d : Dialect} {op : Operator} (hd : d.overrideOf? op.id = none)
    {operands : List Node} (htrim : op.kind = .trim → operands.length ≠ 3)
    (hform : op.form ≠ .substring) (type : SqlType) :
    render d (.call op operands type) = byForm d op (operands.map (render d)) := by
  rw [render, Dialect.resolve_of_overrideOf?_eq_none hd, renderAll_eq_map,
    spell_eq_byForm (by simpa using htrim) hform]

theorem length_renderAll (d : Dialect) (ns : List Node) :
    (renderAll d ns).length = ns.length := by
  simp [renderAll_eq_map]

end RowExpr.Sql
