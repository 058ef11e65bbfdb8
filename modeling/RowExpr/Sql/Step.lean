/-!
# SQL text in steps

SQL text is put together from words, commas and parentheses. Spacing is left to `layout`:
one space between words, none after an opening parenthesis, before a closing one or before
a comma.
-/

namespace RowExpr.Sql

inductive Step
  | word (text : String)
  | comma
  | paren
  /-- A function name and the parenthesis that opens its arguments. -/
  | call (name : String)
  | close
  deriving DecidableEq, Repr, Inhabited

namespace Step

/-- The characters of a step, after a space where one is due. -/
def chars (spaced : Bool) : Step → List Char
  | word text => if spaced then ' ' :: text.toList else text.toList
  | comma => [',']
  | paren => if spaced then [' ', '('] else ['(']
  | call name => (if spaced then ' ' :: name.toList else name.toList) ++ ['(']
  | close => [')']

def spaces : Step → Bool
  | word _ | comma | close => true
  | paren | call _ => false

end Step

/-- The text of steps, where `spaced` says whether a space is due. -/
def layoutFrom : Bool → List Step → List Char
  | _, [] => []
  | spaced, s :: rest => s.chars spaced ++ layoutFrom s.spaces rest

def layout (steps : List Step) : String := String.ofList (layoutFrom false steps)

/-- Whether a space is due after steps. -/
def spacesAfter (spaced : Bool) (steps : List Step) : Bool :=
  steps.foldl (fun _ s => s.spaces) spaced

theorem layoutFrom_append (spaced : Bool) (as bs : List Step) :
    layoutFrom spaced (as ++ bs) =
      layoutFrom spaced as ++ layoutFrom (spacesAfter spaced as) bs := by
  induction as generalizing spaced with
  | nil => rfl
  | cons s rest ih => simp [layoutFrom, spacesAfter, ih, List.append_assoc]

end RowExpr.Sql
