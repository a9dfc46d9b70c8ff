/-
  LuauLayout.Render.Operator

  Operators: from the names in a dump to the symbols in the source.

  A name that is not listed is taken for a symbol already.
-/

namespace LuauLayout
namespace Operator

/-- The symbol of a binary operator. -/
def binarySymbol (name : String) : String :=
  match name with
  | "Add" => "+"
  | "Sub" => "-"
  | "Mul" => "*"
  | "Div" => "/"
  | "FloorDiv" => "//"
  | "Mod" => "%"
  | "Pow" => "^"
  | "Concat" => ".."
  | "CompareNe" => "~="
  | "CompareEq" => "=="
  | "CompareLt" => "<"
  | "CompareLe" => "<="
  | "CompareGt" => ">"
  | "CompareGe" => ">="
  | "And" => "and"
  | "Or" => "or"
  | symbol => symbol

/-- The symbol of a unary operator. The word `not` takes the space behind it along. -/
def unarySymbol (name : String) : String :=
  match name with
  | "Not" => "not "
  | "not" => "not "
  | "Minus" => "-"
  | "Len" => "#"
  | symbol => symbol

end Operator
end LuauLayout
