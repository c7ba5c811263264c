/-!
# The reference text

What the program says about the operations it knows.
-/

namespace Reckon.Cli

/-- The lines of the reference text. -/
def overviewLines : List String :=
  ["TURBO-EXPR OPERATIONS",
   "",
   "A descriptor is a JSON object with the optional keys:",
   "",
   "  op        Operation tag (see below)",
   "  value     Operand for binary operations (default 0)",
   "  field     Passthrough label, ignored by evaluation",
   "  expr      Infix expression over x; overrides op and value when non-empty",
   "",
   "ARITHMETIC (apply)",
   "",
   "  +  -  *  /  ^      value <op> operand",
   "  sqrt               square root of value, operand ignored",
   "  abs                absolute value, operand ignored",
   "",
   "  Unknown or missing op leaves the value unchanged.",
   "",
   "COMPARISON (test)",
   "",
   "  >  <  >=  <=       exact comparison against operand",
   "  ==                 |value - operand| < 1e-10",
   "  !=                 |value - operand| >= 1e-10",
   "",
   "  Unknown or missing op is false.",
   "",
   "EXPRESSIONS",
   "",
   "  Numbers, x, parentheses and + - * / ^.",
   "  ^ binds tightest, then * /, then + -. All operators are left-associative,",
   "  so 2^3^2 is (2^3)^2 = 64.",
   "  In test mode an expression is true when its result is not 0.",
   "",
   "  Examples:",
   "    x * x + 1",
   "    (x - 3) / 4.5",
   "    x ^ 0.5"]

/-- The reference text, with a newline after each line. -/
def overview : String :=
  String.join (overviewLines.map (· ++ "\n"))

end Reckon.Cli
