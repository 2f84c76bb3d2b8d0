import Semblance.Limits
import Semblance.Regex.Delimited

/-!
# Patterns that do not compile
-/

namespace Semblance.Pattern

/-- How often schemas of a registry may, one within the other, ask for patterns to be compiled. This
is none of the documented limits. It is set here so that compiling always ends: schemas that ask for
one another without end would otherwise use up the stack. -/
def maxSchemaNesting : Nat := 4096

inductive CompileError where
  | invalidRegex (body : String) (fault : RegexFault)
  | unknownObjectSchema (name : String)
  | invalidSchemaArgument (schema reason : String)
  | limit (error : LimitError)
  /-- The schemas of a registry have reached `maxSchemaNesting`. Like the bound, this error is none
  of the documented ones, and no pattern fails for it unless a caller has registered schemas. -/
  | schemaNesting
  deriving DecidableEq, Repr

namespace CompileError

def message : CompileError → String
  | invalidRegex body fault => s!"Invalid regular expression '{body}': {fault.reason}"
  | unknownObjectSchema name => s!"Unknown object schema: {name}"
  | invalidSchemaArgument schema reason => s!"Invalid arguments for schema '{schema}': {reason}"
  | limit error => error.message
  | schemaNesting => s!"Schemas within schemas exceed maximum depth of {maxSchemaNesting}"

end CompileError

end Semblance.Pattern
