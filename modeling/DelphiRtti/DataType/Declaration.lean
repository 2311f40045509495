import DelphiRtti.DataType

/-!
# Data types as C declarations

A function definition is declared as a prototype, a structure as a list of
its members, and any other type stands by its name.  A calling convention
that is not known is left out.
-/

namespace DelphiRtti

namespace Signature

/-- The parameters between the parentheses; an empty list is written
as `void`. -/
def parameterList (signature : Signature) : String :=
  if signature.parameters.isEmpty then "void"
  else ", ".intercalate (signature.parameters.map fun parameter =>
    parameter.typeName ++ " " ++ parameter.name)

end Signature

namespace FunctionDefinition

def declaration (definition : FunctionDefinition)
    (declarator : String) : String :=
  let signature := definition.signature
  let convention :=
    if signature.callingConvention = "unknown" then "" else
      signature.callingConvention ++ " "
  signature.returnType ++ " " ++ convention ++ declarator ++ "("
    ++ signature.parameterList ++ ")"

def render (definition : FunctionDefinition) : String :=
  definition.declaration definition.name

end FunctionDefinition

namespace Component

/-- The declaration of one member: a pointer to a function declares the
function it points to. -/
def declaration (component : Component) : String :=
  match component.dataType with
  | .pointer (.function definition) _ =>
      definition.declaration ("(* " ++ component.name ++ ")")
  | dataType => dataType.name ++ " " ++ component.name

def line (component : Component) : String :=
  if component.comment.isEmpty then "    " ++ component.declaration ++ ";\n"
  else "    " ++ component.declaration ++ "; // " ++ component.comment ++ "\n"

end Component

def Structure.render (layout : Structure) : String :=
  "struct " ++ layout.name ++ " \x7b\n"
    ++ String.join (layout.components.map Component.line)
    ++ "\x7d;"

def DataType.render : DataType → String
  | .struct layout => layout.render
  | .function definition => "typedef " ++ definition.render ++ ";"
  | dataType => dataType.name

end DelphiRtti
