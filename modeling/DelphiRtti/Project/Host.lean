import DelphiRtti.Script

/-!
# A project as a host

A project answers every request by the operation of the same name.  A refused
request leaves it unchanged.
-/

namespace DelphiRtti

namespace Project

/-- The answer and the next state of an operation that may be refused. -/
def settle {ε α : Type} (project : Project) :
    Except ε (α × Project) → Except ε α × Project
  | .ok (value, next) => (.ok value, next)
  | .error failure => (.error failure, project)

def settleUnit {ε : Type} (project : Project) :
    Except ε Project → Except ε Unit × Project
  | .ok next => (.ok (), next)
  | .error failure => (.error failure, project)

def respond : (request : Request) → Project → request.Response × Project
  | .readByte address, project => (project.image.readByte address, project)
  | .readWord address, project => (project.image.readWord address, project)
  | .readBytes address count, project =>
      (project.image.read address count, project)
  | .clearData start stop, project => ((), project.clearData start stop)
  | .createData address dataType, project =>
      project.settleUnit (project.createData address dataType)
  | .findOrCreateNamespace parent name source, project =>
      project.settle (project.findOrCreateNamespace parent name source)
  | .convertToClass id, project => project.settle (project.convertToClass id)
  | .symbolAt address, project => (project.symbolAt? address, project)
  | .functionAt address, project => (project.functionAt? address, project)
  | .createFunction address name, project =>
      project.settle (project.createFunction address name)
  | .setParent function parent, project =>
      project.settleUnit (project.setParent function parent)
  | .functionName function, project => (project.functionName function, project)
  | .functionDefinition function, project =>
      (project.functionDefinition function, project)
  | .addType dataType policy, project =>
      (.ok (project.addType dataType policy).1,
        (project.addType dataType policy).2)

/-- A project logs the namespaces that it creates. -/
def records : Request → Project → List LogRecord
  | .findOrCreateNamespace parent name source, project =>
      match project.findOrCreateNamespace parent name source with
      | .ok (id, next) =>
          if (project.findNamespace? parent name).isNone then
            [⟨.debug, "Created namespace " ++ next.qualifiedName id⟩]
          else []
      | .error _ => []
  | _, _ => []

def host : Host Project := ⟨respond, records⟩

end Project

end DelphiRtti
