import ClusterHarness.Config.Node

/-!
# Applications

The client applications that can be started, by the names they are started by, and the marks that
tell how far one has come.
-/

namespace ClusterHarness

/-- How far an application has come. -/
inductive Progress where
  | starting
  | initialized
  | finished
  deriving Repr, DecidableEq

/-- The name of the mark. -/
def Progress.label : Progress → String
  | .starting => "Starting"
  | .initialized => "Initialized"
  | .finished => "Finished"

inductive Application where
  /-- Has exceptions thrown on other nodes and checks that they arrive. -/
  | exceptionGeneration
  deriving Repr, DecidableEq

namespace Application

def all : List Application := [.exceptionGeneration]

/-- The name that the application is started by. -/
def entryPoint : Application → String
  | .exceptionGeneration => "compute.ExceptionGenerationApplication"

/-- The application that is started by a name. -/
def ofEntryPoint? (entryPoint : String) : Option Application :=
  all.find? fun app => app.entryPoint == entryPoint

end Application

/-- What an application is run with, and how far it has come. -/
structure Application.Context where
  nodeId : String
  config : Config.Node
  progress : Progress := .starting
  deriving Repr, DecidableEq

namespace Application.Context

/-- The context of an application that is ready to work. -/
def initialized (context : Context) : Context := { context with progress := .initialized }

/-- The context of an application that has done its work. -/
def finished (context : Context) : Context := { context with progress := .finished }

end Application.Context

end ClusterHarness
