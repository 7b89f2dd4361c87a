import CiWorkflow.Config.Check

set_option autoImplicit false

namespace CiWorkflow

inductive Level where
  | debug
  | warning
  | error
  deriving DecidableEq, Repr

def Level.name : Level → String
  | debug => "DEBUG"
  | warning => "WARNING"
  | error => "ERROR"

inductive Writer where
  | checks
  | files
  | store
  | generation
  deriving DecidableEq, Repr

def Writer.name : Writer → String
  | checks => "actionforge.models.build"
  | files => "actionforge.utils.config_loader"
  | store => "actionforge.utils.config_store"
  | generation => "actionforge.services.generation_service"

structure LogEntry where
  level : Level
  writer : Writer
  text : String
  deriving DecidableEq, Repr

def Warning.entry (w : Warning) : LogEntry := ⟨.warning, .checks, w.message⟩

end CiWorkflow
