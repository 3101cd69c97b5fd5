import Batching.LogFilter

namespace Batching

/-! What a process logs: nothing until a filter is installed, and what that filter lets
through from then on. -/

structure Logger where
  filter : Option LogFilter.Filter := none
deriving DecidableEq, Repr

/-- Installs the filter that the environment gives, unless one is installed already, and
tells whether it did. -/
def Logger.install (logger : Logger) (environment : Environment) : Bool × Logger :=
  match logger.filter with
  | some _ => (false, logger)
  | none => (true, { filter := some (LogFilter.Filter.ofEnvironment environment) })

end Batching
