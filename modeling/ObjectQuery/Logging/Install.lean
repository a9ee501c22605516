/-! A process installs its subscriber once; every later attempt is refused. -/
namespace ObjectQuery.Logging

inductive InstallError where
  | alreadyInitialized
  deriving DecidableEq, Repr

def InstallError.message : InstallError → String
  | alreadyInitialized =>
    "global tracing subscriber already installed: " ++
      "a global default trace dispatcher has already been set"

structure Registry where
  installed : Bool := false
  deriving DecidableEq, Repr

namespace Registry

def install (r : Registry) : Except InstallError Unit × Registry :=
  if r.installed then (.error .alreadyInitialized, r) else (.ok (), { installed := true })

def installs (r : Registry) : Nat → List (Except InstallError Unit)
  | 0 => []
  | n + 1 =>
    let (outcome, r) := r.install
    outcome :: r.installs n

end Registry

end ObjectQuery.Logging
