import ObjectQuery.Table.Basic
import ObjectQuery.EntityModel

/-!
Where entity models come from. Each entity has a line of resolutions; one is taken per call and
the last is never used up.
-/
namespace ObjectQuery

inductive Resolution where
  | model (model : EntityModel)
  | failed (failure : Failure)
  deriving DecidableEq, Repr

def Resolution.ofDraft (d : ModelDraft) : Resolution :=
  match d.model with
  | .ok m => .model m
  | .error f => .failed f

structure Metadata where
  resolutions : Table String (List Resolution) := ∅
  calls : Nat := 0
  deriving DecidableEq, Repr

namespace Metadata

instance : Inhabited Metadata := ⟨{}⟩

def lineUp (m : Metadata) (entity : String) (line : List Resolution) : Metadata :=
  { m with resolutions := m.resolutions.insert entity line }

def resolve (m : Metadata) (entity : String) : Resolution × Metadata :=
  let m := { m with calls := m.calls + 1 }
  match m.resolutions.get? entity with
  | none | some [] => (.failed (.modelUnresolved entity "no metadata registered"), m)
  | some [last] => (last, m)
  | some (next :: rest) => (next, m.lineUp entity rest)

end Metadata

end ObjectQuery
