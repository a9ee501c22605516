import ObjectQuery.StoreConfig
import ObjectQuery.Failure
import ObjectQuery.Json.Value
import ObjectQuery.Json.Writer

/-!
Store configurations as JSON. A text is an object with each field at most once and no others, or a
list with the fields in their order; what is left out keeps its default.
-/
namespace ObjectQuery.StoreConfig

open Json (Fault Reader)

inductive Field where
  | debug
  | metrics
  deriving DecidableEq, Repr

namespace Field

def name : Field → String
  | debug => "debug"
  | metrics => "metrics"

def names : List String := [name debug, name metrics]

def ofName? (s : String) : Option Field :=
  if s = "debug" then some debug else if s = "metrics" then some metrics else none

end Field

structure Given where
  debug : Option Bool := none
  metrics : Option Bool := none
  deriving DecidableEq, Repr

namespace Given

def get? (g : Given) : Field → Option Bool
  | .debug => g.debug
  | .metrics => g.metrics

def set (g : Given) : Field → Bool → Given
  | .debug, b => { g with debug := some b }
  | .metrics, b => { g with metrics := some b }

def missing (g : Given) : Nat :=
  (if g.debug.isNone then 1 else 0) + if g.metrics.isNone then 1 else 0

theorem missing_set {g : Given} {f : Field} (b : Bool) (h : g.get? f = none) :
    (g.set f b).missing < g.missing := by
  obtain ⟨debug, metrics⟩ := g
  cases f <;> simp_all [get?, set, missing]

def config (g : Given) : StoreConfig where
  debug := g.debug.getD false
  metrics := g.metrics.getD true

end Given

/-- Reads members up to the end of the object. Each gives a field that was missing. -/
def members (given : Given) (first : Bool) (s : List Char) :
    Except Fault (StoreConfig × List Char) :=
  match Json.nextKey first s with
  | .error f => .error f
  | .ok (.done rest) => .ok (given.config, rest)
  | .ok (.item key rest) => match Field.ofName? key with
    | none => .error (.inMembers (.unknownField key Field.names) rest)
    | some field => match h : given.get? field with
      | some _ => .error (.inMembers (.duplicateField field.name) rest)
      | none => match Json.colon rest with
        | .error f => .error f
        | .ok rest => match Json.boolean rest with
          | .error f => .error f
          | .ok (b, rest) =>
            have := Given.missing_set b h
            members (given.set field b) false rest
termination_by given.missing

def elements (given : Given) (first : Bool) : List Field → List Char →
    Except Fault (StoreConfig × List Char)
  | [], s => (Json.endList s).map fun rest => (given.config, rest)
  | field :: fields, s => match Json.nextElement first s with
    | .error f => .error f
    | .ok (.done rest) => .ok (given.config, rest)
    | .ok (.item _ rest) => match Json.boolean rest with
      | .error f => .error f
      | .ok (b, rest) => elements (given.set field b) false fields rest

def read : Reader StoreConfig := Json.value "struct StoreConfig" fun
  | '[' :: rest => some (elements {} true [.debug, .metrics] rest)
  | '{' :: rest => some (members {} true rest)
  | _ => none

def ofJson (text : String) : Except Failure StoreConfig :=
  match Json.decode read text with
  | .ok config => .ok config
  | .error fault => .error (.invalidConfig (fault.describe text))

def toJson (c : StoreConfig) : String :=
  Json.writeObject [("debug", Json.writeBool c.debug), ("metrics", Json.writeBool c.metrics)]

end ObjectQuery.StoreConfig
