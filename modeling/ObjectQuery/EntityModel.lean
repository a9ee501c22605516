import ObjectQuery.Property
import ObjectQuery.Failure

/-!
Entity models: a name and an ordered list of properties. `EntityModel.ofProperties` refuses a list
in which an id or a name occurs twice; a model written down as a plain record is not checked.
-/
namespace ObjectQuery

structure EntityModel where
  name : String
  properties : List Property
  deriving DecidableEq, Repr, Inhabited

inductive Repeat where
  | ofId (id : PropertyId)
  | ofName (name : String)
  deriving DecidableEq, Repr

namespace Repeat

/-- The first repeat in a list that follows properties with these ids and names. At one property
an id that repeats is reported before a name. -/
def firstAfter (ids : List PropertyId) (names : List String) : List Property → Option Repeat
  | [] => none
  | p :: rest =>
    if p.id ∈ ids then some (.ofId p.id)
    else if p.name ∈ names then some (.ofName p.name)
    else firstAfter (p.id :: ids) (p.name :: names) rest

def first (properties : List Property) : Option Repeat := firstAfter [] [] properties

def failure (entity : String) : Repeat → Failure
  | .ofId id => .modelInvariant s!"duplicate property id {id.text} on entity '{entity}'"
  | .ofName name => .modelInvariant s!"duplicate property name '{name}' on entity '{entity}'"

end Repeat

namespace EntityModel

def ofProperties (name : String) (properties : List Property) : Except Failure EntityModel :=
  match Repeat.first properties with
  | some twice => .error (twice.failure name)
  | none => .ok ⟨name, properties⟩

def property? (m : EntityModel) (name : String) : Option Property :=
  m.properties.find? fun p => p.name == name

def propertyById? (m : EntityModel) (id : PropertyId) : Option Property :=
  m.properties.find? fun p => p.id == id

end EntityModel

structure ModelDraft where
  name : String
  properties : List Property
  isChecked : Bool
  deriving DecidableEq, Repr

def ModelDraft.model (d : ModelDraft) : Except Failure EntityModel :=
  if d.isChecked then EntityModel.ofProperties d.name d.properties else .ok ⟨d.name, d.properties⟩

end ObjectQuery
