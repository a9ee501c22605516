import ObjectQuery.StoreConfig
import ObjectQuery.Engine.Handle

/-!
The values a client holds. A store is a session with its policy. A box fixes an entity and a store
and shares one cell, in which the entity's model is kept once resolved, with every copy of itself.
Builders and queries own a handle until they are closed.
-/
namespace ObjectQuery

/- Events of a store go to its sink, or to the global report if it has none. -/
structure Store where
  session : SessionHandle
  config : StoreConfig := {}
  sink : Option String := none
  deriving DecidableEq, Repr

structure EntityBox where
  store : Store
  entity : String
  cell : Nat
  deriving DecidableEq, Repr

structure Builder where
  box : EntityBox
  handle : Option ContextHandle
  deriving DecidableEq, Repr

structure Query where
  box : EntityBox
  handle : Option QueryHandle
  deriving DecidableEq, Repr

def Builder.isClosed (b : Builder) : Bool := b.handle.isNone

def Query.isClosed (q : Query) : Bool := q.handle.isNone

end ObjectQuery
