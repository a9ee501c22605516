import ObjectQuery.Workspace.Basic
import ObjectQuery.Text.Literal

/-! Short descriptions of boxes, builders and queries. -/
namespace ObjectQuery

open Text (literal)

def braced (name fields : String) : String := name ++ " \x7b " ++ fields ++ " \x7d"

def describeBool (b : Bool) : String := if b then "true" else "false"

def describeHandle {kind : HandleKind} (name : String) : Option (Handle kind) → String
  | some h => s!"Some({name}({h.raw.toNat}))"
  | none => "None"

def Workspace.describeBox (w : Workspace) (box : EntityBox) : String :=
  braced "EntityBox" ("entity: " ++ literal box.entity ++ ", resolved: " ++
    describeBool (w.resolved? box).isSome ++ ", ..")

def Builder.describe (b : Builder) : String :=
  braced "QueryBuilder" ("entity: " ++ literal b.box.entity ++ ", handle: " ++
    describeHandle "ContextHandle" b.handle)

def Query.describe (q : Query) : String :=
  braced "Query" ("entity: " ++ literal q.box.entity ++ ", handle: " ++
    describeHandle "QueryHandle" q.handle)

end ObjectQuery
