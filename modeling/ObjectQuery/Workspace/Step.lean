import ObjectQuery.Workspace.Lifecycle

/-!
Everything a client can do, as data. Stores, boxes, builders and queries are named by the order in
which they came to be. `Workspace.step` carries out one operation, `Workspace.run` a list of them.
-/
namespace ObjectQuery

inductive Operation where
  | engine (action : Engine.Action)
  | lineUp (entity : String) (line : List Resolution)
  | resetReport
  | openStore (session : SessionHandle)
  | copyStore (store : Nat)
  | configure (store : Nat) (config : StoreConfig)
  | route (store : Nat) (sink : String)
  | newBox (store : Nat) (entity : String)
  | copyBox (box : Nat)
  | boxOfBuilder (builder : Nat)
  | boxOfQuery (query : Nat)
  | properties (box : Nat)
  | property (box : Nat) (name : String)
  | propertyOfBuilder (builder : Nat) (name : String)
  | openBuilder (box : Nat)
  | condition (builder : Nat) (property : Property) (method : Method)
  | build (builder : Nat)
  | closeBuilder (builder : Nat)
  | dropBuilder (builder : Nat)
  | queryHandle (query : Nat)
  | closeQuery (query : Nat)
  | dropQuery (query : Nat)
  deriving DecidableEq, Repr

inductive Answer where
  | unknown
  | done
  | engine (outcome : Engine.Outcome)
  | store (id : Nat)
  | box (id : Nat)
  | builder (id : Nat)
  | query (id : Nat)
  | handle (handle : QueryHandle)
  | model (model : EntityModel)
  | property (property : Property)
  | failed (failure : Failure)
  | refused (error : QueryError)
  deriving DecidableEq, Repr

namespace Workspace

def addStore (w : Workspace) (s : Store) : Answer × Workspace :=
  (.store w.stores.length, { w with stores := w.stores ++ [s] })

def setStore (w : Workspace) (id : Nat) (s : Store) : Answer × Workspace :=
  (.done, { w with stores := w.stores.set id s })

def addBox (w : Workspace) (box : EntityBox) : Answer × Workspace :=
  (.box w.boxes.length, { w with boxes := w.boxes ++ [box] })

def setBuilder (w : Workspace) (id : Nat) (b : Builder) : Workspace :=
  { w with builders := w.builders.set id b }

def setQuery (w : Workspace) (id : Nat) (q : Query) : Workspace :=
  { w with queries := w.queries.set id q }

def on {α : Type} (w : Workspace) (l : List α) (id : Nat) (f : α → Answer × Workspace) :
    Answer × Workspace :=
  match l[id]? with
  | some a => f a
  | none => (.unknown, w)

def answerWith {α : Type} (f : α → Answer) : Except QueryError α → Answer
  | .ok a => f a
  | .error error => .refused error

def stepOpenBuilder (w : Workspace) (box : EntityBox) : Answer × Workspace :=
  match w.openBuilder box with
  | (.ok b, w) => (.builder w.builders.length, { w with builders := w.builders ++ [b] })
  | (.error error, w) => (.refused error, w)

def stepBuild (w : Workspace) (id : Nat) (b : Builder) : Answer × Workspace :=
  match w.build b with
  | (.ok q, b, w) =>
    (.query w.queries.length, { w.setBuilder id b with queries := w.queries ++ [q] })
  | (.error error, b, w) => (.refused error, w.setBuilder id b)

def stepReleaseBuilder (w : Workspace) (id : Nat) (b : Builder) (onDrop : Bool) :
    Answer × Workspace :=
  let (b, w) := w.releaseBuilder b onDrop
  (.done, w.setBuilder id b)

def stepReleaseQuery (w : Workspace) (id : Nat) (q : Query) (onDrop : Bool) :
    Answer × Workspace :=
  let (q, w) := w.releaseQuery q onDrop
  (.done, w.setQuery id q)

def step (w : Workspace) : Operation → Answer × Workspace
  | .engine action =>
    let (outcome, w) := w.act action
    (.engine outcome, w)
  | .lineUp entity line => (.done, { w with metadata := w.metadata.lineUp entity line })
  | .resetReport => (.done, w.resetReport)
  | .openStore session => w.addStore { session }
  | .copyStore store => w.on w.stores store w.addStore
  | .configure store config => w.on w.stores store fun s => w.setStore store { s with config }
  | .route store sink =>
    w.on w.stores store fun s => w.setStore store { s with sink := some sink }
  | .newBox store entity => w.on w.stores store fun s =>
    let (box, w) := w.newBox s entity
    w.addBox box
  | .copyBox box => w.on w.boxes box w.addBox
  | .boxOfBuilder builder => w.on w.builders builder fun b => w.addBox b.box
  | .boxOfQuery query => w.on w.queries query fun q => w.addBox q.box
  | .properties box => w.on w.boxes box fun box => match w.properties box with
    | (.ok model, w) => (.model model, w)
    | (.error failure, w) => (.failed failure, w)
  | .property box name => w.on w.boxes box fun box =>
    let (r, w) := w.property box name
    (answerWith .property r, w)
  | .propertyOfBuilder builder name => w.on w.builders builder fun b =>
    let (r, w) := w.property b.box name
    (answerWith .property r, w)
  | .openBuilder box => w.on w.boxes box w.stepOpenBuilder
  | .condition builder p m => w.on w.builders builder fun b =>
    let (r, w) := w.apply b p m
    (answerWith (fun _ => .done) r, w)
  | .build builder => w.on w.builders builder (w.stepBuild builder)
  | .closeBuilder builder => w.on w.builders builder (w.stepReleaseBuilder builder · false)
  | .dropBuilder builder => w.on w.builders builder (w.stepReleaseBuilder builder · true)
  | .queryHandle query => w.on w.queries query fun q =>
    let (r, w) := w.queryHandle q
    (answerWith .handle r, w)
  | .closeQuery query => w.on w.queries query (w.stepReleaseQuery query · false)
  | .dropQuery query => w.on w.queries query (w.stepReleaseQuery query · true)

def run (w : Workspace) : List Operation → List Answer × Workspace
  | [] => ([], w)
  | operation :: rest =>
    let (answer, w) := w.step operation
    let (answers, w) := w.run rest
    (answer :: answers, w)

end Workspace

end ObjectQuery
