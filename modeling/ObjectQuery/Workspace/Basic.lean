import ObjectQuery.QueryError
import ObjectQuery.Method
import ObjectQuery.Metadata
import ObjectQuery.Engine.Action
import ObjectQuery.Observe.Report
import ObjectQuery.Observe.Notice
import ObjectQuery.Workspace.Owner

/-!
A workspace is one engine with everything its clients hold. Whatever happens is written down as an
effect, latest first; what a sink has received, the global report and the log are views of that
history (`Workspace.received`, `Workspace.report`, `Workspace.log`).
-/
namespace ObjectQuery

inductive Effect where
  | called (call : EngineCall) (outcome : Engine.Outcome)
  | recorded (sink : Option String) (event : Event)
  | noticed (notice : Notice)
  | reportReset
  deriving DecidableEq, Repr

namespace Effect

def notice? : Effect → Option Notice
  | noticed n => some n
  | _ => none

def eventFor? (sink : String) : Effect → Option Event
  | recorded (some name) e => if name = sink then some e else none
  | _ => none

def globalEvent? : Effect → Option Event
  | recorded none e => some e
  | _ => none

end Effect

structure Workspace where
  engine : Engine := {}
  metadata : Metadata := {}
  stores : List Store := []
  cells : List (Option EntityModel) := []
  boxes : List EntityBox := []
  builders : List Builder := []
  queries : List Query := []
  history : List Effect := []
  deriving DecidableEq, Repr

namespace Workspace

instance : Inhabited Workspace := ⟨{}⟩

def emit (w : Workspace) (e : Effect) : Workspace := { w with history := e :: w.history }

def notice (w : Workspace) (n : Notice) : Workspace := w.emit (.noticed n)

def record (w : Workspace) (store : Store) (e : Event) : Workspace :=
  if store.config.metrics then w.emit (.recorded store.sink e) else w

def log (w : Workspace) : List Notice := (w.history.filterMap Effect.notice?).reverse

def received (w : Workspace) (sink : String) : List Event :=
  (w.history.filterMap (Effect.eventFor? sink)).reverse

def report (w : Workspace) : Report :=
  .ofEvents ((w.history.takeWhile (· ≠ .reportReset)).filterMap Effect.globalEvent?).reverse

def resetReport (w : Workspace) : Workspace := w.emit .reportReset

def createContext (w : Workspace) (session : SessionHandle) (entity : String) :
    Except EngineError ContextHandle × Workspace :=
  let (r, engine) := w.engine.createContext session entity
  (r, { w with engine }.emit
    (.called (.createContext session entity) (.ofExcept .context r)))

/-- A condition that the engine accepts is noticed by the engine itself. -/
def addCondition (w : Workspace) (context : ContextHandle) (c : Condition) :
    Except EngineError Unit × Workspace :=
  let (r, engine) := w.engine.addCondition context c
  let w := { w with engine }.emit (.called (.condition context c) (.ofExcept (fun _ => .done) r))
  match r with
  | .ok _ => (r, w.notice (.conditionStored context c.op))
  | .error _ => (r, w)

def compile (w : Workspace) (context : ContextHandle) :
    Except EngineError QueryHandle × Workspace :=
  let (r, engine) := w.engine.compile context
  (r, { w with engine }.emit (.called (.compile context) (.ofExcept .query r)))

def destroyContext (w : Workspace) (context : ContextHandle) : Workspace :=
  { w with engine := w.engine.destroyContext context }.emit
    (.called (.destroyContext context) .done)

def destroyQuery (w : Workspace) (query : QueryHandle) : Workspace :=
  { w with engine := w.engine.destroyQuery query }.emit (.called (.destroyQuery query) .done)

def perform (w : Workspace) : EngineCall → Engine.Outcome × Workspace
  | .createContext session entity =>
    let (r, w) := w.createContext session entity
    (.ofExcept .context r, w)
  | .condition context c =>
    let (r, w) := w.addCondition context c
    (.ofExcept (fun _ => .done) r, w)
  | .compile context =>
    let (r, w) := w.compile context
    (.ofExcept .query r, w)
  | .destroyContext context => (.done, w.destroyContext context)
  | .destroyQuery query => (.done, w.destroyQuery query)

def act (w : Workspace) : Engine.Action → Engine.Outcome × Workspace
  | .call call => w.perform call
  | action =>
    let (outcome, engine) := w.engine.act action
    (outcome, { w with engine })

def resolved? (w : Workspace) (box : EntityBox) : Option EntityModel := w.cells[box.cell]?.join

def newBox (w : Workspace) (store : Store) (entity : String) : EntityBox × Workspace :=
  (⟨store, entity, w.cells.length⟩, { w with cells := w.cells ++ [none] })

/-- The model of a box. It is resolved on demand, must bear the name of the entity, and is then
kept for every copy of the box. -/
def properties (w : Workspace) (box : EntityBox) : Except Failure EntityModel × Workspace :=
  match w.resolved? box with
  | some model => (.ok model, w)
  | none =>
    let (resolution, metadata) := w.metadata.resolve box.entity
    let w := { w with metadata }
    match resolution with
    | .failed failure => (.error failure, w)
    | .model model =>
      if model.name = box.entity then
        (.ok model, { w with cells := w.cells.set box.cell (some model) }.notice
          (.modelResolved box.entity model.properties.length))
      else
        (.error (.modelInvariant
          s!"entity '{box.entity}' resolved a model named '{model.name}'"), w)

def property (w : Workspace) (box : EntityBox) (name : String) :
    Except QueryError Property × Workspace :=
  match w.properties box with
  | (.error failure, w) => (.error (.modelUnresolved failure), w)
  | (.ok model, w) => match model.property? name with
    | some p => (.ok p, w)
    | none => (.error (.unknownProperty box.entity name), w)

end Workspace

end ObjectQuery
