import ObjectQuery.Engine.Basic

/-! Everything that can be done to an engine, as data, and what each action answers. -/
namespace ObjectQuery.Engine

inductive Action where
  | register (model : EntityModel)
  | openSession
  | failNext (op : EngineOp) (error : EngineError)
  | clearJournal
  | resizeJournal (capacity : Nat)
  | call (call : EngineCall)
  deriving DecidableEq, Repr

inductive Outcome where
  | done
  | session (handle : SessionHandle)
  | context (handle : ContextHandle)
  | query (handle : QueryHandle)
  | refused (error : EngineError)
  deriving DecidableEq, Repr

def Outcome.ofExcept {α : Type} (f : α → Outcome) : Except EngineError α → Outcome
  | .ok a => f a
  | .error error => .refused error

def perform (e : Engine) : EngineCall → Outcome × Engine
  | .createContext session entity =>
    let (r, e) := e.createContext session entity
    (.ofExcept .context r, e)
  | .condition context c =>
    let (r, e) := e.addCondition context c
    (.ofExcept (fun _ => .done) r, e)
  | .compile context =>
    let (r, e) := e.compile context
    (.ofExcept .query r, e)
  | .destroyContext context => (.done, e.destroyContext context)
  | .destroyQuery query => (.done, e.destroyQuery query)

def act (e : Engine) : Action → Outcome × Engine
  | .register model => (.done, e.register model)
  | .openSession =>
    let (h, e) := e.openSession
    (.session h, e)
  | .failNext op error => match e.failNext op error with
    | .ok e => (.done, e)
    | .error error => (.refused error, e)
  | .clearJournal => (.done, { e with journal := e.journal.clear })
  | .resizeJournal capacity => (.done, { e with journal := e.journal.resize capacity })
  | .call call => e.perform call

def run (e : Engine) : List Action → List Outcome × Engine
  | [] => ([], e)
  | a :: rest =>
    let (outcome, e) := e.act a
    let (outcomes, e) := run e rest
    (outcome :: outcomes, e)

end ObjectQuery.Engine
