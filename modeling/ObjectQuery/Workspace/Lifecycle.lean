import ObjectQuery.Workspace.Basic

/-!
The life of builders and queries. A builder owns a context from its opening until it is closed,
built or dropped, a query owns its compiled handle until it is closed or dropped; each handle is
released once. What a closed builder or query is asked for is refused before the engine hears of
it.
-/
namespace ObjectQuery.Workspace

def reject (w : Workspace) (box : EntityBox) (op : EngineOp) (error : EngineError) :
    QueryError × Workspace :=
  (.engineRejected box.entity op error,
    (w.notice (.engineRejected box.entity op error.message)).record box.store
      (.engineRejected box.entity op))

def refuseClosed (w : Workspace) (box : EntityBox) : QueryError × Workspace :=
  (.useAfterClose box.entity, w.record box.store (.useAfterClose box.entity))

/-- Opens a builder. The model is resolved before the engine is asked for a context. -/
def openBuilder (w : Workspace) (box : EntityBox) : Except QueryError Builder × Workspace :=
  match w.properties box with
  | (.error failure, w) => (.error (.modelUnresolved failure), w)
  | (.ok _, w) => match w.createContext box.store.session box.entity with
    | (.error error, w) =>
      let (refusal, w) := w.reject box .createContext error
      (.error refusal, w)
    | (.ok context, w) =>
      (.ok ⟨box, some context⟩,
        (w.record box.store (.builderOpened box.entity)).notice
          (.builderOpened box.entity context))

def apply (w : Workspace) (b : Builder) (p : Property) (m : Method) :
    Except QueryError Unit × Workspace :=
  match b.handle with
  | none =>
    let (refusal, w) := w.refuseClosed b.box
    (.error refusal, w)
  | some context =>
    let level := if b.box.store.config.debug then .debug else .trace
    let w := w.notice (.condition level b.box.entity context m.op p.name)
    match w.addCondition context ⟨p.id, m.test⟩ with
    | (.error error, w) =>
      let (refusal, w) := w.reject b.box m.op error
      (.error refusal, w)
    | (.ok _, w) => (.ok (), w.record b.box.store (.conditionAdded b.box.entity m.op))

def releaseBuilder (w : Workspace) (b : Builder) (onDrop : Bool) : Builder × Workspace :=
  match b.handle with
  | none => (b, w)
  | some context =>
    (⟨b.box, none⟩,
      ((w.destroyContext context).record b.box.store
        (.builderClosed b.box.entity onDrop)).notice
          (.builderClosed b.box.entity context onDrop))

/-- Compiles a builder into a query. The builder is closed whether or not the engine agrees, and
a refusal is reported after that. -/
def build (w : Workspace) (b : Builder) : Except QueryError Query × Builder × Workspace :=
  match b.handle with
  | none =>
    let (refusal, w) := w.refuseClosed b.box
    (.error refusal, b, w)
  | some context => match w.compile context with
    | (.ok query, w) =>
      let w := (w.record b.box.store (.queryCompiled b.box.entity)).notice
        (.queryCompiled b.box.entity query)
      let (b, w) := w.releaseBuilder b false
      (.ok ⟨b.box, some query⟩, b, w)
    | (.error error, w) =>
      let (b, w) := w.releaseBuilder b false
      let (refusal, w) := w.reject b.box .compile error
      (.error refusal, b, w)

def queryHandle (w : Workspace) (q : Query) : Except QueryError QueryHandle × Workspace :=
  match q.handle with
  | some query => (.ok query, w)
  | none =>
    let (refusal, w) := w.refuseClosed q.box
    (.error refusal, w)

def releaseQuery (w : Workspace) (q : Query) (onDrop : Bool) : Query × Workspace :=
  match q.handle with
  | none => (q, w)
  | some query =>
    (⟨q.box, none⟩,
      ((w.destroyQuery query).record q.box.store (.queryClosed q.box.entity onDrop)).notice
        (.queryClosed q.box.entity query onDrop))

end ObjectQuery.Workspace
