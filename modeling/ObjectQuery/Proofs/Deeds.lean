import Mathlib.Data.List.Induction
import ObjectQuery.Proofs.Closed

/-!
What one operation makes of a workspace. `Deed` has one case for each way an operation can end,
with its guards and the whole workspace that follows, direct calls of the engine included; facts
about runs are proved by going through its cases. `Workspace.along` gathers what each operation of
a run contributes, so that a run can be told as a list.
-/
namespace ObjectQuery

def EngineCall.trace : EngineCall → Engine.Outcome → List Effect
  | .condition context c, .done =>
    [.noticed (.conditionStored context c.op), .called (.condition context c) .done]
  | call, outcome => [.called call outcome]

/-- What an operation answers to the model it has asked for. With a model in hand, opening a
builder goes on to the engine and has no answer yet. -/
def Operation.reply? (entity : String) : Operation → Except Failure EntityModel → Option Answer
  | .properties _, .ok model => some (.model model)
  | .properties _, .error failure => some (.failed failure)
  | .property _ name, .ok model | .propertyOfBuilder _ name, .ok model =>
    match model.property? name with
    | some p => some (.property p)
    | none => some (.refused (.unknownProperty entity name))
  | .property _ _, .error failure | .propertyOfBuilder _ _, .error failure
  | .openBuilder _, .error failure => some (.refused (.modelUnresolved failure))
  | _, _ => none

/-- What a resolution is worth to an entity: a model must bear its name. -/
def Resolution.verdict (entity : String) : Resolution → Except Failure EntityModel
  | .failed failure => .error failure
  | .model found =>
    if found.name = entity then .ok found
    else .error (.modelInvariant s!"entity '{entity}' resolved a model named '{found.name}'")

namespace Workspace

def lacks (w : Workspace) : Operation → Bool
  | .copyStore store | .configure store _ | .route store _ | .newBox store _ =>
    w.stores[store]?.isNone
  | .copyBox box | .properties box | .property box _ | .openBuilder box => w.boxes[box]?.isNone
  | .boxOfBuilder builder | .propertyOfBuilder builder _ | .condition builder _ _
  | .build builder | .closeBuilder builder | .dropBuilder builder => w.builders[builder]?.isNone
  | .boxOfQuery query | .queryHandle query | .closeQuery query | .dropQuery query =>
    w.queries[query]?.isNone
  | .engine _ | .lineUp _ _ | .resetReport | .openStore _ => false

def copied? (w : Workspace) : Operation → Option EntityBox
  | .copyBox box => w.boxes[box]?
  | .boxOfBuilder builder => w.builders[builder]?.map Builder.box
  | .boxOfQuery query => w.queries[query]?.map Query.box
  | _ => none

def consulted? (w : Workspace) : Operation → Option EntityBox
  | .properties box | .property box _ | .openBuilder box => w.boxes[box]?
  | .propertyOfBuilder builder _ => w.builders[builder]?.map Builder.box
  | _ => none

inductive Deed (w : Workspace) : Operation → Answer → Workspace → Prop where
  | unknown {o : Operation} (absent : w.lacks o = true) : Deed w o .unknown w
  | acted {action : Engine.Action} (indirect : ∀ call, action ≠ .call call) :
      Deed w (.engine action) (.engine (w.engine.act action).1)
        { w with engine := (w.engine.act action).2 }
  | called {call : EngineCall} :
      Deed w (.engine (.call call)) (.engine (w.engine.perform call).1)
        { w with
          engine := (w.engine.perform call).2
          history := call.trace (w.engine.perform call).1 ++ w.history }
  | linedUp {entity : String} {line : List Resolution} :
      Deed w (.lineUp entity line) .done { w with metadata := w.metadata.lineUp entity line }
  | reportReset : Deed w .resetReport .done { w with history := .reportReset :: w.history }
  | storeOpened {session : SessionHandle} :
      Deed w (.openStore session) (.store w.stores.length)
        { w with stores := w.stores ++ [{ session }] }
  | storeCopied {id : Nat} {s : Store} (found : w.stores[id]? = some s) :
      Deed w (.copyStore id) (.store w.stores.length) { w with stores := w.stores ++ [s] }
  | configured {id : Nat} {s : Store} {config : StoreConfig} (found : w.stores[id]? = some s) :
      Deed w (.configure id config) .done { w with stores := w.stores.set id { s with config } }
  | routed {id : Nat} {s : Store} {sink : String} (found : w.stores[id]? = some s) :
      Deed w (.route id sink) .done { w with stores := w.stores.set id { s with sink := some sink } }
  | boxMade {id : Nat} {s : Store} {entity : String} (found : w.stores[id]? = some s) :
      Deed w (.newBox id entity) (.box w.boxes.length)
        { w with
          boxes := w.boxes ++ [⟨s, entity, w.cells.length⟩]
          cells := w.cells ++ [none] }
  | boxCopied {o : Operation} {box : EntityBox} (copied : w.copied? o = some box) :
      Deed w o (.box w.boxes.length) { w with boxes := w.boxes ++ [box] }
  | told {o : Operation} {a : Answer} {box : EntityBox} (asked : w.consulted? o = some box)
      (reply : o.reply? box.entity (w.properties box).1 = some a) : Deed w o a (w.properties box).2
  | openRefused {id : Nat} {box : EntityBox} {model : EntityModel} {w' : Workspace}
      {error : EngineError} {engine : Engine} (found : w.boxes[id]? = some box)
      (resolution : w.properties box = (.ok model, w'))
      (failed : w'.engine.createContext box.store.session box.entity = (.error error, engine)) :
      Deed w (.openBuilder id) (.refused (.engineRejected box.entity .createContext error))
        { w' with
          engine
          history := box.refusal .createContext error ++
            .called (.createContext box.store.session box.entity) (.refused error) :: w'.history }
  | opened {id : Nat} {box : EntityBox} {model : EntityModel} {w' : Workspace}
      {context : ContextHandle} {engine : Engine} (found : w.boxes[id]? = some box)
      (resolution : w.properties box = (.ok model, w'))
      (done : w'.engine.createContext box.store.session box.entity = (.ok context, engine)) :
      Deed w (.openBuilder id) (.builder w'.builders.length)
        { w' with
          engine
          builders := w'.builders ++ [⟨box, some context⟩]
          history := box.opening context ++
            .called (.createContext box.store.session box.entity) (.context context) ::
              w'.history }
  | conditionRefused {id : Nat} {box : EntityBox} {context : ContextHandle} {p : Property}
      {m : Method} {error : EngineError} {engine : Engine}
      (found : w.builders[id]? = some ⟨box, some context⟩)
      (failed : w.engine.addCondition context ⟨p.id, m.test⟩ = (.error error, engine)) :
      Deed w (.condition id p m) (.refused (.engineRejected box.entity m.op error))
        { w with
          engine
          history := box.refusal m.op error ++
            .called (.condition context ⟨p.id, m.test⟩) (.refused error) ::
              box.announcement context p m :: w.history }
  | conditionAdded {id : Nat} {box : EntityBox} {context : ContextHandle} {p : Property}
      {m : Method} {engine : Engine} (found : w.builders[id]? = some ⟨box, some context⟩)
      (done : w.engine.addCondition context ⟨p.id, m.test⟩ = (.ok (), engine)) :
      Deed w (.condition id p m) .done
        { w with
          engine
          history := box.store.recordings (.conditionAdded box.entity m.op) ++
            .noticed (.conditionStored context m.op) ::
              .called (.condition context ⟨p.id, m.test⟩) .done ::
                box.announcement context p m :: w.history }
  | buildRefused {id : Nat} {box : EntityBox} {context : ContextHandle} {error : EngineError}
      {engine : Engine} (found : w.builders[id]? = some ⟨box, some context⟩)
      (failed : w.engine.compile context = (.error error, engine)) :
      Deed w (.build id) (.refused (.engineRejected box.entity .compile error))
        { w with
          engine := engine.destroyContext context
          builders := w.builders.set id ⟨box, none⟩
          history := box.refusal .compile error ++ (box.closing context false ++
            .called (.compile context) (.refused error) :: w.history) }
  | built {id : Nat} {box : EntityBox} {context : ContextHandle} {query : QueryHandle}
      {engine : Engine} (found : w.builders[id]? = some ⟨box, some context⟩)
      (done : w.engine.compile context = (.ok query, engine)) :
      Deed w (.build id) (.query w.queries.length)
        { w with
          engine := engine.destroyContext context
          builders := w.builders.set id ⟨box, none⟩
          queries := w.queries ++ [⟨box, some query⟩]
          history := box.closing context false ++ (box.compiling query ++
            .called (.compile context) (.query query) :: w.history) }
  | builderReleased {o : Operation} {id : Nat} {box : EntityBox} {context : ContextHandle}
      {onDrop : Bool} (release : o = if onDrop then .dropBuilder id else .closeBuilder id)
      (found : w.builders[id]? = some ⟨box, some context⟩) :
      Deed w o .done
        { w with
          engine := w.engine.destroyContext context
          builders := w.builders.set id ⟨box, none⟩
          history := box.closing context onDrop ++ w.history }
  | queryReleased {o : Operation} {id : Nat} {box : EntityBox} {query : QueryHandle}
      {onDrop : Bool} (release : o = if onDrop then .dropQuery id else .closeQuery id)
      (found : w.queries[id]? = some ⟨box, some query⟩) :
      Deed w o .done
        { w with
          engine := w.engine.destroyQuery query
          queries := w.queries.set id ⟨box, none⟩
          history := box.closingQuery query onDrop ++ w.history }
  | handleShown {id : Nat} {box : EntityBox} {query : QueryHandle}
      (found : w.queries[id]? = some ⟨box, some query⟩) :
      Deed w (.queryHandle id) (.handle query) w
  | refusedClosed {o : Operation} {owner : Owner} {box : EntityBox}
      (closed : w.ledger.IsClosed box owner) (asking : o.asks? = some owner) :
      Deed w o (.refused (.useAfterClose box.entity))
        { w with history := box.store.recordings (.useAfterClose box.entity) ++ w.history }
  | releasedClosed {o : Operation} {owner : Owner} {box : EntityBox}
      (closed : w.ledger.IsClosed box owner) (releasing : o.releases? = some owner) :
      Deed w o .done w

variable {w : Workspace} {id : Nat}

theorem deed_on {α : Type} {l : List α} {o : Operation} {f : α → Answer × Workspace}
    (absent : l[id]? = none → w.lacks o = true)
    (deed : ∀ a, l[id]? = some a → Deed w o (f a).1 (f a).2) :
    Deed w o (w.on l id f).1 (w.on l id f).2 := by
  unfold on
  split
  · rename_i a found
    exact deed a found
  · rename_i missing
    exact .unknown (absent missing)

theorem act_call (call : EngineCall) :
    w.act (.call call) = ((w.engine.perform call).1,
      { w with
        engine := (w.engine.perform call).2
        history := call.trace (w.engine.perform call).1 ++ w.history }) := by
  cases call with
  | createContext session entity | compile context => rfl
  | condition context c =>
    rcases ended : w.engine.addCondition context c with ⟨r, engine⟩
    rw [Engine.perform_condition ended]
    cases r <;> simp [act, perform, addCondition, ended, EngineCall.trace, notice, emit,
      Engine.Outcome.ofExcept]
  | destroyContext context | destroyQuery query => rfl

theorem deed_act (action : Engine.Action) :
    Deed w (.engine action) (.engine (w.act action).1) (w.act action).2 := by
  cases action with
  | call call =>
    rw [act_call]
    exact .called
  | _ => exact .acted (by simp)

section Models

variable {box : EntityBox} {model : EntityModel} {failure : Failure}

theorem properties_resolved (resolved : w.resolved? box = some model) :
    w.properties box = (.ok model, w) := by
  simp [properties, resolved]

theorem properties_settled (unresolved : w.resolved? box = none)
    (settled : (w.metadata.resolve box.entity).1.verdict box.entity = .ok model) :
    w.properties box = (.ok model,
      { w with
        metadata := (w.metadata.resolve box.entity).2
        cells := w.cells.set box.cell (some model)
        history := .noticed (.modelResolved box.entity model.properties.length) :: w.history }) := by
  rcases resolution : w.metadata.resolve box.entity with ⟨r, metadata⟩
  rw [resolution] at settled
  cases r with
  | failed failure => contradiction
  | model found =>
    by_cases named : found.name = box.entity
    · simp only [Resolution.verdict, named, ↓reduceIte, Except.ok.injEq] at settled
      subst settled
      simp [properties, unresolved, resolution, named, notice, emit]
    · simp [Resolution.verdict, named] at settled

theorem properties_failed (unresolved : w.resolved? box = none)
    (failed : (w.metadata.resolve box.entity).1.verdict box.entity = .error failure) :
    w.properties box = (.error failure, { w with metadata := (w.metadata.resolve box.entity).2 }) := by
  rcases resolution : w.metadata.resolve box.entity with ⟨r, metadata⟩
  rw [resolution] at failed
  cases r with
  | failed found =>
    obtain rfl := Except.error.inj failed
    simp [properties, unresolved, resolution]
  | model found =>
    by_cases named : found.name = box.entity
    · simp [Resolution.verdict, named] at failed
    · simp only [Resolution.verdict, named, ↓reduceIte, Except.error.injEq] at failed
      subst failed
      simp [properties, unresolved, resolution, named]

theorem properties_owners (box : EntityBox) : ∃ metadata cells effects,
    (w.properties box).2 = { w with metadata, cells, history := effects ++ w.history } ∧
      cells.length = w.cells.length := by
  cases resolved : w.resolved? box with
  | some model =>
    rw [properties_resolved resolved]
    exact ⟨w.metadata, w.cells, [], rfl, rfl⟩
  | none =>
    cases verdict : (w.metadata.resolve box.entity).1.verdict box.entity with
    | error failure =>
      rw [properties_failed resolved verdict]
      exact ⟨_, w.cells, [], rfl, rfl⟩
    | ok model =>
      rw [properties_settled resolved verdict]
      exact ⟨_, _, [_], rfl, List.length_set⟩

end Models

theorem deed_properties {box : EntityBox} (found : w.boxes[id]? = some box) :
    let told : Answer × Workspace := match w.properties box with
      | (.ok model, w) => (.model model, w)
      | (.error failure, w) => (.failed failure, w)
    Deed w (.properties id) told.1 told.2 := by
  rcases resolution : w.properties box with ⟨r, w'⟩
  cases r with
  | ok model | error failure =>
    have deed := Deed.told (o := .properties id) found (by rw [resolution]; rfl)
    rwa [resolution] at deed

theorem property_eq (box : EntityBox) (name : String) :
    w.property box name = (match (w.properties box).1 with
      | .error failure => .error (.modelUnresolved failure)
      | .ok model => match model.property? name with
        | some p => .ok p
        | none => .error (.unknownProperty box.entity name), (w.properties box).2) := by
  rcases resolution : w.properties box with ⟨r, w'⟩
  cases r with
  | error failure => simp [property, resolution]
  | ok model => cases found : model.property? name <;> simp [property, resolution, found]

theorem deed_property {o : Operation} {box : EntityBox} {name : String}
    (asked : w.consulted? o = some box)
    (looking : o = .property id name ∨ o = .propertyOfBuilder id name) :
    Deed w o (answerWith .property (w.property box name).1) (w.property box name).2 := by
  rw [property_eq]
  apply Deed.told asked
  cases (w.properties box).1 with
  | error failure => rcases looking with rfl | rfl <;> rfl
  | ok model =>
    cases found : model.property? name <;> rcases looking with rfl | rfl <;>
      simp [Operation.reply?, answerWith, found]

theorem deed_openBuilder {box : EntityBox} (found : w.boxes[id]? = some box) :
    Deed w (.openBuilder id) (w.stepOpenBuilder box).1 (w.stepOpenBuilder box).2 := by
  rcases resolution : w.properties box with ⟨r, w'⟩
  cases r with
  | error failure =>
    rw [stepOpenBuilder_unresolved resolution]
    have deed := Deed.told (o := .openBuilder id) found (by rw [resolution]; rfl)
    rwa [resolution] at deed
  | ok model =>
    rcases call : w'.engine.createContext box.store.session box.entity with ⟨r, engine⟩
    cases r with
    | error error =>
      rw [stepOpenBuilder_refused resolution call]
      exact .openRefused found resolution call
    | ok context =>
      rw [stepOpenBuilder_ok resolution call]
      exact .opened found resolution call

theorem deed_condition {b : Builder} (found : w.builders[id]? = some b) (p : Property)
    (m : Method) :
    Deed w (.condition id p m) (answerWith (fun _ => .done) (w.apply b p m).1)
      (w.apply b p m).2 := by
  obtain ⟨box, handle⟩ := b
  cases handle with
  | none =>
    rw [apply_closed]
    have closed : w.ledger.IsClosed box (.builder id) := found
    exact .refusedClosed closed rfl
  | some context =>
    rcases call : w.engine.addCondition context ⟨p.id, m.test⟩ with ⟨r, engine⟩
    cases r with
    | error error =>
      rw [apply_refused call]
      exact .conditionRefused found call
    | ok done =>
      rw [apply_ok call]
      exact .conditionAdded found call

theorem deed_build {b : Builder} (found : w.builders[id]? = some b) :
    Deed w (.build id) (w.stepBuild id b).1 (w.stepBuild id b).2 := by
  obtain ⟨box, handle⟩ := b
  cases handle with
  | none =>
    rw [stepBuild_closed found]
    have closed : w.ledger.IsClosed box (.builder id) := found
    exact .refusedClosed closed rfl
  | some context =>
    rcases call : w.engine.compile context with ⟨r, engine⟩
    cases r with
    | error error =>
      rw [stepBuild_refused call]
      exact .buildRefused found call
    | ok query =>
      rw [stepBuild_ok call]
      exact .built found call

theorem deed_releaseBuilder {o : Operation} {b : Builder} {onDrop : Bool}
    (release : o = if onDrop then .dropBuilder id else .closeBuilder id)
    (found : w.builders[id]? = some b) :
    Deed w o (w.stepReleaseBuilder id b onDrop).1 (w.stepReleaseBuilder id b onDrop).2 := by
  obtain ⟨box, handle⟩ := b
  cases handle with
  | none =>
    rw [stepReleaseBuilder_closed found]
    have closed : w.ledger.IsClosed box (.builder id) := found
    refine .releasedClosed closed ?_
    cases onDrop <;> subst release <;> rfl
  | some context =>
    rw [stepReleaseBuilder_open]
    exact .builderReleased release found

theorem deed_releaseQuery {o : Operation} {q : Query} {onDrop : Bool}
    (release : o = if onDrop then .dropQuery id else .closeQuery id)
    (found : w.queries[id]? = some q) :
    Deed w o (w.stepReleaseQuery id q onDrop).1 (w.stepReleaseQuery id q onDrop).2 := by
  obtain ⟨box, handle⟩ := q
  cases handle with
  | none =>
    rw [stepReleaseQuery_closed found]
    have closed : w.ledger.IsClosed box (.query id) := found
    refine .releasedClosed closed ?_
    cases onDrop <;> subst release <;> rfl
  | some query =>
    rw [stepReleaseQuery_open]
    exact .queryReleased release found

theorem deed_queryHandle {q : Query} (found : w.queries[id]? = some q) :
    Deed w (.queryHandle id) (answerWith .handle (w.queryHandle q).1) (w.queryHandle q).2 := by
  obtain ⟨box, handle⟩ := q
  cases handle with
  | none =>
    rw [queryHandle_closed]
    have closed : w.ledger.IsClosed box (.query id) := found
    exact .refusedClosed closed rfl
  | some query => exact .handleShown found

theorem deed_of_step (w : Workspace) (o : Operation) : Deed w o (w.step o).1 (w.step o).2 := by
  cases o with
  | engine action => exact deed_act action
  | lineUp entity line => exact .linedUp
  | resetReport => exact .reportReset
  | openStore session => exact .storeOpened
  | copyStore store => exact deed_on (by simp [lacks]) fun s found => .storeCopied found
  | configure store config => exact deed_on (by simp [lacks]) fun s found => .configured found
  | route store sink => exact deed_on (by simp [lacks]) fun s found => .routed found
  | newBox store entity => exact deed_on (by simp [lacks]) fun s found => .boxMade found
  | copyBox box => exact deed_on (by simp [lacks]) fun box found => .boxCopied found
  | boxOfBuilder builder =>
    exact deed_on (by simp [lacks]) fun b found => .boxCopied (by simp [copied?, found])
  | boxOfQuery query =>
    exact deed_on (by simp [lacks]) fun q found => .boxCopied (by simp [copied?, found])
  | properties box => exact deed_on (by simp [lacks]) fun box found => deed_properties found
  | property box name =>
    exact deed_on (by simp [lacks]) fun box found => deed_property found (Or.inl rfl)
  | propertyOfBuilder builder name =>
    exact deed_on (by simp [lacks]) fun b found =>
      deed_property (by simp [consulted?, found]) (Or.inr rfl)
  | openBuilder box => exact deed_on (by simp [lacks]) fun box found => deed_openBuilder found
  | condition builder p m =>
    exact deed_on (by simp [lacks]) fun b found => deed_condition found p m
  | build builder => exact deed_on (by simp [lacks]) fun b found => deed_build found
  | closeBuilder builder =>
    exact deed_on (by simp [lacks]) fun b found => deed_releaseBuilder rfl found
  | dropBuilder builder =>
    exact deed_on (by simp [lacks]) fun b found => deed_releaseBuilder rfl found
  | queryHandle query => exact deed_on (by simp [lacks]) fun q found => deed_queryHandle found
  | closeQuery query =>
    exact deed_on (by simp [lacks]) fun q found => deed_releaseQuery rfl found
  | dropQuery query =>
    exact deed_on (by simp [lacks]) fun q found => deed_releaseQuery rfl found

def along {β : Type} (f : Workspace → Operation → List β) (w : Workspace) :
    List Operation → List β
  | [] => []
  | o :: rest => f w o ++ (w.step o).2.along f rest

theorem along_append {β : Type} (f : Workspace → Operation → List β) (w : Workspace)
    (operations more : List Operation) :
    w.along f (operations ++ more) = w.along f operations ++ (w.run operations).2.along f more := by
  induction operations generalizing w with
  | nil => rfl
  | cons o rest ih =>
    simp only [List.cons_append, along, run, ih (w.step o).2, List.append_assoc]

theorem along_concat {β : Type} (f : Workspace → Operation → List β) (w : Workspace)
    (operations : List Operation) (o : Operation) :
    w.along f (operations ++ [o]) = w.along f operations ++ f (w.run operations).2 o := by
  rw [along_append, along, along, List.append_nil]

theorem run_concat (w : Workspace) (operations : List Operation) (o : Operation) :
    (w.run (operations ++ [o])).2 = ((w.run operations).2.step o).2 := by
  rw [run_append]
  rfl

end Workspace

end ObjectQuery
