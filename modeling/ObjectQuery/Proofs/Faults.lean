import ObjectQuery.Proofs.Ownership
import ObjectQuery.Proofs.History

/-!
Where an unknown context is reported. Builders name live contexts only, so the engine never finds
one missing by itself: each such error that a client sees is a fault that was lined up, and each
fault is seen once (`relayed_add_pending`).
-/
namespace ObjectQuery

def PendingFault.lining (fault : PendingFault) : Operation × Answer :=
  (.engine (.failNext fault.op fault.error), .engine .done)

def PendingFault.isRelayedIn (fault : PendingFault) : Operation × Answer → Bool
  | (_, .refused (.engineRejected _ op error)) => fault = ⟨op, error⟩
  | _ => false

namespace Transcript

def injected (t : Transcript) (fault : PendingFault) : Nat := t.count fault.lining

def relayed (t : Transcript) (fault : PendingFault) : Nat := t.countP fault.isRelayedIn

theorem injected_append (t u : Transcript) (fault : PendingFault) :
    injected (t ++ u) fault = t.injected fault + u.injected fault := List.count_append

theorem relayed_append (t u : Transcript) (fault : PendingFault) :
    relayed (t ++ u) fault = t.relayed fault + u.relayed fault := List.countP_append

end Transcript

open Transcript

theorem PendingFault.count_take? {op : EngineOp} {error : EngineError}
    {faults left : List PendingFault} (taken : take? op faults = some (error, left))
    (fault : PendingFault) :
    (if fault = ⟨op, error⟩ then 1 else 0) + left.count fault = faults.count fault := by
  obtain ⟨before, after, rfl, rfl, -⟩ := take?_eq_some taken
  simp only [List.count_append, List.count_cons, beq_iff_eq, eq_comm (a := fault)]
  omega

theorem Engine.faults_destroyContext (e : Engine) (context : ContextHandle) :
    (e.destroyContext context).faults = e.faults := by
  unfold destroyContext
  dsimp only
  split <;> rfl

theorem Engine.faults_destroyQuery (e : Engine) (query : QueryHandle) :
    (e.destroyQuery query).faults = e.faults := by
  unfold destroyQuery
  dsimp only
  split <;> rfl

section Turn

variable {n : Nat} {l l' : Ledger} {o : Operation} {a : Answer}

/-- The change of one turn: what it relays and leaves in line was in line before, or the turn
lined it up. -/
def Conserved (fault : PendingFault) (entry : Operation × Answer)
    (before after : List PendingFault) : Prop :=
  relayed [entry] fault + after.count fault = injected [entry] fault + before.count fault

theorem conserved_of_plain {fault : PendingFault} {faults : List PendingFault}
    (unrelayed : fault.isRelayedIn (o, a) = false) (unlined : (o, a) ≠ fault.lining) :
    Conserved fault (o, a) faults faults := by
  have not_counted : injected [(o, a)] fault = 0 := List.count_eq_zero.mpr (by simp [unlined.symm])
  have not_relayed : relayed [(o, a)] fault = 0 := by simp [relayed, unrelayed]
  rw [Conserved, not_counted, not_relayed]

/-- A refusal relays the fault it took, or an error of the engine's own. -/
theorem conserved_of_refusal {fault : PendingFault} {entity : String} {op : EngineOp}
    {error : EngineError} {faults left : List PendingFault}
    (cause : PendingFault.take? op faults = some (error, left) ∨
      left = faults ∧ error ≠ fault.error) :
    Conserved fault (o, .refused (.engineRejected entity op error)) faults left := by
  have unlined : injected [(o, .refused (.engineRejected entity op error))] fault = 0 :=
    List.count_eq_zero.mpr (by simp [PendingFault.lining])
  rw [Conserved, unlined]
  rcases cause with taken | ⟨rfl, other⟩
  · rw [← PendingFault.count_take? taken fault]
    simp [relayed, PendingFault.isRelayedIn, List.countP_cons]
  · have unrelayed : fault ≠ ⟨op, error⟩ := by
      intro same
      rw [same] at other
      exact other rfl
    simp [relayed, PendingFault.isRelayedIn, unrelayed]

theorem PendingFault.lining_eq_iff {op : EngineOp} {error : EngineError} {fault : PendingFault} :
    lining ⟨op, error⟩ = fault.lining ↔ (⟨op, error⟩ : PendingFault) = fault := by
  cases fault
  simp [lining]

theorem conserved_of_act {action : Engine.Action} (indirect : ∀ call, action ≠ .call call)
    (fault : PendingFault) (e : Engine) :
    Conserved fault (.engine action, .engine (e.act action).1) e.faults
      (e.act action).2.faults := by
  cases action with
  | failNext op error =>
    cases fallible : op.isFallible with
    | true =>
      rw [Engine.act_failNext_fallible fallible]
      have lined : injected [PendingFault.lining ⟨op, error⟩] fault =
          [(⟨op, error⟩ : PendingFault)].count fault := by
        simp only [injected, List.count_cons, List.count_nil, beq_iff_eq,
          PendingFault.lining_eq_iff]
      change 0 + List.count fault (e.faults ++ [⟨op, error⟩]) =
        injected [PendingFault.lining ⟨op, error⟩] fault + e.faults.count fault
      rw [lined, List.count_append]
      omega
    | false =>
      rw [Engine.act_failNext_infallible fallible]
      exact conserved_of_plain rfl (by simp [PendingFault.lining])
  | call call => exact absurd rfl (indirect call)
  | _ => exact conserved_of_plain rfl (by simp [PendingFault.lining])

theorem conserved_turn (owned : Owned n l) (turn : Turn l o a l') (op : EngineOp)
    (handle : UInt64) :
    Conserved ⟨op, .unknownContext handle⟩ (o, a) l.engine.faults l'.engine.faults := by
  cases turn with
  | aside added effects plain minor unmet =>
    refine conserved_of_plain ?_ ?_
    · unfold PendingFault.isRelayedIn
      split
      · rename_i same
        rw [(Prod.mk.inj same).2] at plain
        contradiction
      · rfl
    · intro same
      rw [(Prod.mk.inj same).2] at plain
      contradiction
  | engine indirect => exact conserved_of_act indirect _ l.engine
  | openRefused effects minor found failed =>
    obtain ⟨left, rfl, taken | ⟨-, rfl, own⟩⟩ := Engine.createContext_error failed
    · exact conserved_of_refusal (Or.inl taken)
    · refine conserved_of_refusal (Or.inr ⟨rfl, ?_⟩)
      rcases own with rfl | rfl <;> simp
  | opened effects minor found done =>
    obtain ⟨-, -, -, rfl⟩ := Engine.createContext_ok done
    exact conserved_of_plain rfl (by simp [PendingFault.lining])
  | @conditionRefused id box context p m error engine found failed =>
    have label : (⟨p.id, m.test⟩ : Condition).op = m.op := m.op_test
    obtain ⟨left, rfl, taken | ⟨-, rfl, own⟩⟩ := Engine.addCondition_error failed
    · rw [label] at taken
      exact conserved_of_refusal (Or.inl taken)
    · refine conserved_of_refusal (Or.inr ⟨rfl, ?_⟩)
      intro same
      rw [same] at own
      have live := owned.context_live (Ledger.contextOf?_of_found found)
      rw [Engine.validate_unknownContext own] at live
      contradiction
  | conditionAdded found done =>
    obtain ⟨-, rfl⟩ := Engine.addCondition_ok done
    exact conserved_of_plain rfl (by simp [PendingFault.lining])
  | buildRefused found failed =>
    obtain ⟨left, rfl, taken | ⟨-, -, dead, -⟩⟩ := Engine.compile_error failed
    · rw [Ledger.write_engine, Ledger.close, Engine.faults_destroyContext]
      exact conserved_of_refusal (Or.inl taken)
    · have live := owned.context_live (Ledger.contextOf?_of_found found)
      rw [dead] at live
      contradiction
  | built found done =>
    obtain ⟨ctx, -, -, rfl⟩ := Engine.compile_ok done
    rw [Ledger.close, Engine.faults_destroyContext]
    exact conserved_of_plain rfl (by simp [PendingFault.lining])
  | builderReleased release found =>
    rw [Ledger.close, Engine.faults_destroyContext]
    exact conserved_of_plain rfl (by simp [PendingFault.lining])
  | queryReleased release found =>
    rw [Ledger.closeQuery, Engine.faults_destroyQuery]
    exact conserved_of_plain rfl (by simp [PendingFault.lining])

end Turn

theorem relayed_add_pending {t : Transcript} {l : Ledger} (course : Course {} t l)
    (few : t.handles ≤ UInt64.size - 1) (op : EngineOp) (handle : UInt64) :
    t.relayed ⟨op, .unknownContext handle⟩ + l.engine.faults.count ⟨op, .unknownContext handle⟩ =
      t.injected ⟨op, .unknownContext handle⟩ := by
  let fault : PendingFault := ⟨op, .unknownContext handle⟩
  refine course.keeps
    (P := fun t l => t.relayed fault + l.engine.faults.count fault = t.injected fault) few rfl ?_
  intro t l l' o a owned before turn fits
  have change : Conserved fault (o, a) l.engine.faults l'.engine.faults :=
    conserved_turn owned turn op handle
  rw [relayed_append, injected_append]
  unfold Conserved at change
  omega

theorem lined_up_of_relayed {t : Transcript} {l : Ledger} (course : Course {} t l)
    (few : t.handles ≤ UInt64.size - 1) {before after : Transcript} {o : Operation}
    {entity : String} {op : EngineOp} {handle : UInt64}
    (split : t = before ++
      (o, .refused (.engineRejected entity op (.unknownContext handle))) :: after) :
    PendingFault.lining ⟨op, .unknownContext handle⟩ ∈ before := by
  induction course generalizing after with
  | refl => simp at split
  | @step t l l' o' a course turn ih =>
    have fits := few
    rw [Transcript.handles_append] at fits
    rcases split_of_append split with ⟨rest, earlier, -⟩ | ⟨rest, rfl, now⟩
    · exact ih (Nat.le_trans (Nat.le_add_right _ _) fits) earlier
    · have last : rest = [] ∧ after = [] := by
        have length := congrArg List.length now
        simp only [List.length_cons, List.length_nil, List.length_append] at length
        constructor <;> apply List.length_eq_zero_iff.mp <;> omega
      obtain ⟨rfl, rfl⟩ := last
      obtain ⟨rfl, rfl⟩ := Prod.mk.inj (List.cons.inj now).1
      -- the last entry relays one fault more, and it lines up none
      have balance := relayed_add_pending (course.step turn) few op handle
      have relays : relayed [(o', .refused (.engineRejected entity op (.unknownContext handle)))]
          ⟨op, .unknownContext handle⟩ = 1 := by simp [relayed, PendingFault.isRelayedIn]
      have unlined : injected [(o', .refused (.engineRejected entity op (.unknownContext handle)))]
          ⟨op, .unknownContext handle⟩ = 0 :=
        List.count_eq_zero.mpr (by simp [PendingFault.lining])
      rw [relayed_append, injected_append, relays, unlined] at balance
      rw [List.append_nil]
      refine List.count_pos_iff.mp ?_
      change 0 < injected t ⟨op, .unknownContext handle⟩
      omega

end ObjectQuery
