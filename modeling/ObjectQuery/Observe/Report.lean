import ObjectQuery.Table.Basic
import ObjectQuery.Observe.Event

/-!
Reports count events: over all, by the entry point of each added condition and by entity. A
counter that has reached its greatest value stays there.
-/
namespace ObjectQuery

def countUp (n : UInt64) : UInt64 := if n + 1 = 0 then n else n + 1

theorem toNat_countUp (n : UInt64) : (countUp n).toNat = min (UInt64.size - 1) (n.toNat + 1) := by
  have bound := n.toNat_lt
  simp only [countUp, ← UInt64.toNat_inj]
  split <;> simp_all [UInt64.toNat_add] <;> omega

structure Totals where
  buildersOpened : UInt64 := 0
  buildersClosed : UInt64 := 0
  buildersReleasedOnDrop : UInt64 := 0
  conditionsAdded : UInt64 := 0
  queriesCompiled : UInt64 := 0
  queriesClosed : UInt64 := 0
  queriesReleasedOnDrop : UInt64 := 0
  engineRejections : UInt64 := 0
  useAfterClose : UInt64 := 0
  deriving DecidableEq, Repr

structure EntityTotals where
  buildersOpened : UInt64 := 0
  conditionsAdded : UInt64 := 0
  queriesCompiled : UInt64 := 0
  engineRejections : UInt64 := 0
  deriving DecidableEq, Repr

structure Report where
  totals : Totals := {}
  conditions : Table String UInt64 := ∅
  entities : Table String EntityTotals := ∅
  deriving DecidableEq, Repr

namespace Totals

def record (t : Totals) : Event → Totals
  | .builderOpened _ => { t with buildersOpened := countUp t.buildersOpened }
  | .conditionAdded _ _ => { t with conditionsAdded := countUp t.conditionsAdded }
  | .builderClosed _ onDrop =>
    { t with
      buildersClosed := countUp t.buildersClosed
      buildersReleasedOnDrop :=
        if onDrop then countUp t.buildersReleasedOnDrop else t.buildersReleasedOnDrop }
  | .queryCompiled _ => { t with queriesCompiled := countUp t.queriesCompiled }
  | .queryClosed _ onDrop =>
    { t with
      queriesClosed := countUp t.queriesClosed
      queriesReleasedOnDrop :=
        if onDrop then countUp t.queriesReleasedOnDrop else t.queriesReleasedOnDrop }
  | .engineRejected _ _ => { t with engineRejections := countUp t.engineRejections }
  | .useAfterClose _ => { t with useAfterClose := countUp t.useAfterClose }

end Totals

namespace EntityTotals

def record? (t : EntityTotals) : Event → Option EntityTotals
  | .builderOpened _ => some { t with buildersOpened := countUp t.buildersOpened }
  | .conditionAdded _ _ => some { t with conditionsAdded := countUp t.conditionsAdded }
  | .queryCompiled _ => some { t with queriesCompiled := countUp t.queriesCompiled }
  | .engineRejected _ _ => some { t with engineRejections := countUp t.engineRejections }
  | .builderClosed .. | .queryClosed .. | .useAfterClose _ => none

end EntityTotals

namespace Report

instance : Inhabited Report := ⟨{}⟩

def recordCondition (conditions : Table String UInt64) : Event → Table String UInt64
  | .conditionAdded _ op => conditions.alter op.label fun n => countUp (n.getD 0)
  | _ => conditions

def recordEntity (entities : Table String EntityTotals) (e : Event) :
    Table String EntityTotals :=
  match ((entities.get? e.entity).getD {}).record? e with
  | some totals => entities.insert e.entity totals
  | none => entities

def record (r : Report) (e : Event) : Report where
  totals := r.totals.record e
  conditions := recordCondition r.conditions e
  entities := recordEntity r.entities e

def ofEvents (events : List Event) : Report := events.foldl record {}

end Report

end ObjectQuery
