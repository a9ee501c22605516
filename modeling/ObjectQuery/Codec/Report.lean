import ObjectQuery.Observe.Report
import ObjectQuery.Json.Writer

/-! Reports as JSON, with the members of each object in the order of their fields or keys. -/
namespace ObjectQuery

open Json (writeObject writeString)

def writeCount (n : UInt64) : String := toString n.toNat

def Totals.counts (t : Totals) : List (String × UInt64) :=
  [("builders_opened", t.buildersOpened),
    ("builders_closed", t.buildersClosed),
    ("builders_released_on_drop", t.buildersReleasedOnDrop),
    ("conditions_added", t.conditionsAdded),
    ("queries_compiled", t.queriesCompiled),
    ("queries_closed", t.queriesClosed),
    ("queries_released_on_drop", t.queriesReleasedOnDrop),
    ("engine_rejections", t.engineRejections),
    ("use_after_close", t.useAfterClose)]

def EntityTotals.counts (t : EntityTotals) : List (String × UInt64) :=
  [("builders_opened", t.buildersOpened),
    ("conditions_added", t.conditionsAdded),
    ("queries_compiled", t.queriesCompiled),
    ("engine_rejections", t.engineRejections)]

def writeCounts (counts : List (String × UInt64)) : String :=
  writeObject (counts.map fun c => (c.1, writeCount c.2))

def Report.toJson (r : Report) : String :=
  writeObject [("ops", writeCounts r.totals.counts),
    ("conditions", writeCounts r.conditions.entries),
    ("entities", writeObject (r.entities.entries.map fun e => (e.1, writeCounts e.2.counts)))]

end ObjectQuery
