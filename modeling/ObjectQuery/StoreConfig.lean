/-!
The policy of a store: `debug` raises the notice of each condition from trace to debug level,
`metrics` says whether events are recorded at all.
-/
namespace ObjectQuery

structure StoreConfig where
  debug : Bool := false
  metrics : Bool := true
  deriving DecidableEq, Repr, Inhabited

def StoreConfig.withDebug (c : StoreConfig) : StoreConfig := { c with debug := true }

def StoreConfig.withoutMetrics (c : StoreConfig) : StoreConfig := { c with metrics := false }

end ObjectQuery
