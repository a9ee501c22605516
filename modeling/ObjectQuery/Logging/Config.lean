/-! The log level a program is configured with, and the directive that applies it. -/
namespace ObjectQuery

structure LogConfig where
  level : String := "INFO"
  deriving DecidableEq, Repr, Inhabited

def LogConfig.directive (c : LogConfig) : String := s!"boxql={c.level},boxql_core={c.level}"

end ObjectQuery
