import LogScript.Config.Logger

namespace LogScript.Config

structure Configuration where
  enabled : Bool := true
  maxMessages : Option Scalar := none
  defaultAjaxUrl : Option Scalar := none
  productionLibraryPath : Option String := none
  appenders : List Appender := []
  loggers : List Logger := []
  deriving DecidableEq, Repr

/-- The options of the library itself, besides the switch. -/
def Configuration.attributes (c : Configuration) : List Attribute :=
  [setting "maxMessages" .unsigned c.maxMessages,
   setting "defaultAjaxUrl" .url c.defaultAjaxUrl]

end LogScript.Config
