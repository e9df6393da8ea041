import LogScript.Config.Scalar

namespace LogScript.Config

/-- Where an appender sends messages. -/
inductive Target where
  | ajax (url : Option Scalar)
  | console
  deriving DecidableEq, Repr

/-- The method of the script library that creates an appender. -/
def Target.method : Target → String
  | ajax _ => "createAjaxAppender"
  | console => "createConsoleAppender"

/-- Which messages an appender takes, and how it collects them. -/
structure Limits where
  level : Option Scalar := none
  ipRegex : Option Scalar := none
  userAgentRegex : Option Scalar := none
  disallow : Option Scalar := none
  storeInBufferLevel : Option Scalar := none
  sendWithBufferLevel : Option Scalar := none
  bufferSize : Option Scalar := none
  batchSize : Option Scalar := none
  deriving DecidableEq, Repr

structure Appender where
  name : String
  target : Target
  limits : Limits := {}
  deriving DecidableEq, Repr

namespace Appender

/-- The options of an appender, in the order in which they are written. -/
def attributes (a : Appender) : List Attribute :=
  [setting "level" .level a.limits.level,
   setting "ipRegex" .pattern a.limits.ipRegex,
   setting "userAgentRegex" .pattern a.limits.userAgentRegex,
   setting "disallow" .pattern a.limits.disallow,
   setting "storeInBufferLevel" .level a.limits.storeInBufferLevel,
   setting "sendWithBufferLevel" .level a.limits.sendWithBufferLevel,
   setting "bufferSize" .unsigned a.limits.bufferSize,
   setting "batchSize" .unsigned a.limits.batchSize] ++
  match a.target with
  | .ajax url => [setting "url" .url url]
  | .console => []

end Appender

end LogScript.Config
