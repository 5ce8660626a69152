import ShareLinks.Text.Blank
import ShareLinks.Text.Case

/-!
The configuration that the environment gives, as `xraylink.config` reads it.
-/

namespace ShareLinks

structure Config where
  separator : String := " "
  showInfo : Bool := false
  address : String := "127.0.0.1"
  logLevel : String := "WARNING"
  deriving DecidableEq

namespace Config

def onWords : List String :=
  ["1", "true", "yes", "on"]

/-- Whether a value switches something on, blanks around it and case aside. -/
def isOn (value : String) : Bool :=
  onWords.contains (String.ofList (Text.lower (Text.trim value.toList)))

def ofEnvironment (lookup : String → Option String) : Config :=
  let given (name : String) := lookup ("XRAYLINK_" ++ name)
  { separator := (given "REMARK_SEPARATOR").getD " "
    showInfo := (given "SHOW_INFO").any isOn
    address := (given "DEFAULT_ADDRESS").getD "127.0.0.1"
    logLevel := String.ofList (Text.upper ((given "LOG_LEVEL").getD "WARNING").toList) }

end Config
end ShareLinks
