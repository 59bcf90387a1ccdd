import Passage.SslMode
import Passage.Text.Blank
import Passage.Text.Quoted

namespace Passage.Negotiation

structure Settings where
  /-- Certificates are not checked, even where a mode asks for it. -/
  skipVerification : Bool := false
  order : List SslMode := SslMode.probeOrder
  deriving DecidableEq

namespace Settings

def isOn (text : String) : Bool :=
  let word := (String.ofList (Text.trim text.toList)).toLower
  word == "1" || word == "true" || word == "yes"

/-- The settings under an environment variable that may switch the checks off. -/
def ofEnvironment (text : Option String) : Settings :=
  { skipVerification := text.any isOn }

/-- The modes that are tried: no directive, and no checks where they are switched off. -/
def candidates (s : Settings) : List SslMode :=
  s.order.filter fun mode => !mode.isDirective && !(s.skipVerification && mode.verifies)

def debug (s : Settings) : String :=
  Quoted.record "NegotiatorConfig"
    [("skip_certificate_verification", toString s.skipVerification),
      ("probe_order", Quoted.list SslMode.debug s.order)]

end Settings
end Passage.Negotiation
