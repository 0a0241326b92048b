import FlowRules.Word

/-!
# Rejected configuration

The causes for which a value of a configuration is refused. A value that passed is
never checked again when packets are matched. `ConfigError.message` is the only
place that words them.
-/

namespace FlowRules

/-- Why a configured value is refused. -/
inductive ConfigError where
  | badPrefixLen (len : Octet)
  | badAddress (text : String)
  | badMac (text : String)
  | badPortRange (text : String)
  | badIdentifier (text : String)
  deriving DecidableEq

/-- The cause in words. -/
def ConfigError.message : ConfigError → String
  | badPrefixLen len => "bad IPv4 prefix length: " ++ wordText len
  | badAddress text => "bad IPv4 address: " ++ text
  | badMac text => "bad MAC address: " ++ text
  | badPortRange text => "bad port range: " ++ text
  | badIdentifier text => "bad identifier: " ++ text

end FlowRules
