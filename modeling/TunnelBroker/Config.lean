import TunnelBroker.Config.Membership
import TunnelBroker.Config.Settings
import TunnelBroker.Table

/-! The broker's configuration. -/

set_option autoImplicit false

namespace TunnelBroker

structure Config where
  settings : Settings
  memberships : Table Membership
  /-- The file that the configuration was read from, if any. -/
  source : Option Path
  deriving DecidableEq

namespace Config

def default (environment : Environment) : Config where
  settings := .default environment
  memberships := ∅
  source := none

def membershipFailure? (slug : String) (membership : Membership) : Option Failure :=
  match (do Slug.check slug; membership.validate) with
  | .error failure => some (.config ("Organization '" ++ slug ++ "': " ++ failure.message))
  | .ok _ => none

def validate (config : Config) : Except Failure Unit := do
  config.settings.validate
  match config.memberships.entries.findSome? fun entry =>
      membershipFailure? entry.1 entry.2 with
  | some failure => throw failure
  | none => return ()

end Config

end TunnelBroker
