import RouteTemplate.Configuration.Effective
import RouteTemplate.Session

set_option autoImplicit false

namespace RouteTemplate

/-- Settings with the caches filled under them. -/
structure Resolver where
  settings : Settings := {}
  caches : Caches := {}

/-- Why a call on the resolver of a process fails: there is no configuration to make it from, or the call
itself fails. -/
inductive CallError where
  | configuration (e : ConfigurationError)
  | route (e : RouteUrlError)
deriving Repr, DecidableEq

namespace Resolver

/-- The resolver that was kept, or a new one from the configuration. -/
def obtain (host : Host) : (kept : Option Resolver) → Except ConfigurationError Resolver
  | some resolver => .ok resolver
  | none => (Configuration.effective host [] none).map fun settings => { settings }

/-- A call on the resolver of a process, with the resolver that is kept afterwards. -/
def call (host : Host) (kept : Option Resolver) (c : Call) : Except CallError Answer × Option Resolver :=
  match obtain host kept with
  | .error e => (.error (.configuration e), kept)
  | .ok resolver =>
    let outcome := c.run resolver.settings resolver.caches
    (outcome.result.mapError .route, some { resolver with caches := outcome.caches })

end Resolver

end RouteTemplate
