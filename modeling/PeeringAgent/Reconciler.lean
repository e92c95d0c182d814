import PeeringAgent.Link.Store
import PeeringAgent.Restart

/-!
# Reconciliation over all sessions

A tick passes over the store of every session in order. If any pass changed
what is installed, the AS is restarted once for the whole tick.
-/

set_option autoImplicit false

namespace PeeringAgent.Reconciler

/-- A store and the session that it belongs to. -/
structure Site where
  session : String
  store : LinkStore

/-- What one pass over a store did. -/
structure Pass where
  site : Site
  changes : LinkStore.Changes

def Site.pass (s : Site) : Pass :=
  let (store, changes) := s.store.reconcile
  { site := { s with store }, changes }

def Pass.summary (p : Pass) : Log.Line :=
  if p.changes.restartNeeded then
    Log.info (Log.tagged p.site.session
      (toString p.changes.created.length ++ " link(s) created, " ++
       toString p.changes.destroyed.length ++ " destroyed, " ++
       toString p.site.store.installed.length ++ " installed"))
  else
    Log.debug (Log.tagged p.site.session
      (toString p.site.store.size ++ " link(s) tracked, no changes"))

def Pass.lines (p : Pass) : List Log.Line := p.changes.lines ++ [p.summary]

/-- A tick up to the point where the restart action would begin. -/
structure Sweep where
  passes : List Pass

def sweep (sites : List Site) : Sweep := ⟨sites.map Site.pass⟩

def Sweep.sites (s : Sweep) : List Site := s.passes.map Pass.site

def Sweep.restartNeeded (s : Sweep) : Bool := s.passes.any fun p => p.changes.restartNeeded

def restarting : Log.Line := Log.info "Restarting AS"

def Sweep.lines (s : Sweep) : List Log.Line :=
  s.passes.flatMap Pass.lines ++ if s.restartNeeded then [restarting] else []

/-- What is reported when the restart action ends. -/
def outcomeLines : RestartOutcome → List Log.Line
  | .ok () => []
  | .error e => [Log.error ("Restarting AS failed: " ++ e.message)]

theorem sweep_sites (sites : List Site) :
    (sweep sites).sites = sites.map fun s => { s with store := s.store.reconcile.1 } := by
  simp [sweep, Sweep.sites, Site.pass]

end PeeringAgent.Reconciler
