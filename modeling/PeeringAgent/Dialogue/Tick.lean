import PeeringAgent.Dialogue
import PeeringAgent.Reconciler

/-!
# A tick over sessions

The reconciler reaches the stores of sessions through their dialogues. Whoever ticks,
the stores are passed over in the same way.
-/

set_option autoImplicit false

namespace PeeringAgent.Dialogue

def site (d : Dialogue) : Reconciler.Site := ⟨d.name, d.session.store⟩

def setSite (d : Dialogue) (s : Reconciler.Site) : Dialogue := d.setStore s.store

/-- A tick up to the point where the restart action would begin, and what it leaves of the
sessions. -/
def tickAll (ds : List Dialogue) : List Dialogue × Reconciler.Sweep :=
  let sweep := Reconciler.sweep (ds.map site)
  (List.zipWith setSite ds sweep.sites, sweep)

theorem tickAll_passes (ds : List Dialogue) :
    (tickAll ds).2.passes = ds.map fun d => d.site.pass := by
  rw [tickAll, Reconciler.sweep, List.map_map]
  rfl

/-- A tick gives each session the store that its pass leaves. -/
theorem tickAll_dialogues (ds : List Dialogue) :
    (tickAll ds).1 = ds.map fun d => d.setSite d.site.pass.site := by
  rw [tickAll, Reconciler.sweep_sites, List.map_map, List.zipWith_map_right, List.zipWith_self]
  rfl

end PeeringAgent.Dialogue
