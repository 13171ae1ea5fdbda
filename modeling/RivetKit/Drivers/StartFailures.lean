/-
A start that fails, in the two drivers that hand out instances behind a
start promise: the engine driver and the Cloudflare driver.

Neither rejects the promise of an attempt that fails, and neither takes
the handler away. So a caller that waits goes on waiting, and a later one
joins it, unless a start callback of the engine makes a new attempt on the
old handler. That callback has no test for an instance that is already
there.
-/
import RivetKit.Drivers.Engine.Proofs.LoadActor
import RivetKit.Cloudflare.Proofs.LoadActor

namespace RivetKit.Drivers

open Transition

/-- The engine starts an actor for want of a definition, and the next
call joins the promise of that attempt. -/
def engineDeadPromise : List Engine.LoaderStep :=
  [.onActorStart true false, .loadActor]

/-- The first call fails to read the metadata, and the next one joins. -/
def cloudflareDeadPromise : List Cloudflare.LoadStep :=
  [.loadActor true, .metadataRead 0 false, .loadActor true]

end RivetKit.Drivers
