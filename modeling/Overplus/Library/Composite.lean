import Overplus.Library.Run

/-!
# Composite transition systems

A system made of components takes a step when some of its components take theirs, so a run of the
system is, for each component, a run of that component on its share of the events. Components are
joined by streams: one offers a sequence that only grows, and the other takes from it in order.
-/
namespace Overplus

section Components

variable {σ τ ε κ : Type} {step : σ → ε → Option σ} {other : τ → κ → Option τ} {part : σ → τ}
  {share : ε → Option κ} {start final : σ} {events : List ε}

/-- **A run of a composite system is a run of its component**, on the component's share of the
events. -/
theorem run_component
    (follows : ∀ state event next, step state event = some next →
      run other (part state) (share event).toList = some (part next))
    (ran : run step start events = some final) :
    run other (part start) (events.filterMap share) = some (part final) := by
  induction events generalizing start with
  | nil =>
    obtain rfl := Option.some.inj ran
    rfl
  | cons event events ih =>
    obtain ⟨next, stepped, rest⟩ := Option.bind_eq_some_iff.mp ran
    have first := follows start event next stepped
    have later := ih rest
    have shares : (event :: events).filterMap share =
        (share event).toList ++ events.filterMap share := by
      rw [List.filterMap_cons]
      cases share event <;> rfl
    rw [shares, run_append first]
    exact later

end Components

section Streams

variable {α : Type} [BEq α] {offered more taken data : List α}

/-- The data is what comes next in a stream, behind what was taken from it. -/
def comesNext (offered taken data : List α) : Bool := data.isPrefixOf (offered.drop taken.length)

/-- Nothing comes next at any time. -/
theorem comesNext_nil (offered taken : List α) : comesNext offered taken [] = true := rfl

/-- What is taken next is still a beginning of the stream. -/
theorem prefix_of_comesNext [LawfulBEq α] (behind : taken <+: offered)
    (next : comesNext offered taken data = true) : taken ++ data <+: offered := by
  obtain ⟨rest, rfl⟩ := behind
  have begins : data <+: rest := by
    have found := List.isPrefixOf_iff_prefix.mp next
    rwa [List.drop_left] at found
  exact (List.prefix_append_right_inj taken).mpr begins

end Streams

end Overplus
