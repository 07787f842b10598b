/-!
# Sources of draws

What needs random numbers takes them from a source: a rule that gives a number below a bound and the
state from which the next draw is made. Nothing else is assumed about the numbers. A source may also
come to no number; then there is no layout either.
-/

namespace GridRobot

/-- A source of draws with states of type `σ`. -/
structure DrawSource (σ : Type) where
  /-- A number below the bound, if the source comes to one, and the state after the draw. -/
  roll : (bound : Nat) → σ → Option (Fin bound) × σ

end GridRobot
