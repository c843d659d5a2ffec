import Courier.Config.Basic

/-!
# Lineages of settings

Settings are held at places, and whoever merges overrides into those at a place goes on holding
them. What a merge makes has a place of its own, behind all the others.
-/

namespace Courier.Config

/-- The settings that were made so far, in their places. -/
structure Lineage where
  all : List Config
  deriving DecidableEq, Repr

namespace Lineage

/-- The lineage that starts with these settings. -/
def start (c : Config) : Lineage := ⟨[c]⟩

/-- The settings at a place. -/
def get? (l : Lineage) (place : Nat) : Option Config := l.all[place]?

/-- Merges overrides into the settings at a place, if there are any: the place of what is made, or
    why it is refused, and the lineage after it. -/
def merge (l : Lineage) (place : Nat) (o : Overrides) : Option (Except Error Nat × Lineage) :=
  (l.get? place).map fun c =>
    match c.merge o with
    | .ok made => (.ok l.all.length, ⟨l.all ++ [made]⟩)
    | .error error => (.error error, l)

end Lineage

end Courier.Config
