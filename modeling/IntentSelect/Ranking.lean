import IntentSelect.Experience

/-!
# Ranking

Experiences are compared key by key until one of them differs: by priority, the higher first; by the
time of the last change, the later first, where both have one; and by id, the smaller first.
-/
namespace IntentSelect

/-- Which end of an order comes first. -/
inductive Direction where
  | ascending
  | descending
deriving DecidableEq, Repr

namespace Direction

def name : Direction → String
  | .ascending => "Ascending"
  | .descending => "Descending"

/-- An ordering as seen in this direction. -/
def apply : Direction → Ordering → Ordering
  | .ascending, o => o
  | .descending, o => o.swap

end Direction

/-- One step of a ranking. -/
structure RankKey where
  name : String
  /-- Compares in ascending order; with `none` the key does not apply to the two. -/
  compare : Experience → Experience → Option Ordering
  direction : Direction

namespace RankKey

/-- How two experiences stand by this key, the one that comes first being the lesser. -/
def apply (k : RankKey) (a b : Experience) : Ordering :=
  ((k.compare a b).map k.direction.apply).getD .eq

end RankKey

namespace Experience

/-- Compares the times of the last change, where both have one. -/
def compareUpdates (a b : Experience) : Option Ordering :=
  match a.updatedAt, b.updatedAt with
  | some s, some t => some (s.compare t)
  | _, _ => none

/-- The keys of the ranking, the strongest first. -/
def ranking : List RankKey := [
  ⟨"priority", fun a b => some (compare a.priority b.priority), .descending⟩,
  ⟨"updated_at", compareUpdates, .descending⟩,
  ⟨"id", fun a b => some (compare a.id b.id), .ascending⟩]

/-- Compares two experiences; the lesser ranks ahead. -/
def compareRank (a b : Experience) : Ordering :=
  ((ranking.map fun k => k.apply a b).find? (· != .eq)).getD .eq

/-- Keeps the first of two experiences unless the second ranks ahead of it. -/
def stronger (best candidate : Experience) : Experience :=
  if candidate.compareRank best = .lt then candidate else best

/-- Goes through experiences in order, keeping the stronger of each and the best so far. -/
def strongest? : List Experience → Option Experience
  | [] => none
  | e :: es => some (es.foldl stronger e)

end Experience

end IntentSelect
