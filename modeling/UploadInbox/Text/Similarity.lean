import UploadInbox.Text.Basic

/-!
# Similarity of texts

How alike two short texts are, between nothing and one. A character of the one is paired with the
first equal character of the other that is free and not too far away. What counts is the share of
paired characters in either text, and the share of pairs that stand in the same order.
-/
namespace UploadInbox.Similarity

/-- The places of a text, each with whether it is paired. -/
abbrev Places := List (Char × Bool)

/-- Pairs a character with the first free place that holds it, from `low` on and before `high`;
`position` is that of the first of the places. -/
def pair? (c : Char) (low high position : Nat) : Places → Option Places
  | [] => none
  | (d, paired) :: rest =>
    if high ≤ position then none
    else if low ≤ position && c = d && !paired then some ((d, true) :: rest)
    else (pair? c low high (position + 1) rest).map ((d, paired) :: ·)

/-- Pairs the characters of a text from a position on, no farther away than `reach`: those that
found a place, and the places. -/
def pairAll (reach position : Nat) : Text → Places → Text × Places
  | [], places => ([], places)
  | c :: rest, places =>
    match pair? c (position - reach) (position + reach + 1) 0 places with
    | some places =>
      let (paired, places) := pairAll reach (position + 1) rest places
      (c :: paired, places)
    | none => pairAll reach (position + 1) rest places

/-- How far away a character may be that another is paired with. -/
def reach (a b : Text) : Nat := max a.length b.length / 2 - 1

/-- The paired characters of either text, in their order there. -/
def pairs (a b : Text) : Text × Text :=
  let (paired, places) := pairAll (reach a b) 0 a (b.map (·, false))
  (paired, (places.filter (·.2)).map (·.1))

def degree (a b : Text) : Float :=
  let (left, right) := pairs a b
  let count := left.length
  let swapped := ((left.zip right).filter fun (c, d) => c ≠ d).length / 2
  if count = 0 then 0
  else
    (count.toFloat / a.length.toFloat + count.toFloat / b.length.toFloat +
      (count - swapped).toFloat / count.toFloat) / 3

/-- The one that is most like a text, the last of several, if any is like it at all. -/
def nearest? (t : Text) (candidates : List (Text × α)) : Option α :=
  (candidates.foldl (fun best (name, value) =>
    let d := degree t name
    if d > 0.7 then
      match best with
      | some (other, _) => if other ≤ d then some (d, value) else best
      | none => some (d, value)
    else best) (none : Option (Float × α))).map (·.2)

end UploadInbox.Similarity
