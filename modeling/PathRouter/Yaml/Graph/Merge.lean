import PathRouter.Yaml.Graph.Basic

/-!
# Merged mappings

The key `<<` of a mapping asks for the entries of another mapping, or of several, of which the first
count most.  They come before the mapping's own entries, so that these count more.  A mapping is
changed once for all the places where it stands.

An entry with a merge key is taken out before the mappings that it asks for are merged themselves,
so their number bounds the number of steps, however the mappings lie within each other.
-/

namespace PathRouter.Yaml.Graph

/-- The key of an entry becomes a text if it was `=`. -/
def plainKey (g : Graph) (key : Nat) : Graph :=
  if (g.node key).tag = .default then g.set key { g.node key with tag := .text } else g

/-- The keys of entries that are no merge keys. -/
def plainKeys (g : Graph) (es : List (Nat × Nat)) : Graph :=
  es.foldl (fun g e => g.plainKey e.1) g

/-- Whether an entry has a merge key. -/
def isMerge (g : Graph) (e : Nat × Nat) : Bool := (g.node e.1).tag = .merge

/-- The nodes whose entries are asked for by the value of a merge key. -/
def mergeItems? (g : Graph) (v : Nat) : Option (List Nat) :=
  match (g.node v).content with
  | .scalar _ => none
  | .mapping _ => some [v]
  | .sequence items => some items

/-- Merges mappings one after the other, and puts the entries of each before those found so far. -/
def mergeAll (merge : Nat → Graph → Except Fault Graph) :
    List Nat → List (Nat × Nat) → Graph → Except Fault (List (Nat × Nat) × Graph)
  | [], found, g => .ok (found, g)
  | item :: items, found, g =>
    if !g.isMapping item then .error .malformed
    else
      match merge item g with
      | .error e => .error e
      | .ok g => mergeAll merge items (g.entries item ++ found) g

/-- Replaces the merge keys of a mapping from one entry on, at most as many as the fuel says;
`merged` are the entries found so far. -/
def mergeFrom (id : Nat) : Nat → Nat → List (Nat × Nat) → Graph → Except Fault Graph
  | 0, _, _, _ => .error .malformed
  | fuel + 1, index, merged, g =>
    let rest := (g.entries id).drop index
    let own := rest.takeWhile fun e => !g.isMerge e
    let later := rest.dropWhile fun e => !g.isMerge e
    let next := index + own.length
    let g := g.plainKeys own
    match later with
    | [] => .ok (if merged = [] then g else g.setEntries id (merged ++ g.entries id))
    | (_, v) :: _ =>
      let g := g.setEntries id ((g.entries id).eraseIdx next)
      match g.mergeItems? v with
      | none => .error .malformed
      | some items =>
        match mergeAll (fun n => mergeFrom n fuel 0 []) items [] g with
        | .error e => .error e
        | .ok (found, g) => mergeFrom id fuel next (merged ++ found) g

/-- The number of entries with a merge key. -/
def mergeCount (g : Graph) : Nat :=
  ((List.range g.nodes.size).flatMap fun n => (g.entries n).filter g.isMerge).length

/-- Replaces the merge keys of a mapping. -/
def merge (g : Graph) (id : Nat) : Except Fault Graph := mergeFrom id (g.mergeCount + 1) 0 [] g

end PathRouter.Yaml.Graph
