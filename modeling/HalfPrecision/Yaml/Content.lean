import HalfPrecision.Value.Entries
import HalfPrecision.Value.Equality
import HalfPrecision.Yaml.Node.Unfolded
import HalfPrecision.Yaml.Scalar

/-!
This file defines the value of a node. A document may hold several faults, and collections are filled level by level,
so the first refusal is the one in the outermost collection.
-/

namespace HalfPrecision.Yaml

/-- The value of a node, and the refusals met when its collections are filled, by their levels. -/
structure Content where
  value : Value
  refusals : List (List Refusal)

/-- Joins refusals level by level. -/
def joinLevels : List (List Refusal) → List (List Refusal) → List (List Refusal)
  | first :: firsts, second :: seconds => (first ++ second) :: joinLevels firsts seconds
  | [], levels => levels
  | levels, [] => levels

/-- The refusals of a collection that are met after its own ones. -/
def innerLevels (contents : List Content) : List (List Refusal) :=
  contents.foldr (fun content levels => joinLevels content.refusals levels) []

/-- Whether a tag is that of a collection. -/
def isCollection (tag : Tag) : Bool :=
  tag == .sequence || tag == .mapping || tag == .set || tag == .orderedMapping || tag == .pairs

/-- The value of a collection whose node has another shape than its tag asks for. It is refused when it is filled. -/
def misshapen (tag : Tag) : Except Refusal Content :=
  if isCollection tag then
    .ok ⟨if tag == .mapping then .map [] else if tag == .set then .set [] else .list [], [[.malformed]]⟩
  else .error .malformed

/-- Checks that a key may be one. -/
def checkKey (key : Content) : Except Refusal Unit :=
  if key.value.isKey then .ok () else .error .malformed

/-- The map or set of some entries. -/
def ofEntries (tag : Tag) (entries : Except Refusal (List (Content × Content))) : Content :=
  match entries with
  | .error refusal => ⟨if tag == .set then .set [] else .map [], [[refusal]]⟩
  | .ok entries =>
    let collected := Value.collectEntries Value.equal (entries.map fun (key, value) => (key.value, value.value))
    ⟨if tag == .set then .set (collected.map Prod.fst) else .map collected,
      [] :: innerLevels (entries.flatMap fun (key, value) => [key, value])⟩

/-- The list of some items. -/
def ofItems (items : Except Refusal (List Content)) : Content :=
  match items with
  | .error refusal => ⟨.list [], [[refusal]]⟩
  | .ok items => ⟨.list (items.map Content.value), [] :: innerLevels items⟩

/-- The list of the only entries of some mappings. -/
def ofPairs (pairs : Except Refusal (List (Content × Content))) : Content :=
  match pairs with
  | .error refusal => ⟨.list [], [[refusal]]⟩
  | .ok pairs =>
    ⟨.list (pairs.map fun (key, value) => .pair key.value value.value),
      [] :: innerLevels (pairs.flatMap fun (key, value) => [key, value])⟩

mutual

/-- The content of a node, or the refusal that is met at once. -/
def contentOf : Node → Except Refusal Content
  | .scalar tag text =>
    if isCollection tag then misshapen tag else (Scalar.value tag text).map fun value => ⟨value, []⟩
  | .brokenScalar tag codes =>
    if isCollection tag then misshapen tag else (Scalar.brokenValue tag codes).map fun value => ⟨value, []⟩
  | .sequence tag items =>
    if tag = .sequence then .ok (ofItems (itemContents items))
    else if tag = .orderedMapping ∨ tag = .pairs then .ok (ofPairs (pairContents items))
    else misshapen tag
  | .mapping tag entries =>
    if tag = .mapping ∨ tag = .set then .ok (ofEntries tag (entryContents entries))
    else if isCollection tag then misshapen tag
    else throughValue tag entries
  | .unmergeable => .ok ⟨.map [], [[.malformed]]⟩
  | .ellipsis kind => .ok ⟨.enclosing kind, []⟩
  | .named _ collection => contentOf collection
  | .enclosing _ => .error .malformed

/-- The contents of the items of a sequence. -/
def itemContents : List Node → Except Refusal (List Content)
  | [] => .ok []
  | item :: rest => do return (← contentOf item) :: (← itemContents rest)

/-- The contents of the entries of a mapping, whose keys are checked. -/
def entryContents : List (Node × Node) → Except Refusal (List (Content × Content))
  | [] => .ok []
  | (key, value) :: rest => do
    let key ← contentOf key
    checkKey key
    let value ← contentOf value
    return (key, value) :: (← entryContents rest)

/-- The contents of the entries of mappings that have a single one. -/
def pairContents : List Node → Except Refusal (List (Content × Content))
  | [] => .ok []
  | .mapping _ [(key, value)] :: rest => do
    let key ← contentOf key
    let value ← contentOf value
    return (key, value) :: (← pairContents rest)
  | _ :: _ => .error .malformed

/-- The content of a mapping that stands for a scalar, which is the value of a certain key. It does not stand for a
time. -/
def throughValue (tag : Tag) : List (Node × Node) → Except Refusal Content
  | [] => .error .malformed
  | (key, value) :: rest =>
    if key.tag = .value then
      match value with
      | .scalar _ text =>
        if tag = .time then .error .mappingForTime else (Scalar.value tag text).map fun value => ⟨value, []⟩
      | .brokenScalar _ codes =>
        if tag = .time then .error .mappingForTime else (Scalar.brokenValue tag codes).map fun value => ⟨value, []⟩
      | .mapping _ entries => throughValue tag entries
      | _ => .error .malformed
    else throughValue tag rest

end

/-- The value of a node. -/
def Node.value (node : Node) : Except Refusal Value := do
  let content ← contentOf node.unfolded
  match content.refusals.flatten with
  | refusal :: _ => throw refusal
  | [] => return content.value

end HalfPrecision.Yaml
