import InterestMux.Document.Yaml.Layout
import InterestMux.Document.Yaml.Node

/-!
# YAML documents

`Yaml.read?` reads the nodes of all documents of a text: block and flow collections, scalars of
every style, anchors with aliases, tags and directives. The functions below follow the grammar of
tokens; each answers with what it read and what follows.
-/

namespace InterestMux.Yaml

/-- The tokens left, and what is known from those before. -/
structure Reader where
  tokens : List Token
  /-- The numbers of the anchors of the document, the latest first. -/
  anchors : List (String × Nat) := []
  /-- The nodes of anchors whose nodes are complete. -/
  nodes : List (Nat × Node) := []
  /-- The number of the next anchor. -/
  next : Nat := 1
  /-- What the handles of tags stand for. -/
  handles : List (String × String) := []

namespace Reader

/-- The reader with other tokens left. -/
def rest (r : Reader) (tokens : List Token) : Reader :=
  { r with tokens }

/-- Numbers an anchor. -/
def anchor (r : Reader) (name : String) : Nat × Reader :=
  (r.next, { r with anchors := (name, r.next) :: r.anchors, next := r.next + 1 })

/-- Keeps the node of an anchor, if it has one. -/
def keep (r : Reader) (number : Option Nat) (node : Node) : Node × Reader :=
  match number with
  | some n => (node, { r with nodes := (n, node) :: r.nodes })
  | none => (node, r)

/-- The node of an alias. The anchor must have come before. -/
def alias? (r : Reader) (name : String) : Option Node :=
  (r.anchors.lookup name).map fun n => (r.nodes.lookup n).getD .unresolved

/-- What the handle of a tag stands for, with what follows it. A handle between two marks must have
been declared, but for that of the common tags. -/
def tag? (r : Reader) (handle suffix : String) : Option (String × String) :=
  match r.handles.lookup handle with
  | some meaning => some (meaning, suffix)
  | none =>
    if handle = "!!" then some (Node.common, suffix)
    else if 2 ≤ handle.length ∧ handle.toList.getLast? = some '!' then none
    else some (handle, suffix)

/-- The anchor and the tag in front of a node, in either order. -/
def properties? (r : Reader) : Option (Option Nat × Option (String × String) × Reader) :=
  match r.tokens with
  | .anchor name :: .tag handle suffix :: ts | .tag handle suffix :: .anchor name :: ts =>
    (r.tag? handle suffix).map fun tag =>
      let (n, r) := (r.rest ts).anchor name
      (some n, some tag, r)
  | .anchor name :: ts =>
    let (n, r) := (r.rest ts).anchor name
    some (some n, none, r)
  | .tag handle suffix :: ts => (r.tag? handle suffix).map fun tag => (none, some tag, r.rest ts)
  | _ => some (none, none, r)

/-- No node comes next, in a block collection. -/
def lacksBlockNode : List Token → Bool
  | .item :: _ | .key :: _ | .value :: _ | .blockEnd :: _ => true
  | _ => false

/-- No key or value comes next, in a block map. -/
def lacksMember : List Token → Bool
  | .key :: _ | .value :: _ | .blockEnd :: _ => true
  | _ => false

/-- No item comes next, in a block list. -/
def lacksItem : List Token → Bool
  | .item :: _ | .blockEnd :: _ => true
  | _ => false

/-- A list of items that were read. -/
def list? (read : Option (List Node × Reader)) : Option (Node × Reader) :=
  read.map fun (nodes, r) => (.list nodes, r)

/-- A map of keys and values that were read. -/
def map? (read : Option (List Node × Reader)) : Option (Node × Reader) :=
  read.bind fun (nodes, r) => (Node.ofMembers? nodes).map fun node => (node, r)

mutual

/-- A node, which may be a block collection, or a list as far to the left as its key. -/
def node? (block loose : Bool) : Nat → Reader → Option (Node × Reader)
  | 0, _ => none
  | fuel + 1, r =>
    match r.tokens with
    | .alias name :: ts => (r.alias? name).map fun node => (node, r.rest ts)
    | _ => do
      let (number, tag, r) ← r.properties?
      let bare : Option (Node × Reader) :=
        if number.isSome || tag.isSome then some (Node.ofScalar true tag "", r) else none
      let (node, r) ←
        match r.tokens with
        | .scalar isPlain s :: ts => some (Node.ofScalar isPlain tag s, r.rest ts)
        | .flowList :: ts => list? (flowItems? true fuel (r.rest ts))
        | .flowMap :: ts => map? (flowMembers? true fuel (r.rest ts))
        | .item :: _ => if loose then list? (looseItems? fuel r) else bare
        | .blockList :: ts => if block then list? (blockItems? fuel (r.rest ts)) else bare
        | .blockMap :: ts => if block then map? (blockMembers? fuel (r.rest ts)) else bare
        | _ => bare
      some (r.keep number node)

/-- The items of a block list up to its end. -/
def blockItems? : Nat → Reader → Option (List Node × Reader)
  | 0, _ => none
  | fuel + 1, r =>
    match r.tokens with
    | .blockEnd :: ts => some ([], r.rest ts)
    | .item :: ts => do
      let (node, r) ←
        if lacksItem ts then some (.null, r.rest ts) else node? true false fuel (r.rest ts)
      (blockItems? fuel r).map fun (nodes, r) => (node :: nodes, r)
    | _ => none

/-- The items of a list as far to the left as its key. -/
def looseItems? : Nat → Reader → Option (List Node × Reader)
  | 0, _ => none
  | fuel + 1, r =>
    match r.tokens with
    | .item :: ts => do
      let (node, r) ←
        if lacksBlockNode ts then some (.null, r.rest ts) else node? true false fuel (r.rest ts)
      (looseItems? fuel r).map fun (nodes, r) => (node :: nodes, r)
    | _ => some ([], r)

/-- The keys and values of a block map in turn, up to its end. -/
def blockMembers? : Nat → Reader → Option (List Node × Reader)
  | 0, _ => none
  | fuel + 1, r => do
    let (key, r) ←
      match r.tokens with
      | .blockEnd :: ts => some (none, r.rest ts)
      | .value :: _ => some (some .null, r)
      | .key :: ts =>
        if lacksMember ts then some (some .null, r.rest ts)
        else (node? true true fuel (r.rest ts)).map fun (key, r) => (some key, r)
      | _ => none
    match key with
    | none => some ([], r)
    | some key =>
      let (value, r) ←
        match r.tokens with
        | .value :: ts =>
          if lacksMember ts then some (.null, r.rest ts) else node? true true fuel (r.rest ts)
        | _ => some (.null, r)
      (blockMembers? fuel r).map fun (nodes, r) => (key :: value :: nodes, r)

/-- The items of a flow list up to its end, with a comma in front of each but the first. -/
def flowItems? (first : Bool) : Nat → Reader → Option (List Node × Reader)
  | 0, _ => none
  | fuel + 1, r =>
    match first, r.tokens with
    | _, .flowListEnd :: ts => some ([], r.rest ts)
    | true, _ => flowItem? fuel r
    | false, .comma :: ts => flowItem? fuel (r.rest ts)
    | false, _ => none

/-- An item of a flow list and all after it, or the end of the list. -/
def flowItem? : Nat → Reader → Option (List Node × Reader)
  | 0, _ => none
  | fuel + 1, r =>
    match r.tokens with
    | .flowListEnd :: ts => some ([], r.rest ts)
    | .key :: ts => do
      let (key, r) ←
        match ts with
        | .value :: ts | .comma :: ts | .flowListEnd :: ts => some (.null, r.rest ts)
        | ts => node? false false fuel (r.rest ts)
      let (value, r) ←
        match r.tokens with
        | .value :: ts =>
          match ts with
          | .comma :: _ | .flowListEnd :: _ => some (.null, r.rest ts)
          | ts => node? false false fuel (r.rest ts)
        | _ => some (.null, r)
      let node ← Node.ofMembers? [key, value]
      (flowItems? false fuel r).map fun (nodes, r) => (node :: nodes, r)
    | _ => do
      let (node, r) ← node? false false fuel r
      (flowItems? false fuel r).map fun (nodes, r) => (node :: nodes, r)

/-- The keys and values of a flow map in turn, up to its end, with a comma in front of each key but
the first. -/
def flowMembers? (first : Bool) : Nat → Reader → Option (List Node × Reader)
  | 0, _ => none
  | fuel + 1, r =>
    match first, r.tokens with
    | _, .flowMapEnd :: ts => some ([], r.rest ts)
    | true, _ => flowMember? fuel r
    | false, .comma :: ts => flowMember? fuel (r.rest ts)
    | false, _ => none

/-- A key of a flow map with its value and all after it, or the end of the map. A node without the
mark of a key has no value. -/
def flowMember? : Nat → Reader → Option (List Node × Reader)
  | 0, _ => none
  | fuel + 1, r =>
    match r.tokens with
    | .flowMapEnd :: ts => some ([], r.rest ts)
    | .value :: _ => flowValue? .null fuel r
    | .key :: ts =>
      match ts with
      | .value :: _ | .comma :: _ | .flowMapEnd :: _ => flowValue? .null fuel (r.rest ts)
      | _ => (node? false false fuel (r.rest ts)).bind fun (key, r) => flowValue? key fuel r
    | _ => do
      let (key, r) ← node? false false fuel r
      (flowMembers? false fuel r).map fun (nodes, r) => (key :: .null :: nodes, r)

/-- The value of a key of a flow map, and all after it. -/
def flowValue? (key : Node) : Nat → Reader → Option (List Node × Reader)
  | 0, _ => none
  | fuel + 1, r => do
    let (value, r) ←
      match r.tokens with
      | .value :: ts =>
        match ts with
        | .comma :: _ | .flowMapEnd :: _ => some (.null, r.rest ts)
        | ts => node? false false fuel (r.rest ts)
      | _ => some (.null, r)
    (flowMembers? false fuel r).map fun (nodes, r) => (key :: value :: nodes, r)

end

/-! ### Documents -/

/-- The meaning of handles after the directives of a document, of which the last counts. There is
at most one with a version. -/
def directives? (versioned : Bool) (handles : List (String × String)) :
    List Token → Option (List (String × String) × List Token)
  | .version :: ts => if versioned then none else directives? true [] ts
  | .handle name meaning :: ts => directives? versioned [(name, meaning)] ts
  | ts => some (handles, ts)

/-- A document starts with a directive or with its mark. -/
def startsMarked : List Token → Bool
  | .version :: _ | .handle .. :: _ | .documentStart :: _ => true
  | _ => false

/-- The node of a document with a mark at its start, if there is one between its marks. -/
def marked? (fuel : Nat) (r : Reader) : Option (Node × Reader) :=
  match directives? false r.handles r.tokens with
  | some (handles, .documentStart :: ts) =>
    let r := { r with handles, tokens := ts }
    if ts.isEmpty || startsMarked ts || ts.head? == some .documentEnd then some (.null, r)
    else node? true false fuel r
  | _ => none

/-- The nodes of all documents. Only the first document and one after a mark of an end may lack a
mark at its start, and directives come after a mark of an end. -/
def documents? (bare : Bool) : Nat → Reader → Option (List Node)
  | 0, _ => none
  | fuel + 1, r =>
    let r := r.rest (r.tokens.dropWhile (· == .documentEnd))
    if r.tokens.isEmpty then some []
    else do
      let r := { r with anchors := [] }
      let (node, r) ←
        if startsMarked r.tokens then r.marked? fuel
        else if bare then node? true false fuel r
        else none
      let r := { r with handles := [] }
      match r.tokens with
      | .documentEnd :: ts => (documents? true fuel (r.rest ts)).map (node :: ·)
      | .version :: _ | .handle .. :: _ => none
      | _ => (documents? false fuel r).map (node :: ·)

end Reader

open Reader in
/-- The nodes of the documents that a text consists of. -/
def read? (s : String) : Option (List Node) :=
  (Layout.tokens? s).bind fun tokens =>
    documents? true (4 * tokens.length + 4) { tokens }

end InterestMux.Yaml
