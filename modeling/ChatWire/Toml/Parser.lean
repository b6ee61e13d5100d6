import ChatWire.Toml.Scalar

namespace ChatWire.Toml

namespace Assembly

/-- A tree of tables under assembly. -/
inductive Tree where
  /-- A value written in place: a scalar, an array or an inline table. -/
  | leaf (node : Node)
  /-- A table: `implicit` when only created on the way to another, `dotted` when
      created by dotted keys. -/
  | table (implicit dotted : Bool) (entries : List (String × Tree)) (span : Span)
  /-- An array of tables, each with the span of its header. -/
  | tables (items : List (List (String × Tree) × Span)) (span : Span)
deriving Inhabited

/-- Entries of a table under assembly. -/
abbrev Entries := List (String × Tree)

/-- Replaces or adds an entry. -/
def setEntry (entries : Entries) (key : String) (t : Tree) : Entries :=
  if entries.any (·.1 == key) then entries.map fun (k, v) => if k == key then (k, t) else (k, v)
  else entries ++ [(key, t)]

/-- An error at a key. -/
def errorAt (message : String) (span : Span) : TomlError :=
  { message, span := some span }

/-- The error for a path through a value that is not a table: an inline table is
    complete as written, so going into it redefines a key; any other value is named
    by its type. -/
def cannotExtend (n : Node) (span : Span) : TomlError :=
  match n with
  | .table .. => errorAt "duplicate key" span
  | other => errorAt ("cannot extend value of type " ++ other.typeName ++ " with a dotted key") span

/-- Follows a path of keys from a table, creating the tables that are missing, and
    applies a change to the table at its end, which also gives a result. `f` learns
    whether that table was created by dotted keys. With `dotted`, the path may not go
    into a table defined by a header. -/
def descend (dotted : Bool) (f : Bool → Entries → Except TomlError (Entries × α)) :
    List (String × Span) → Bool → Entries → Except TomlError (Entries × α)
  | [], isDotted, entries => f isDotted entries
  | (k, sp) :: rest, _, entries =>
    match entries.lookup k with
    | none => do
      let (inner, a) ← descend dotted f rest dotted []
      return (entries ++ [(k, .table true dotted inner sp)], a)
    | some (.table implicit d inner tsp) =>
      if dotted && !implicit then .error (errorAt "duplicate key" sp) else do
      let (inner, a) ← descend dotted f rest d inner
      return (setEntry entries k (.table implicit d inner tsp), a)
    | some (.tables items tsp) =>
      match items.getLast? with
      | some (inner, isp) => do
        let (inner, a) ← descend dotted f rest false inner
        return (setEntry entries k (.tables (items.dropLast ++ [(inner, isp)]) tsp), a)
      | none => .error (errorAt "duplicate key" sp)
    | some (.leaf n) => .error (cannotExtend n sp)

/-- Sets a key, possibly dotted, to a value in a table. -/
def insertValue (value : Node) (keys : List (String × Span)) (entries : Entries) :
    Except TomlError Entries :=
  match keys.getLast? with
  | none => .ok entries
  | some (k, sp) =>
    let prefix_ := keys.dropLast
    (descend true (fun isDotted entries =>
      if isDotted == prefix_.isEmpty || entries.any (·.1 == k) then .error (errorAt "duplicate key" sp)
      else .ok (entries ++ [(k, .leaf value)], ())) prefix_ false entries).map (·.1)

/-- A header whose table is being filled: whether it adds to an array of tables, its
    keys and its span. -/
structure Header where
  array : Bool
  keys : List (String × Span)
  span : Span

/-- Assembly so far: the tables put in place, the table being filled, and the header
    it belongs to, `none` while the root table is filled. -/
structure State where
  root : Entries := []
  current : Entries := []
  header : Option Header := none

/-- Puts the table being filled in its place, giving the root table. A plain table
    fills the place its header left; a table of an array of tables is added to the
    array, which fails if anything else has that name. -/
def finalize (s : State) : Except TomlError Entries :=
  match s.header with
  | none => .ok s.current
  | some h =>
    match h.keys.getLast? with
    | none => .ok s.root
    | some (k, sp) =>
      (descend false (fun _ entries =>
        match entries.lookup k, h.array with
        | none, true => .ok (entries ++ [(k, .tables [(s.current, h.span)] h.span)], ())
        | some (.tables items tsp), true =>
          .ok (setEntry entries k (.tables (items ++ [(s.current, h.span)]) tsp), ())
        | none, false => .ok (entries ++ [(k, .table false false s.current h.span)], ())
        | some (.table true _ _ _), false =>
          .ok (setEntry entries k (.table false false s.current h.span), ())
        | _, _ => .error (errorAt "duplicate key" sp)) h.keys.dropLast false s.root).map (·.1)

/-- Starts filling the table of a header. A plain header takes over the table already
    created under its name on the way to other headers, with what it holds, and fails
    on anything else defined there. -/
def start (h : Header) (root : Entries) : Except TomlError State :=
  match h.array, h.keys.getLast? with
  | false, some (k, sp) => do
    let (root, current) ← descend false (fun _ entries =>
      match entries.lookup k with
      | none => .ok (entries, [])
      | some (.table true false inner _) => .ok (entries.filter (·.1 != k), inner)
      | some _ => .error (errorAt "duplicate key" sp)) h.keys.dropLast false root
    return { root, current, header := some h }
  | _, _ => .ok { root, header := some h }

/-- Inserts a member into a list kept sorted by key. -/
def insertSorted (k : String) (n : Node) : List (String × Node) → List (String × Node)
  | [] => [(k, n)]
  | (k', n') :: rest => if k < k' then (k, n) :: (k', n') :: rest else (k', n') :: insertSorted k n rest

mutual

/-- The node of an assembled tree. -/
def Tree.toNode : Tree → Node
  | .leaf n => n
  | .table _ _ entries span => .table (entriesToNode entries) span
  | .tables items span => .array (itemsToNodes items) span

/-- The members of assembled entries, sorted by key. -/
def entriesToNode : Entries → List (String × Node)
  | [] => []
  | (k, t) :: rest => insertSorted k t.toNode (entriesToNode rest)

/-- The tables of an array of tables. -/
def itemsToNodes : List (Entries × Span) → List Node
  | [] => []
  | (entries, span) :: rest => .table (entriesToNode entries) span :: itemsToNodes rest

end

/-- The texts of keys, with their spans. -/
def keysOf (pieces : List Piece) : Except TomlError (List (String × Span)) :=
  pieces.mapM fun p => return (← p.key, ⟨p.start, p.stop⟩)

mutual

/-- The node of a value. -/
def valueNode : ValueSyntax → Except TomlError Node
  | .scalar p => p.scalar
  | .array items start stop => do
    let nodes ← itemNodes items
    return .array nodes ⟨start, stop⟩
  | .inlineTable entries start stop => do
    let members ← inlineEntries entries []
    return .table (entriesToNode members) ⟨start, stop⟩

/-- The nodes of array items. -/
def itemNodes : List ValueSyntax → Except TomlError (List Node)
  | [] => .ok []
  | v :: rest => do
    let n ← valueNode v
    return n :: (← itemNodes rest)

/-- The members of an inline table. -/
def inlineEntries : List (List Piece × ValueSyntax) → Entries → Except TomlError Entries
  | [], acc => .ok acc
  | (pieces, v) :: rest, acc => do
    let keys ← keysOf pieces
    let n ← valueNode v
    let acc ← insertValue n keys acc
    inlineEntries rest acc

end

/-- Assembles expressions into the root table. -/
def assemble : List Expression → State → Except TomlError Entries
  | [], s => finalize s
  | .header array pieces first last :: rest, s => do
    let keys ← keysOf pieces
    let root ← finalize s
    let s ← start { array, keys, span := ⟨first, last⟩ } root
    assemble rest s
  | .keyValue pieces v :: rest, s => do
    let keys ← keysOf pieces
    let n ← valueNode v
    let current ← insertValue n keys s.current
    assemble rest { s with current }

end Assembly

/-- Reads a TOML document into its root table. -/
def parseDocument (text : String) : Except TomlError Node := do
  let expressions ← Expression.parseAll text
  let root ← Assembly.assemble expressions {}
  return .table (Assembly.entriesToNode root) ⟨0, text.utf8ByteSize⟩

end ChatWire.Toml
