import Kitchen.Yaml.Token

/-!
# Nodes

A document as a tree of scalars, sequences and mappings. Aliases stand for the nodes of their
anchors; an alias inside the node of its own anchor stands for nothing that could be written out.
-/

namespace Kitchen.Yaml

/-- A node, with its full tag if it has one. -/
inductive Node where
  | scalar (tag : Option String) (style : Style) (text : String)
  | sequence (tag : Option String) (items : List Node)
  | mapping (tag : Option String) (entries : List (Node × Node))
  /-- An alias inside the node that it stands for. -/
  | cycle
  deriving Repr, Inhabited

/-- The empty plain scalar, which stands where a node is left out. -/
def Node.absent : Node := .scalar none .plain ""

/-- The tokens that are left, the anchors so far (the newest first; the node of an anchor is known
at its end) and the abbreviations for tags. -/
structure TokenStream where
  tokens : List Token
  anchors : List (String × Option Node)
  handles : List (String × String)

namespace TokenStream

/-- The stream behind the next token. -/
def next (s : TokenStream) : TokenStream := { s with tokens := s.tokens.tail }

def peek? (s : TokenStream) : Option Token := s.tokens.head?

/-- The next token is one of some. -/
def isAt (s : TokenStream) (tokens : List Token) : Bool := s.peek?.any tokens.contains

/-! ## Properties -/

/-- The full tag of an abbreviated one. -/
def fullTag? (s : TokenStream) (handle suffix : String) : Option String :=
  if handle.isEmpty then some suffix else (s.handles.lookup handle).map (· ++ suffix)

/-- An anchor and a tag before a node, in any order. -/
def properties (s : TokenStream) : Option (Option String × Option String × TokenStream) :=
  match s.tokens with
  | .anchor name :: .tag handle suffix :: _ =>
    (s.fullTag? handle suffix).map fun tag => (some name, some tag, s.next.next)
  | .tag handle suffix :: .anchor name :: _ =>
    (s.fullTag? handle suffix).map fun tag => (some name, some tag, s.next.next)
  | .anchor name :: _ => some (some name, none, s.next)
  | .tag handle suffix :: _ => (s.fullTag? handle suffix).map fun tag => (none, some tag, s.next)
  | _ => some (none, none, s)

/-- Notes that the node of an anchor begins. -/
def openAnchor (s : TokenStream) (anchor : Option String) : TokenStream :=
  match anchor with
  | some name => { s with anchors := (name, none) :: s.anchors }
  | none => s

/-- Notes the node of an anchor. -/
def closeAnchor (s : TokenStream) (anchor : Option String) (node : Node) : TokenStream :=
  match anchor with
  | some name => { s with anchors := (name, some node) :: s.anchors }
  | none => s

/-! ## Nodes -/

mutual

/-- Reads a node. In a block it may itself be a block; after a key the entries of a sequence need no
indentation. -/
def node (inBlock unindented : Bool) : Nat → TokenStream → Option (Node × TokenStream)
  | 0, _ => none
  | fuel + 1, s =>
    match s.peek? with
    | some (.alias name) => (s.anchors.lookup name).map fun found => (found.getD .cycle, s.next)
    | _ =>
      match s.properties with
      | none => none
      | some (anchor, tag, s) =>
        let mayLack := anchor.isSome || tag.isSome
        match content inBlock unindented fuel tag mayLack (s.openAnchor anchor) with
        | none => none
        | some (node, s) => some (node, s.closeAnchor anchor node)

/-- Reads a node behind its properties. With properties it may be left out. -/
def content (inBlock unindented : Bool) :
    Nat → Option String → Bool → TokenStream → Option (Node × TokenStream)
  | 0, _, _, _ => none
  | fuel + 1, tag, mayLack, s =>
    match s.peek?, inBlock with
    | some .blockEntry, _ =>
      if unindented then
        (entries true fuel s).map fun (items, s) => (.sequence tag items, s)
      else if mayLack then some (.scalar tag .plain "", s)
      else none
    | some (.scalar style text), _ => some (.scalar (tag.filter (· != "!")) style text, s.next)
    | some .flowSequence, _ =>
      (flowItems true fuel s.next).map fun (items, s) => (.sequence tag items, s)
    | some .flowMapping, _ =>
      (flowPairs true fuel s.next).map fun (pairs, s) => (.mapping tag pairs, s)
    | some .blockSequence, true =>
      (entries false fuel s.next).map fun (items, s) => (.sequence tag items, s)
    | some .blockMapping, true =>
      (pairs fuel s.next).map fun (pairs, s) => (.mapping tag pairs, s)
    | _, _ => if mayLack then some (.scalar tag .plain "", s) else none

/-- Reads a node of a block, unless a token shows that it is left out. -/
def blockNode (unindented : Bool) :
    Nat → List Token → TokenStream → Option (Node × TokenStream)
  | 0, _, _ => none
  | fuel + 1, stops, s =>
    if s.tokens.isEmpty || s.isAt stops then some (.absent, s)
    else node true unindented fuel s

/-- Reads the entries of a block sequence. Without indentation they end at the first other token. -/
def entries (unindented : Bool) : Nat → TokenStream → Option (List Node × TokenStream)
  | 0, _ => none
  | fuel + 1, s =>
    match s.peek? with
    | some .blockEntry =>
      let stops :=
        if unindented then [.blockEntry, .key, .value, .blockEnd] else [.blockEntry, .blockEnd]
      match blockNode false fuel stops s.next with
      | none => none
      | some (item, s) => (entries unindented fuel s).map fun (items, s) => (item :: items, s)
    | some .blockEnd => some ([], if unindented then s else s.next)
    | _ => if unindented then some ([], s) else none

/-- Reads the pairs of a block mapping. -/
def pairs : Nat → TokenStream → Option (List (Node × Node) × TokenStream)
  | 0, _ => none
  | fuel + 1, s =>
    match s.peek? with
    | some .blockEnd => some ([], s.next)
    | some .key =>
      match blockNode true fuel [.key, .value, .blockEnd] s.next with
      | none => none
      | some (key, s) => pairValue fuel key s
    | some .value => pairValue fuel .absent s
    | _ => none

/-- Reads the value of a pair and the pairs after it. -/
def pairValue : Nat → Node → TokenStream → Option (List (Node × Node) × TokenStream)
  | 0, _, _ => none
  | fuel + 1, key, s =>
    match s.peek? with
    | some .value =>
      match blockNode true fuel [.key, .value, .blockEnd] s.next with
      | none => none
      | some (value, s) => (pairs fuel s).map fun (rest, s) => ((key, value) :: rest, s)
    | _ => (pairs fuel s).map fun (rest, s) => ((key, .absent) :: rest, s)

/-- Reads a node of a flow collection, unless a token shows that it is left out. -/
def flowNode : Nat → List Token → TokenStream → Option (Node × TokenStream)
  | 0, _, _ => none
  | fuel + 1, stops, s => if s.isAt stops then some (.absent, s) else node false false fuel s

/-- Reads the value of a pair in a flow collection that an indicator closes. -/
def flowValue : Nat → Token → TokenStream → Option (Node × TokenStream)
  | 0, _, _ => none
  | fuel + 1, close, s =>
    match s.peek? with
    | some .value => flowNode fuel [.flowEntry, close] s.next
    | _ => some (.absent, s)

/-- Reads the items of a flow sequence. A key among them makes a mapping of one pair. -/
def flowItems (isFirst : Bool) : Nat → TokenStream → Option (List Node × TokenStream)
  | 0, _ => none
  | fuel + 1, s =>
    if s.isAt [.flowSequenceEnd] then some ([], s.next)
    else if !isFirst && !s.isAt [.flowEntry] then none
    else
      let s := if isFirst then s else s.next
      match s.peek? with
      | some .flowSequenceEnd => some ([], s.next)
      | some .key =>
        match flowItemKey fuel s.next with
        | none => none
        | some (key, s) =>
          match flowValue fuel .flowSequenceEnd s with
          | none => none
          | some (value, s) =>
            (flowItems false fuel s).map fun (items, s) =>
              (.mapping none [(key, value)] :: items, s)
      | _ =>
        match node false false fuel s with
        | none => none
        | some (item, s) => (flowItems false fuel s).map fun (items, s) => (item :: items, s)

/-- Reads the key of a pair in a flow sequence. Where it is left out, the token in its place is
passed over. -/
def flowItemKey : Nat → TokenStream → Option (Node × TokenStream)
  | 0, _ => none
  | fuel + 1, s =>
    if s.isAt [.value, .flowEntry, .flowSequenceEnd] then some (.absent, s.next)
    else node false false fuel s

/-- Reads the pairs of a flow mapping. A node without a key indicator is a key without a value. -/
def flowPairs (isFirst : Bool) : Nat → TokenStream → Option (List (Node × Node) × TokenStream)
  | 0, _ => none
  | fuel + 1, s =>
    if s.isAt [.flowMappingEnd] then some ([], s.next)
    else if !isFirst && !s.isAt [.flowEntry] then none
    else
      let s := if isFirst then s else s.next
      match s.peek? with
      | some .flowMappingEnd => some ([], s.next)
      | some .key =>
        match flowNode fuel [.value, .flowEntry, .flowMappingEnd] s.next with
        | none => none
        | some (key, s) =>
          match flowValue fuel .flowMappingEnd s with
          | none => none
          | some (value, s) =>
            (flowPairs false fuel s).map fun (rest, s) => ((key, value) :: rest, s)
      | _ =>
        match node false false fuel s with
        | none => none
        | some (key, s) => (flowPairs false fuel s).map fun (rest, s) => ((key, .absent) :: rest, s)

end

/-! ## Documents -/

/-- The abbreviations that hold in every document. -/
def standardHandles : List (String × String) := [("!", "!"), ("!!", "tag:yaml.org,2002:")]

/-- Reads the directives of a document. At most one may state the version, and no abbreviation may
be given twice. -/
def directives : List Token → Bool → List (String × String) →
    Option (List (String × String) × List Token)
  | .version major minor :: rest, versioned, handles =>
    if versioned || major ≠ 1 || (minor ≠ 1 && minor ≠ 2) then none
    else directives rest true handles
  | .tagHandle handle full :: rest, versioned, handles =>
    if (handles.lookup handle).isSome then none
    else directives rest versioned ((handle, full) :: handles)
  | tokens, _, handles => some (handles, tokens)

/-- Reads the node of a document that may be left out. -/
def root (fuel : Nat) (s : TokenStream) : Option (Node × TokenStream) :=
  let isLeftOut : Bool := match s.peek? with
    | none => true
    | some (.version _ _) => true
    | some (.tagHandle _ _) => true
    | some token => token == .documentStart || token == .documentEnd
  if isLeftOut then some (.absent, s) else node true false fuel s

/-- Reads a document; after directives its start must be marked. -/
def document (tokens : List Token) : Option (Node × List Token) :=
  let fuel := 4 * tokens.length + 8
  match directives tokens false [] with
  | none => none
  | some (handles, rest) =>
    let s : TokenStream := ⟨rest, [], handles ++ standardHandles⟩
    let read :=
      if s.isAt [.documentStart] then root fuel s.next
      else if rest.length < tokens.length then none
      else node true false fuel s
    read.map fun (node, s) => (node, s.tokens)

end TokenStream

/-- The node of a text with one document, none if the text holds no document. A text of several
documents is refused, and so is one that is not well formed. -/
def Node.ofText? (text : String) : Option (Option Node) :=
  match Token.ofText? text with
  | none => none
  | some tokens =>
    if tokens.isEmpty then some none
    else match TokenStream.document tokens with
      | none => none
      | some (node, rest) =>
        if rest.all (· == .documentEnd) then some (some node) else none

end Kitchen.Yaml
