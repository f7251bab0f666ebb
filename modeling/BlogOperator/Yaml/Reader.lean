import BlogOperator.Yaml.Node
import BlogOperator.Yaml.Token.Lexer

/-!
# Reading documents

`documents` reads the documents of a text, of which there is at least one. A `Reader` goes through
the tokens and builds nodes; where a token does not fit, or the tokens end in a flaw, the nodes that
are still missing are broken.
-/

set_option autoImplicit false

namespace BlogOperator.Yaml

/-- Where in a document a node stands. -/
inductive Context where
  /-- An item of a list, or a whole document. -/
  | item
  /-- A key or a value of a mapping, where a list needs no indentation. -/
  | entry
  /-- In brackets. -/
  | brackets
  deriving DecidableEq, Repr

/-- The tokens ahead, and what the document has said of anchors and tags so far. -/
structure Reader where
  tokens : List PlacedToken
  /-- The names of anchors with the number last given to each. -/
  anchors : List (String × Nat) := []
  /-- What tag handles stand for. -/
  handles : List (String × List UInt8) := []

/-- A part of a document, and the reader behind it. -/
abbrev Part (α : Type) := α × Reader

namespace Reader

/-! ### Tokens -/

/-- The reader behind the next token. -/
def skip (reader : Reader) : Reader :=
  { reader with tokens := reader.tokens.tail }

/-- Ends the document because of a flaw. -/
def fail (reader : Reader) (flaw : Flaw) : Part Node :=
  (.broken flaw, { reader with tokens := [⟨.broken flaw, .start, .start⟩] })

/-- Refuses the next token. -/
def refuse (reader : Reader) (problem : Problem) (during : Option (Activity × Place)) :
    Part Node :=
  match reader.tokens with
  | ⟨.broken flaw, _, _⟩ :: _ => reader.fail flaw
  | ⟨_, start, _⟩ :: _ => reader.fail (.form problem start during)
  | [] => reader.fail (.form problem .start during)

/-- Reads a node, or nothing if the next token is one of those that may follow it. Where nothing is
written, its place is the given one or that of the next token. -/
def nodeBefore (follows : List Token) (place : Option Place) (read : Reader → Part Node)
    (reader : Reader) : Part Node :=
  match reader.tokens with
  | [] => read reader
  | ⟨token, start, _⟩ :: _ =>
    if follows.contains token then (.empty (place.getD start), reader) else read reader

/-- Reads what follows the colon of a value, or nothing if there is no colon. -/
def valueWith (read : (stop : Place) → Reader → Part Node) (reader : Reader) : Part Node :=
  match reader.tokens with
  | ⟨.value, _, stop⟩ :: _ => read stop reader.skip
  | ⟨.broken flaw, _, _⟩ :: _ => reader.fail flaw
  | ⟨_, start, _⟩ :: _ => (.empty start, reader)
  | [] => (.empty .start, reader)

/-! ### Properties -/

/-- The anchor and the tag that are written before a node. -/
structure Announced where
  start : Place
  anchor : Option String := none
  /-- The handle of the tag, its name and its place. -/
  tag : Option (String × List UInt8 × Place) := none

/-- Reads the anchor and the tag of a node, in either order. -/
def announced (reader : Reader) : Part Announced :=
  match reader.tokens with
  | ⟨.anchor anchor, start, _⟩ :: ⟨.tag handle name, place, _⟩ :: _ =>
    ({ start, anchor, tag := some (handle, name, place) }, reader.skip.skip)
  | ⟨.anchor anchor, start, _⟩ :: _ => ({ start, anchor }, reader.skip)
  | ⟨.tag handle name, start, _⟩ :: ⟨.anchor anchor, _, _⟩ :: _ =>
    ({ start, anchor, tag := some (handle, name, start) }, reader.skip.skip)
  | ⟨.tag handle name, start, _⟩ :: _ => ({ start, tag := some (handle, name, start) }, reader.skip)
  | ⟨_, start, _⟩ :: _ => ({ start }, reader)
  | [] => ({ start := .start }, reader)

/-- The handles that need no explanation. -/
def commonHandles : List (String × List UInt8) := [
  ("!", Cursor.bang), ("!!", "tag:yaml.org,2002:".toUTF8.data.toList)]

/-- The tag with a handle and a name. -/
def tagOf (reader : Reader) (start : Place) : String × List UInt8 × Place →
    Except Flaw (List UInt8)
  | ("", name, _) => .ok name
  | (handle, name, place) =>
    match (reader.handles ++ commonHandles).lookup handle with
    | some expansion => .ok (expansion ++ name)
    | none => .error (.form .unknownHandle place (some (.node, start)))

/-- The properties of a node. An anchor gets the number of names in use as its own. -/
def properties (reader : Reader) (announced : Announced) : Except Flaw (Part Properties) := do
  let tag ← announced.tag.mapM (reader.tagOf announced.start)
  match announced.anchor with
  | none => return ({ tag }, reader)
  | some name =>
    let anchor := reader.anchors.length
    let anchors := (name, anchor) :: reader.anchors.filter (·.1 ≠ name)
    return ({ anchor, tag }, { reader with anchors })

/-! ### Nodes -/

/-- Reads an alias. -/
def reference (name : String) (place : Place) (reader : Reader) : Part Node :=
  match reader.anchors.lookup name with
  | some anchor => (.reference place anchor, reader.skip)
  | none => reader.fail (.unknownAnchor place)

mutual

/-- Reads a node. -/
def node : (fuel : Nat) → Context → Reader → Part Node
  | 0, _, reader => reader.refuse .contentExpected none
  | fuel + 1, context, reader =>
    match reader.tokens with
    | ⟨.reference name, place, _⟩ :: _ => reader.reference name place
    | _ =>
      let (announced, reader) := reader.announced
      let start := announced.start
      match reader.tokens.head?.map PlacedToken.token with
      | some (.broken flaw) => reader.fail flaw
      | token =>
        match reader.properties announced with
        | .error flaw => reader.fail flaw
        | .ok (properties, reader) =>
          let list (part : Part (List Node)) : Part Node :=
            (.list start properties part.1, part.2)
          let mapping (part : Part (List (Node × Node))) : Part Node :=
            (.mapping start properties part.1, part.2)
          let here := (reader.tokens.head?.map PlacedToken.start).getD start
          match token, context with
          | some .item, .entry => list (looseItems fuel reader)
          | some (.scalar text style), _ =>
            (.scalar start properties style text, reader.skip)
          | some .flowListStart, _ => list (flowItems fuel here true reader.skip)
          | some .flowMappingStart, _ => mapping (flowEntries fuel here true reader.skip)
          | some .blockListStart, _ => list (blockItems fuel here reader.skip)
          | some .blockMappingStart, _ => mapping (blockEntries fuel here reader.skip)
          | _, context =>
            if announced.anchor.isSome || announced.tag.isSome then
              (.scalar start properties .plain "", reader)
            else
              let activity := if context = .brackets then Activity.flowNode else .blockNode
              reader.refuse .contentExpected (some (activity, start))

/-- Reads the items of a list that is not indented. -/
def looseItems : (fuel : Nat) → Reader → Part (List Node)
  | 0, reader => ([], reader)
  | fuel + 1, reader =>
    match reader.tokens with
    | ⟨.item, _, stop⟩ :: _ =>
      let (item, reader) :=
        reader.skip.nodeBefore [.item, .key, .value, .blockEnd] stop (node fuel .item)
      let (items, reader) := looseItems fuel reader
      (item :: items, reader)
    | ⟨.broken flaw, _, _⟩ :: _ => ([.broken flaw], reader)
    | _ => ([], reader)

/-- Reads the items of a list that begins at `start`. -/
def blockItems : (fuel : Nat) → (start : Place) → Reader → Part (List Node)
  | 0, _, reader => ([], reader)
  | fuel + 1, start, reader =>
    match reader.tokens with
    | ⟨.item, _, stop⟩ :: _ =>
      let (item, reader) := reader.skip.nodeBefore [.item, .blockEnd] stop (node fuel .item)
      let (items, reader) := blockItems fuel start reader
      (item :: items, reader)
    | ⟨.blockEnd, _, _⟩ :: _ => ([], reader.skip)
    | _ =>
      let (broken, reader) := reader.refuse .dashExpected (some (.blockList, start))
      ([broken], reader)

/-- Reads the entries of a mapping that begins at `start`. -/
def blockEntries : (fuel : Nat) → (start : Place) → Reader → Part (List (Node × Node))
  | 0, _, reader => ([], reader)
  | fuel + 1, start, reader =>
    match reader.tokens with
    | ⟨.key, _, stop⟩ :: _ =>
      let part (stop : Place) : Reader → Part Node :=
        nodeBefore [.key, .value, .blockEnd] stop (node fuel .entry)
      let (key, reader) := part stop reader.skip
      let (value, reader) := reader.valueWith part
      let (entries, reader) := blockEntries fuel start reader
      ((key, value) :: entries, reader)
    | ⟨.blockEnd, _, _⟩ :: _ => ([], reader.skip)
    | _ =>
      let (broken, reader) := reader.refuse .keyExpected (some (.blockMapping, start))
      ([(broken, broken)], reader)

/-- Reads the items of a list in brackets that begins at `start`. -/
def flowItems : (fuel : Nat) → (start : Place) → (isFirst : Bool) → Reader → Part (List Node)
  | 0, _, _, reader => ([], reader)
  | fuel + 1, start, isFirst, reader =>
    let item (reader : Reader) : Part (List Node) :=
      match reader.tokens with
      | ⟨.flowListEnd, _, _⟩ :: _ => ([], reader.skip)
      | tokens =>
        let (item, reader) :=
          match tokens with
          | ⟨.key, place, _⟩ :: _ =>
            let (entry, reader) := pair fuel reader.skip
            (.mapping place {} [entry], reader)
          | _ => node fuel .brackets reader
        let (items, reader) := flowItems fuel start false reader
        (item :: items, reader)
    match reader.tokens with
    | ⟨.flowListEnd, _, _⟩ :: _ => ([], reader.skip)
    | ⟨token, _, _⟩ :: _ =>
      if isFirst then item reader
      else if token = .comma then item reader.skip
      else
        let (broken, reader) := reader.refuse .listSeparatorExpected (some (.flowList, start))
        ([broken], reader)
    | [] => ([], reader)

/-- Reads the only entry of a mapping without brackets of its own. Where its key is empty the next
token is passed over. -/
def pair : (fuel : Nat) → Reader → Part (Node × Node)
  | 0, reader => ((.empty .start, .empty .start), reader)
  | fuel + 1, reader =>
    let (key, reader) :=
      match reader.tokens with
      | ⟨token, _, stop⟩ :: _ =>
        if [Token.value, .comma, .flowListEnd].contains token then (Node.empty stop, reader.skip)
        else node fuel .brackets reader
      | [] => (.empty .start, reader)
    let (value, reader) := reader.valueWith fun _ ↦
      nodeBefore [.comma, .flowListEnd] none (node fuel .brackets)
    ((key, value), reader)

/-- Reads the entries of a mapping in brackets that begins at `start`. -/
def flowEntries : (fuel : Nat) → (start : Place) → (isFirst : Bool) → Reader →
    Part (List (Node × Node))
  | 0, _, _, reader => ([], reader)
  | fuel + 1, start, isFirst, reader =>
    let entry (reader : Reader) : Part (List (Node × Node)) :=
      match reader.tokens with
      | ⟨.flowMappingEnd, _, _⟩ :: _ => ([], reader.skip)
      | ⟨.key, _, _⟩ :: _ =>
        let (key, reader) := reader.skip.nodeBefore [.value, .comma, .flowMappingEnd] none
          (node fuel .brackets)
        let (value, reader) := reader.valueWith fun _ ↦
          nodeBefore [.comma, .flowMappingEnd] none (node fuel .brackets)
        let (entries, reader) := flowEntries fuel start false reader
        ((key, value) :: entries, reader)
      | _ =>
        let (key, reader) := node fuel .brackets reader
        let value := match reader.tokens with
          | ⟨.broken flaw, _, _⟩ :: _ => .broken flaw
          | ⟨_, start, _⟩ :: _ => .empty start
          | [] => .empty .start
        let (entries, reader) := flowEntries fuel start false reader
        ((key, value) :: entries, reader)
    match reader.tokens with
    | ⟨.flowMappingEnd, _, _⟩ :: _ => ([], reader.skip)
    | ⟨token, _, _⟩ :: _ =>
      if isFirst then entry reader
      else if token = .comma then entry reader.skip
      else
        let (broken, reader) :=
          reader.refuse .mappingSeparatorExpected (some (.flowMapping, start))
        ([(broken, broken)], reader)
    | [] => ([], reader)

end

/-! ### Documents -/

/-- Reads the directives in front of a document: the handles they explain, and what follows. -/
def directives : (hasVersion : Bool) → (handles : List (String × List UInt8)) →
    List PlacedToken → Except Flaw (List (String × List UInt8) × List PlacedToken)
  | hasVersion, handles, ⟨.version major minor, place, _⟩ :: rest =>
    if hasVersion then .error (.form .repeatedVersion place none)
    else if major ≠ 1 || (minor ≠ 1 && minor ≠ 2) then
      .error (.form .otherVersion place none)
    else directives true handles rest
  | hasVersion, handles, ⟨.handle name expansion, place, _⟩ :: rest =>
    if (handles.lookup name).isSome then .error (.form .repeatedHandle place none)
    else directives hasVersion ((name, expansion) :: handles) rest
  | _, handles, tokens => .ok (handles, tokens)

/-- Whether a token belongs to the beginning of a document rather than to its content. -/
def isOpening : Token → Bool
  | .version _ _ => true
  | .handle _ _ => true
  | .documentStart => true
  | _ => false

/-- Whether a document without content ends before a token. -/
def isOutside (token : Token) : Bool :=
  isOpening token || token = .documentEnd || token = .textEnd

/-- Reads a document from its directives or its mark on. -/
def openedDocument (fuel : Nat) (reader : Reader) : Part Node :=
  match directives false [] reader.tokens with
  | .error flaw => reader.fail flaw
  | .ok (handles, tokens) =>
    let reader := { reader with handles, tokens }
    match tokens with
    | ⟨.documentStart, _, _⟩ :: ⟨token, start, _⟩ :: _ =>
      if isOutside token then (.empty start, reader.skip) else node fuel .item reader.skip
    | _ => reader.refuse .documentStartExpected none

/-- Reads the documents ahead. Only the first one needs no mark. -/
def documents : (fuel : Nat) → (isFirst : Bool) → Reader → List Document
  | 0, _, _ => []
  | fuel + 1, isFirst, reader =>
    let tokens :=
      if isFirst then reader.tokens else reader.tokens.dropWhile (·.token = .documentEnd)
    let reader : Reader := { tokens }
    match tokens with
    | [] => []
    | ⟨.broken flaw, _, _⟩ :: _ => [.broken flaw]
    | ⟨.textEnd, start, _⟩ :: _ => if isFirst then [⟨.empty start, none⟩] else []
    | ⟨token, _, _⟩ :: _ =>
      let (root, reader) :=
        if isFirst && !isOpening token then node (3 * tokens.length) .item reader
        else openedDocument (3 * tokens.length) reader
      match reader.tokens with
      | ⟨.broken flaw, _, _⟩ :: _ => [⟨root, some flaw⟩]
      | ⟨.documentEnd, _, _⟩ :: _ => ⟨root, none⟩ :: documents fuel false reader.skip
      | _ => ⟨root, none⟩ :: documents fuel false reader

end Reader

/-- The documents of a text, at least one. They end with the first that is not well formed. -/
def documents (text : String) : List Document :=
  let characters := text.toList
  match forbidden? characters with
  | some bytes => [.broken (.forbidden bytes)]
  | none =>
    let tokens := tokens characters
    Reader.documents (tokens.length + 1) true { tokens }

end BlogOperator.Yaml
