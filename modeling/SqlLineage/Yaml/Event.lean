import SqlLineage.Yaml.Scanner

/-! The events of YAML text: scalars, and the starts and ends of sequences, mappings and
documents. -/

namespace SqlLineage.Yaml

inductive EventKind
  | streamStart
  | streamEnd
  | documentStart
  | documentEnd
  | alias (name : String)
  /-- A plain scalar stands without quotes. -/
  | scalar (text : String) (plain : Bool)
  | sequenceStart
  | sequenceEnd
  | mappingStart
  | mappingEnd
  deriving DecidableEq, Repr

structure Event where
  kind : EventKind
  mark : Mark
  anchor : Option String := none
  tag : Option String := none
  deriving DecidableEq, Repr

/-- What may come next. -/
inductive Expecting
  | stream
  | document (implicit : Bool)
  | documentContent
  | documentEnd
  | blockNode
  | blockEntry (first : Bool)
  | indentlessEntry
  | blockKey (first : Bool)
  | blockValue
  | flowEntry (first : Bool)
  | pairKey
  | pairValue
  | pairEnd
  | flowKey (first : Bool)
  | flowValue (empty : Bool)
  | nothing
  deriving DecidableEq, Repr

structure Reader where
  scanner : Scanner
  state : Expecting := .stream
  /-- What to return to, the innermost first. -/
  states : List Expecting := []
  /-- Where the collections in progress start. -/
  marks : List Mark := []
  tags : List (String × String) := []

abbrev Read := StateT Reader (Except SyntaxError)

namespace Read

def scan {α : Type} (p : Scan α) : Read α := do
  let r ← get
  let (a, scanner) ← p.run r.scanner
  set { r with scanner := scanner }
  return a

def token : Read Token := scan Scan.token

def pop : Read Unit := scan Scan.pop

def goto (state : Expecting) : Read Unit := modify fun r => { r with state := state }

def returnTo (state : Expecting) : Read Unit :=
  modify fun r => { r with states := state :: r.states }

/-- Goes back to what was in progress. -/
def finish : Read Unit :=
  modify fun r => { r with state := r.states.headD .nothing, states := r.states.drop 1 }

def pushMark (mark : Mark) : Read Unit := modify fun r => { r with marks := mark :: r.marks }

def popMark : Read Mark := do
  let r ← get
  set { r with marks := r.marks.drop 1 }
  return r.marks.headD {}

def emptyScalar (mark : Mark) : Event := ⟨.scalar "" true, mark, none, none⟩

def missing {α : Type} (problem context : String) (mark : Mark) : Read α := do
  let start ← popMark
  throw ⟨problem, mark, some (context, start)⟩

/-- The start of a collection is where its first token is. -/
def enter (first : Bool) : Read Unit := do
  if first then
    pushMark (← token).start
    pop

/-- The end of a collection. -/
def leave (kind : EventKind) (mark : Mark) : Read Event := do
  finish
  let _ ← popMark
  pop
  return { kind := kind, mark := mark }

def defaultTags : List (String × String) := [("!", "!"), ("!!", "tag:yaml.org,2002:")]

def resolveTag (start : Mark) (mark : Mark) (handle suffix : String) : Read String := do
  if handle.isEmpty then return suffix
  match ((← get).tags ++ defaultTags).lookup handle with
  | some tagStart => return tagStart ++ suffix
  | none => throw ⟨"found undefined tag handle", mark, some ("while parsing a node", start)⟩

structure Properties where
  start : Mark
  anchor : Option String := none
  tag : Option (String × String × Mark) := none

/-- An anchor and a tag before a node, in either order. -/
def properties (start : Mark) : Read Properties := do
  let one (p : Properties) : Read Properties := do
    let t ← token
    match t.kind with
    | .anchor name =>
      if p.anchor.isSome then return p
      pop
      return { p with anchor := some name }
    | .tag handle suffix =>
      if p.tag.isSome then return p
      pop
      return { p with tag := some (handle, suffix, t.start) }
    | _ => return p
  one (← one ⟨start, none, none⟩)

/-- A node; `block` where blocks may start, `indentless` where a sequence need not be further in. -/
def node (block indentless : Bool) : Read Event := do
  let t ← token
  match t.kind with
  | .alias name =>
    finish
    pop
    return { kind := .alias name, mark := t.start }
  | _ =>
    let p ← properties t.start
    let tag ← match p.tag with
      | none => pure none
      | some (handle, suffix, mark) => some <$> resolveTag p.start mark handle suffix
    let event (kind : EventKind) : Event := ⟨kind, p.start, p.anchor, tag⟩
    let t ← token
    match t.kind with
    | .scalar text plain =>
      finish
      pop
      -- the mark of a tag alone says nothing about a scalar
      return ⟨.scalar text plain, p.start, p.anchor, if tag == some "!" then none else tag⟩
    | .flowSequenceStart =>
      goto (.flowEntry true)
      return event .sequenceStart
    | .flowMappingStart =>
      goto (.flowKey true)
      return event .mappingStart
    | kind =>
      if indentless && kind == .blockEntry then
        goto .indentlessEntry
        return event .sequenceStart
      if block && kind == .blockSequenceStart then
        goto (.blockEntry true)
        return event .sequenceStart
      if block && kind == .blockMappingStart then
        goto (.blockKey true)
        return event .mappingStart
      if p.anchor.isSome || tag.isSome then
        finish
        return event (.scalar "" true)
      let context := if block then "while parsing a block node" else "while parsing a flow node"
      throw ⟨"did not find expected node content", t.start, some (context, p.start)⟩

/-- A node that is left out before one of `ends`. -/
def nodeUnless (ends : List TokenKind) (back : Expecting) (mark : Mark)
    (block indentless : Bool) : Read Event := do
  if ends.contains (← token).kind then
    goto back
    return emptyScalar mark
  returnTo back
  node block indentless

/-- The version and the tag handles of a document; each is given once. -/
def directives (versioned : Bool) : Nat → Read Unit
  | 0 => return ()
  | fuel + 1 => do
    let t ← token
    match t.kind with
    | .versionDirective major minor =>
      if versioned then throw ⟨"found duplicate %YAML directive", t.start, none⟩
      if major != 1 || (minor != 1 && minor != 2) then
        throw ⟨"found incompatible YAML document", t.start, none⟩
      pop
      directives true fuel
    | .tagDirective handle tagStart =>
      if ((← get).tags.lookup handle).isSome then
        throw ⟨"found duplicate %TAG directive", t.start, none⟩
      pop
      modify fun r => { r with tags := (handle, tagStart) :: r.tags }
      directives versioned fuel
    | _ => return ()

def documentEnds : Nat → Read Unit
  | 0 => return ()
  | fuel + 1 => do
    if (← token).kind == .documentEnd then
      pop
      documentEnds fuel

def isDirective : TokenKind → Bool
  | .versionDirective .. | .tagDirective .. => true
  | _ => false

def document (implicit : Bool) : Read Event := do
  let fuel := (← get).scanner.rest.length + 2
  if !implicit then documentEnds fuel
  let t ← token
  if t.kind == .streamEnd then
    goto .nothing
    pop
    return { kind := .streamEnd, mark := t.start }
  if implicit && !isDirective t.kind && t.kind != .documentStart then
    returnTo .documentEnd
    goto .blockNode
    return { kind := .documentStart, mark := t.start }
  directives false fuel
  let opening ← token
  if opening.kind != .documentStart then
    throw ⟨"did not find expected <document start>", opening.start, none⟩
  returnTo .documentEnd
  goto .documentContent
  pop
  return { kind := .documentStart, mark := t.start }

def flowSequence (first : Bool) : Read Event := do
  enter first
  let t ← token
  if t.kind == .flowSequenceEnd then return ← leave .sequenceEnd t.start
  if !first then
    if t.kind != .flowEntry then
      missing "did not find expected ',' or ']'" "while parsing a flow sequence" t.start
    pop
  let t ← token
  if t.kind == .key then
    goto .pairKey
    pop
    return { kind := .mappingStart, mark := t.start }
  if t.kind == .flowSequenceEnd then return ← leave .sequenceEnd t.start
  returnTo (.flowEntry false)
  node false false

def flowMapping (first : Bool) : Read Event := do
  enter first
  let t ← token
  if t.kind == .flowMappingEnd then return ← leave .mappingEnd t.start
  if !first then
    if t.kind != .flowEntry then
      missing "did not find expected ',' or '\x7d'" "while parsing a flow mapping" t.start
    pop
  let t ← token
  if t.kind == .key then
    pop
    let mark := (← token).start
    return ← nodeUnless [.value, .flowEntry, .flowMappingEnd] (.flowValue false) mark false false
  if t.kind == .flowMappingEnd then return ← leave .mappingEnd t.start
  returnTo (.flowValue true)
  node false false

/-- The next event. -/
def next : Read Event := do
  match (← get).state with
  | .stream =>
    let t ← token
    pop
    goto (.document true)
    return { kind := .streamStart, mark := t.start }
  | .document implicit => document implicit
  | .documentContent =>
    let t ← token
    let ends := [TokenKind.documentStart, .documentEnd, .streamEnd]
    if isDirective t.kind || ends.contains t.kind then
      finish
      return emptyScalar t.start
    node true false
  | .documentEnd =>
    let t ← token
    if t.kind == .documentEnd then pop
    modify fun r => { r with tags := [], state := .document false }
    return { kind := .documentEnd, mark := t.start }
  | .blockNode => node true false
  | .blockEntry first =>
    enter first
    let t ← token
    if t.kind == .blockEntry then
      pop
      nodeUnless [.blockEntry, .blockEnd] (.blockEntry false) t.stop true false
    else if t.kind == .blockEnd then leave .sequenceEnd t.start
    else missing "did not find expected '-' indicator" "while parsing a block collection" t.start
  | .indentlessEntry =>
    let t ← token
    if t.kind == .blockEntry then
      pop
      nodeUnless [.blockEntry, .key, .value, .blockEnd] .indentlessEntry t.stop true false
    else
      finish
      return { kind := .sequenceEnd, mark := t.start }
  | .blockKey first =>
    enter first
    let t ← token
    if t.kind == .key then
      pop
      nodeUnless [.key, .value, .blockEnd] .blockValue t.stop true true
    else if t.kind == .blockEnd then leave .mappingEnd t.start
    else missing "did not find expected key" "while parsing a block mapping" t.start
  | .blockValue =>
    let t ← token
    if t.kind == .value then
      pop
      nodeUnless [.key, .value, .blockEnd] (.blockKey false) t.stop true true
    else
      goto (.blockKey false)
      return emptyScalar t.start
  | .flowEntry first => flowSequence first
  | .pairKey =>
    let t ← token
    if [TokenKind.value, .flowEntry, .flowSequenceEnd].contains t.kind then
      pop
      goto .pairValue
      return emptyScalar t.stop
    returnTo .pairValue
    node false false
  | .pairValue =>
    let t ← token
    if t.kind == .value then
      pop
      nodeUnless [.flowEntry, .flowSequenceEnd] .pairEnd (← token).start false false
    else
      goto .pairEnd
      return emptyScalar t.start
  | .pairEnd =>
    goto (.flowEntry false)
    return { kind := .mappingEnd, mark := (← token).start }
  | .flowKey first => flowMapping first
  | .flowValue empty =>
    let t ← token
    if !empty && t.kind == .value then
      pop
      nodeUnless [.flowEntry, .flowMappingEnd] (.flowKey false) (← token).start false false
    else
      goto (.flowKey false)
      return emptyScalar t.start
  | .nothing => return { kind := .streamEnd, mark := (← get).scanner.mark }

end Read

/-- Events up to the end of the text or the first error. -/
def eventsFrom (reader : Reader) : Nat → List Event × Option SyntaxError
  | 0 => ([], none)
  | fuel + 1 =>
    match Read.next.run reader with
    | .error e => ([], some e)
    | .ok (event, reader) =>
      if event.kind == .streamEnd then ([event], none)
      else
        let (events, error) := eventsFrom reader fuel
        (event :: events, error)

/-- A character that may stand in YAML text. -/
def isPrintable (c : Char) : Bool :=
  let n := c.toNat
  n == 9 || n == 10 || n == 13 || (0x20 ≤ n && n ≤ 0x7E) || n == 0x85 ||
    (0xA0 ≤ n && n ≤ 0xD7FF) || (0xE000 ≤ n && n ≤ 0xFFFD) || 0x10000 ≤ n

/-- Where the first character stands that may not be there, counted in bytes. -/
def badOffset? (offset : Nat) : List Char → Option Nat
  | [] => none
  | c :: rest => if isPrintable c then badOffset? (offset + c.utf8Size) rest else some offset

/-- The text without the mark that may tell its encoding. -/
def withoutMark : List Char → List Char
  | '\ufeff' :: rest => rest
  | rest => rest

def events (text : String) : List Event × Option SyntaxError :=
  match badOffset? 0 text.toList with
  | some offset =>
    let place := if offset == 0 then "" else " at position " ++ toString offset
    ([], some ⟨"control characters are not allowed" ++ place, {}, none⟩)
  | none => eventsFrom { scanner := { rest := withoutMark text.toList } } (8 * text.length + 16)

end SqlLineage.Yaml
