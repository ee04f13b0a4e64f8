import FluentRegex.Syntax.Escape

/-!
# The openings of groups

After an opening parenthesis may come a name, flags, or neither. `(?flags)` is no group: it sets
the flags for the rest of the group around it.
-/

namespace FluentRegex.Syntax

/-- What an opening parenthesis leads to. -/
inductive Opening
  | group (kind : GroupKind)
  | flags (items : List FlagItem)

/-- The groups that have been opened in a pattern: how many capture, and the names in use. -/
structure Groups where
  count : Nat := 0
  names : List (String × Span) := []

/-! ## Names -/

/-- Whether a character may stand in the name of a group: the first is a letter or an underscore,
the others may also be numerals, dots and brackets. -/
def isNameChar (first : Bool) (c : Char) : Bool :=
  if first then c == '_' || isAlphabetic c
  else c == '_' || c == '.' || c == '[' || c == ']' || isAlphanumeric c

/-- Whether a text can be the name of a group: `is_group_name`. -/
def isName : List Char → Bool
  | [] => false
  | c :: cs => isNameChar true c && cs.all (isNameChar false)

/-- Reads the name of a group up to the closing angle bracket, of which nothing is kept. -/
def groupNameChars : (first : Bool) → Nat → List Char → Except Fault (List Char)
  | _, pos, [] => .error ⟨.nameUnclosed, ⟨pos, pos⟩, none⟩
  | first, pos, c :: cs =>
    if c = '>' then .ok []
    else if isNameChar first c then
      match groupNameChars false (pos + 1) cs with
      | .ok name => .ok (c :: name)
      | .error e => .error e
    else .error ⟨.nameCharacter, ⟨pos, pos + 1⟩, none⟩

/-- Reads the name of a group, from its first character on, and enters it among the names. -/
def groupName (groups : Groups) (c : Cursor) : Reading (GroupKind × Groups) :=
  match groupNameChars true c.pos c.rest with
  | .error e => .error e
  | .ok name =>
    let span : Span := ⟨c.pos, c.pos + name.length⟩
    if name.isEmpty then .error ⟨.nameEmpty, c.here, none⟩
    else
      let text := String.ofList name
      match groups.names.lookup text with
      | some earlier => .error ⟨.nameDuplicate, span, some earlier⟩
      | none =>
        .ok ((.named (groups.count + 1) text, ⟨groups.count + 1, (text, span) :: groups.names⟩),
          c.advanceBy (name.length + 1))

/-! ## Flags -/

/-- Reads a list of flags up to the colon or the parenthesis that ends it, with the place of each
item. -/
def flagItems : Nat → List Char → List (FlagItem × Span) →
    Except Fault (List (FlagItem × Span))
  | pos, [], _ => .error ⟨.flagsUnclosed, ⟨pos, pos⟩, none⟩
  | pos, c :: cs, items =>
    let span : Span := ⟨pos, pos + 1⟩
    if c = ':' ∨ c = ')' then
      match items with
      | (.negation, last) :: _ => .error ⟨.flagNegationDangling, last, none⟩
      | _ => .ok items.reverse
    else if c = '-' then
      match items.lookup .negation with
      | some earlier => .error ⟨.flagNegationRepeated, span, some earlier⟩
      | none => flagItems (pos + 1) cs ((.negation, span) :: items)
    else match Flag.ofLetter? c with
      | none => .error ⟨.flagUnrecognized, span, none⟩
      | some f =>
        match items.lookup (.flag f) with
        | some earlier => .error ⟨.flagDuplicate, span, some earlier⟩
        | none => flagItems (pos + 1) cs ((.flag f, span) :: items)

/-- Reads what follows the question mark of an opening: flags, and the character that ends
them. -/
def flagOpening (openAt : Nat) (groups : Groups) (c : Cursor) : Reading (Opening × Groups) :=
  if c.atEnd then .error ⟨.groupUnclosed, ⟨openAt, openAt + 1⟩, none⟩
  else match flagItems c.pos c.rest [] with
    | .error e => .error e
    | .ok items =>
      let flags := items.map (·.1)
      let stop := c.advanceBy items.length
      if stop.peek? = some ')' then
        if flags.isEmpty then .error ⟨.repetitionMissing, ⟨c.pos - 1, c.pos - 1⟩, none⟩
        else .ok ((.flags flags, groups), stop.advance)
      else .ok ((.group (.plain flags), groups), stop.advance)

/-! ## Openings -/

/-- Reads an opening, from its parenthesis on. -/
def groupOpening (groups : Groups) (c : Cursor) : Reading (Opening × Groups) :=
  let first := c.next
  let lookAround := [['?', '='], ['?', '!'], ['?', '<', '='], ['?', '<', '!']]
  match lookAround.findSome? first.accept? with
  | some after => .error ⟨.lookAround, after.since c.pos, none⟩
  | none =>
    let named := fun (body : Cursor) => match groupName groups body with
      | .ok ((kind, groups'), c') => Except.ok ((Opening.group kind, groups'), c')
      | .error e => .error e
    match first.accept? ['?', 'P', '<'], first.accept? ['?', '<'], first.accept? ['?'] with
    | some body, _, _ => named body
    | none, some body, _ => named body
    | none, none, some body => flagOpening c.pos groups body
    | none, none, none =>
      .ok ((.group (.capture (groups.count + 1)), { groups with count := groups.count + 1 }), first)

/-- The mode for blanks that a list of flags asks for. -/
def verboseFlag? : List FlagItem → Option Bool
  | [] => none
  | .flag .verbose :: _ => some true
  | .flag _ :: items => verboseFlag? items
  | .negation :: items => if items.contains (.flag .verbose) then some false else none

end FluentRegex.Syntax
