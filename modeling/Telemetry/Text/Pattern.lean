import Telemetry.Text.Blank
import Telemetry.Text.Hexadecimal
import Telemetry.Text.Letter

/-!
Patterns that texts are matched against, as far as their form goes.

A pattern is a row of items: characters, escapes, classes in brackets, groups in parentheses, and
repetitions of the item before. Bars separate alternatives. Flags at the start of a group, or in
parentheses of their own, change how the rest of the group is read. Nothing here matches a text:
the only question is whether a pattern is well formed.

There are no tables of Unicode properties, so what depends on one is refused: property classes,
families such as the digits, word edges, and letter case that does not matter. In the mode for
bytes these have a meaning for ASCII, and there an item is refused if it could match a part of a
character. A pattern ends before a closing brace, so an opening one outside a class is refused.
There is also a bound on how deeply the parts of a pattern are nested in each other.
-/
namespace Telemetry.Text.Pattern

/-- How a part of a pattern is read: whether letter case does not matter, whether items stand for
characters and not for bytes, and whether blanks and comments are passed over. -/
structure Modes where
  foldsCase : Bool := false
  unicode : Bool := true
  spaced : Bool := false
  deriving DecidableEq, Repr

/-- Drops blanks and comments; a comment begins with `#` and ends with its line. -/
def dropSpacing (inComment : Bool) : List Char → List Char
  | [] => []
  | c :: rest =>
    if inComment then dropSpacing (c ≠ '\n') rest
    else if isBlank c then dropSpacing false rest
    else if c = '#' then dropSpacing true rest
    else c :: rest

namespace Modes

/-- Drops what is passed over before an item. -/
def skip (m : Modes) (text : List Char) : List Char :=
  if m.spaced then dropSpacing false text else text

/-- The character that decides whether a dash in a class makes a range. What follows a `#` is
looked at even though it is part of a comment. -/
def peek (m : Modes) (text : List Char) : Option Char :=
  if m.spaced then
    match text.dropWhile isBlank with
    | '#' :: rest => (rest.dropWhile isBlank).head?
    | rest => rest.head?
  else text.head?

/-- Sets a mode by the letter of its flag. The other flags change what a pattern matches, but not
whether it is well formed. -/
def set (flag : Char) (on : Bool) (m : Modes) : Modes :=
  match flag with
  | 'i' => { m with foldsCase := on }
  | 'u' => { m with unicode := on }
  | 'x' => { m with spaced := on }
  | _ => m

end Modes

/-! ### Escapes -/

/-- What a single character or an escape stands for: itself, a character given by two hexadecimal
digits, a family of characters or its complement, a place in the text, or the edge of a word. -/
inductive Element where
  | literal (c : Char)
  | byte (c : Char)
  | family (negated : Bool)
  | anchor
  | wordEdge
  deriving DecidableEq, Repr

namespace Element

/-- The single character that an element stands for. -/
def char? : Element → Option Char
  | literal c | byte c => some c
  | _ => none

/-- Whether the element may be an item of a pattern. -/
def isItem (m : Modes) : Element → Bool
  | literal _ => !(m.unicode && m.foldsCase)
  | byte c => if m.unicode then !m.foldsCase else decide (c.toNat < 128)
  | family negated => !m.unicode && !negated
  | anchor => true
  | wordEdge => !m.unicode

/-- Whether the element may be a member of a class. -/
def isMember (m : Modes) : Element → Bool
  | literal c | byte c => if m.unicode then !m.foldsCase else decide (c.toNat < 128)
  | family negated => !m.unicode && !negated
  | anchor | wordEdge => false

end Element

def readHex (m : Modes) : Nat → Nat → List Char → Option (Nat × List Char)
  | 0, value, text => some (value, text)
  | n + 1, value, c :: rest => do readHex m n (value * 16 + (← hexDigit? c)) (m.skip rest)
  | _ + 1, _, [] => none

/-- How many hexadecimal digits an escape has, by its letter. -/
def hexSize? : Char → Option Nat
  | 'x' => some 2
  | 'u' => some 4
  | 'U' => some 8
  | _ => none

/-- Reads a character that is given by hexadecimal digits. -/
def readHexChar (m : Modes) (size : Nat) (text : List Char) : Option (Element × List Char) := do
  let (code, rest) ← readHex m size 0 (m.skip text)
  if code.isValidChar then
    some (if size = 2 then .byte (.ofNat code) else .literal (.ofNat code), rest)
  else none

/-- The controls that have a letter. -/
def controls : List (Char × Char) :=
  [('a', '\x07'), ('f', '\x0c'), ('n', '\n'), ('r', '\r'), ('t', '\t'), ('v', '\x0b')]

/-- What a character after a backslash stands for. -/
def escaped? (c : Char) : Option Element :=
  match controls.lookup c with
  | some control => some (.literal control)
  | none =>
    if "dsw".toList.contains c then some (.family false)
    else if "DSW".toList.contains c then some (.family true)
    else if "Az".toList.contains c then some .anchor
    else if "bB<>".toList.contains c then some .wordEdge
    else if c.toNat < 128 ∧ !c.isAlphanum then some (.literal c)
    else none

def readEscape (m : Modes) : List Char → Option (Element × List Char)
  | [] => none
  | c :: rest =>
    match hexSize? c with
    | some size => readHexChar m size rest
    | none => (escaped? c).map fun element => (element, rest)

/-! ### Nesting -/

/-- How deeply a row of parts is nested, given the same of its parts: a part by itself makes no
step, several together make one. -/
def rowNesting : List Nat → Nat
  | [] => 0
  | [part] => part
  | parts => parts.foldl max 0 + 1

/-- The greatest nesting of a pattern. -/
def deepest : Nat := 250

/-! ### Classes -/

/-- Reads an element of a class, which is a character or an escape. -/
def readElement (m : Modes) : List Char → Option (Element × List Char)
  | [] => none
  | '\\' :: rest => readEscape m rest
  | c :: rest => some (.literal c, rest)

/-- Reads a member of a class: an element, or a range between two characters in order. A dash
before a bracket or another dash makes no range. -/
def readMember (m : Modes) (text : List Char) : Option (List Char) := do
  let (first, rest) ← readElement m text
  match m.skip rest with
  | [] => none
  | '-' :: after =>
    if m.peek after = some ']' ∨ m.peek after = some '-' then
      if first.isMember m then some ('-' :: after) else none
    else
      let (last, rest) ← readElement m (m.skip after)
      if (← first.char?) ≤ (← last.char?) ∧ first.isMember m ∧ last.isMember m then some rest
      else none
  | rest => if first.isMember m then some rest else none

def asciiClasses : List String :=
  ["alnum", "alpha", "ascii", "blank", "cntrl", "digit", "graph", "lower", "print", "punct",
   "space", "upper", "word", "xdigit"]

/-- Reads a class by name after its opening bracket: whether it is a complement, and the text
after it. -/
def readNamedClass : List Char → Option (Bool × List Char)
  | ':' :: text =>
    let negated := text.head? = some '^'
    let text := if negated then text.drop 1 else text
    let name := text.takeWhile (· ≠ ':')
    match text.drop name.length with
    | ':' :: ']' :: rest =>
      if asciiClasses.contains (String.ofList name) then some (negated, rest) else none
    | _ => none
  | _ => none

/-- Whether a named class or its complement may be a member of a class. -/
def isNamedMember (m : Modes) (negated : Bool) : Bool :=
  if m.unicode then !m.foldsCase else !negated

/-- Where a class is read: before its first member, after dashes only, or further on. -/
inductive Place where
  | first
  | dashes
  | inside
  deriving DecidableEq, Repr

/-- Passes over the sign of a complement at the start of a class. -/
def dropComplement (m : Modes) (text : List Char) : Option (List Char) :=
  match m.skip text with
  | '^' :: rest => if m.unicode then some rest else none
  | rest => some rest

/-- A class that is being read: the nesting of its members, the last first, and of what stands
before the last operator. -/
structure ClassRow where
  members : List Nat := []
  left : Option Nat := none
  deriving DecidableEq, Repr

namespace ClassRow

def nesting (r : ClassRow) : Nat :=
  match r.left with
  | none => rowNesting r.members
  | some left => max left (rowNesting r.members) + 1

def add (nesting : Nat) (r : ClassRow) : ClassRow :=
  { r with members := nesting :: r.members }

/-- Goes on behind an operator. -/
def operate (r : ClassRow) : ClassRow := ⟨[], some r.nesting⟩

end ClassRow

/-- Reads the rest of a class: its nesting and the text after it. At most so many members and
brackets are read; `outer` holds the classes that are open around this one. -/
def readClass (m : Modes) :
    Nat → List ClassRow → ClassRow → Place → List Char → Option (Nat × List Char)
  | 0, _, _, _, _ => none
  | most + 1, outer, row, place, text =>
    let add (isMember : Bool) (next : Place) (rest : List Char) : Option (Nat × List Char) :=
      if isMember then readClass m most outer (row.add 0) next rest else none
    let operate (rest : List Char) : Option (Nat × List Char) :=
      readClass m most outer row.operate .inside rest
    match place, m.skip text with
    | _, [] => none
    | .first, ']' :: rest => add ((Element.literal ']').isMember m) .inside rest
    | .first, '-' :: rest => add ((Element.literal '-').isMember m) .dashes rest
    | .dashes, '-' :: rest => add ((Element.literal '-').isMember m) .dashes rest
    | _, '[' :: rest =>
      match readNamedClass rest with
      | some (negated, rest) => add (isNamedMember m negated) .inside rest
      | none => (dropComplement m rest).bind (readClass m most (row :: outer) {} .first)
    | _, ']' :: rest =>
      match outer with
      | [] => some (row.nesting + 1, rest)
      | around :: outer => readClass m most outer (around.add (row.nesting + 1)) .inside rest
    | _, '&' :: '&' :: rest => operate rest
    | _, '-' :: '-' :: rest => operate rest
    | _, '~' :: '~' :: rest => operate rest
    | _, text => (readMember m text).bind (add true .inside)

/-! ### Groups -/

def flagLetters : List Char := "imsURux".toList

/-- What flags have said so far: the modes, the letters seen, whether there was a minus sign, and
whether the last one was it. -/
structure FlagScan where
  modes : Modes
  seen : List Char := []
  negated : Bool := false
  dangles : Bool := false
  deriving DecidableEq, Repr

/-- Reads flags up to a colon or a closing parenthesis: the modes, whether a group follows, and
the text after that. -/
def readFlags (s : FlagScan) : List Char → Option (Modes × Bool × List Char)
  | [] => none
  | c :: rest =>
    if c = ':' ∨ c = ')' then
      if s.dangles ∨ (c = ')' ∧ s.seen = []) then none else some (s.modes, c = ':', rest)
    else if c = '-' then
      if s.negated then none else readFlags { s with negated := true, dangles := true } rest
    else if flagLetters.contains c ∧ !s.seen.contains c then
      readFlags { s with modes := s.modes.set c !s.negated, seen := c :: s.seen, dangles := false }
        rest
    else none

def isGroupName : List Char → Bool
  | [] => false
  | c :: rest =>
    (c = '_' || isLetter c) &&
      rest.all fun c => "_.[]".toList.contains c || isLetterOrNumber c

/-- How the groups begin that look ahead or back, after the question mark; there are none. -/
def lookingGroups : List (List Char) :=
  [['='], ['!'], ['<', '='], ['<', '!']]

/-- A row of items that is being read: the nesting of the items, the last first, whether the last
one can be repeated, and the nesting of the alternatives before. -/
structure Row where
  items : List Nat := []
  repeats : Bool := false
  alternatives : List Nat := []
  deriving DecidableEq, Repr

namespace Row

def add (nesting : Nat) (repeats : Bool) (r : Row) : Row :=
  { r with items := nesting :: r.items, repeats }

def repeated (r : Row) : Row :=
  { r with items := r.items.modifyHead (· + 1) }

def alternate (r : Row) : Row :=
  { alternatives := rowNesting r.items :: r.alternatives }

def nesting (r : Row) : Nat :=
  match r.alternatives with
  | [] => rowNesting r.items
  | _ :: _ => rowNesting r.alternate.alternatives

end Row

/-- What reading has come to: the modes and the row, those to return to at the end of each open
group, and the names of groups. -/
structure Scan where
  modes : Modes := {}
  row : Row := {}
  enclosing : List (Modes × Row) := []
  names : List (List Char) := []
  deriving DecidableEq, Repr

namespace Scan

def enter (modes : Modes) (s : Scan) : Scan :=
  { s with modes, row := {}, enclosing := (s.modes, s.row) :: s.enclosing }

def readName (s : Scan) (text : List Char) : Option (Scan × List Char) :=
  let name := text.takeWhile (· ≠ '>')
  match text.drop name.length with
  | _ :: rest =>
    if isGroupName name ∧ !s.names.contains name then
      some ({ s.enter s.modes with names := name :: s.names }, rest)
    else none
  | [] => none

/-- Reads the start of a group after its parenthesis, or flags that have parentheses of their
own. -/
def openGroup (s : Scan) (text : List Char) : Option (Scan × List Char) :=
  match s.modes.skip text with
  | '?' :: text =>
    if lookingGroups.any (·.isPrefixOf text) then none
    else
      match text with
      | 'P' :: '<' :: rest => s.readName rest
      | '<' :: rest => s.readName rest
      | _ => do
        let (modes, isGroup, rest) ← readFlags { modes := s.modes } text
        some (if isGroup then s.enter modes else { s with modes, row := s.row.add 0 false }, rest)
  | rest => some (s.enter s.modes, rest)

def closeGroup (s : Scan) : Option Scan :=
  match s.enclosing with
  | [] => none
  | (modes, row) :: enclosing =>
    some { s with modes, row := row.add (s.row.nesting + 1) true, enclosing }

def item (isItem : Bool) (nesting : Nat) (rest : List Char) (s : Scan) :
    Option (Scan × List Char) :=
  if isItem then some ({ s with row := s.row.add nesting true }, rest) else none

/-- Reads what begins with the given character, which nothing is passed over before. -/
def step (s : Scan) (c : Char) (rest : List Char) : Option (Scan × List Char) :=
  match c with
  | '(' => s.openGroup rest
  | ')' => s.closeGroup.map fun s => (s, rest)
  | '|' => some ({ s with row := s.row.alternate }, rest)
  | '[' => do
    let inside ← dropComplement s.modes rest
    let (nesting, rest) ← readClass s.modes (rest.length + 1) [] {} .first inside
    s.item true nesting rest
  | '?' | '*' | '+' =>
    if s.row.repeats then
      some ({ s with row := s.row.repeated }, if rest.head? = some '?' then rest.drop 1 else rest)
    else none
  | '{' => none
  | '\\' => do
    let (element, rest) ← readEscape s.modes rest
    s.item (element.isItem s.modes) 0 rest
  | '.' => s.item s.modes.unicode 0 rest
  | '^' | '$' => s.item true 0 rest
  | c => s.item ((Element.literal c).isItem s.modes) 0 rest

/-- Reads at most so many items; every group must be closed at the end. -/
def run : Nat → Scan → List Char → Bool
  | 0, _, _ => false
  | most + 1, s, text =>
    match s.modes.skip text with
    | [] => s.enclosing.isEmpty && s.row.nesting ≤ deepest
    | c :: rest =>
      match s.step c rest with
      | some (s, rest) => run most s rest
      | none => false

end Scan

end Pattern

/-- Whether the text is a well-formed pattern. Each item takes at least one character. -/
def isPattern (text : List Char) : Bool :=
  Pattern.Scan.run (text.length + 1) {} text

end Telemetry.Text
