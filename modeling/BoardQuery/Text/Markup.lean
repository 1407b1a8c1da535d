import BoardQuery.Text.Blank
import BoardQuery.Text.ReferenceNames

/-!
# Text without markup

Tags and comments are taken out of a text, and what is left is written so that it means itself
where markup is read: `&`, `<` and `>` become character references, and character references stay.
-/

namespace BoardQuery.Markup

/-- All line ends become line feeds. -/
def plainLineEnds : List Char → List Char
  | '\r' :: '\n' :: rest => '\n' :: plainLineEnds rest
  | c :: rest => (if c == '\r' then '\n' else c) :: plainLineEnds rest
  | [] => []

def isSpace (c : Char) : Bool :=
  c == ' ' || c == '\t' || c == '\n' || c == '\x0c' || c == '\r'

def isLetter (c : Char) : Bool :=
  ('a' ≤ c && c ≤ 'z') || ('A' ≤ c && c ≤ 'Z')

/-! ## Tags -/

/-- Where in a tag a character stands. -/
inductive TagPlace where
  | name
  | beforeAttribute
  | attributeName
  | afterAttribute
  | beforeValue
  | quoted (quote : Char)
  | unquoted
  | afterValue
  | slash

namespace TagPlace

/-- The place after a character that may start an attribute; none where the tag ends. -/
def nextAttribute (c : Char) : Option TagPlace :=
  if c == '>' then none
  else if c == '/' then some slash
  else if isSpace c then some beforeAttribute
  else some attributeName

/-- The place after a character; none where the tag ends. -/
def next (p : TagPlace) (c : Char) : Option TagPlace :=
  match p with
  | name =>
    if c == '>' then none
    else if c == '/' then some slash
    else if isSpace c then some beforeAttribute
    else some name
  | beforeAttribute | afterValue | slash => nextAttribute c
  | attributeName | afterAttribute =>
    if c == '=' then some beforeValue
    else if isSpace c then some afterAttribute
    else nextAttribute c
  | beforeValue =>
    if c == '>' then none
    else if isSpace c then some beforeValue
    else if c == '"' || c == '\'' then some (quoted c)
    else some unquoted
  | quoted quote => if c == quote then some afterValue else some p
  | unquoted =>
    if c == '>' then none else if isSpace c then some beforeAttribute else some unquoted

/-- Whether a tag that breaks off here is kept as text. -/
def keepsBroken : TagPlace → Bool
  | name | attributeName | afterAttribute | unquoted => true
  | _ => false

end TagPlace

/-- Where in a comment a character stands. -/
inductive CommentPlace where
  | start
  | startDash
  | body
  | dash
  | dashes
  | bang

/-- The place after a character; none where the comment ends. -/
def CommentPlace.next (p : CommentPlace) (c : Char) : Option CommentPlace :=
  match p with
  | start => if c == '>' then none else if c == '-' then some startDash else some body
  | startDash => if c == '>' then none else if c == '-' then some dashes else some body
  | body => if c == '-' then some dash else some body
  | dash => if c == '-' then some dashes else some body
  | dashes =>
    if c == '>' then none
    else if c == '-' then some dashes
    else if c == '!' then some bang
    else some body
  | bang => if c == '>' then none else if c == '-' then some dash else some body

/-- Where in a text with markup a character stands. -/
inductive Place where
  | text
  /-- After `<`. -/
  | opened
  /-- After `</`. -/
  | closing
  /-- In a tag. Its name and all of it so far are held in reverse. -/
  | tag (start : Bool) (place : TagPlace) (name seen : List Char)
  /-- After `</` and a character that starts no tag; what follows up to `>` stays. -/
  | oddClosing
  /-- After `<!`. -/
  | declared
  /-- After `<!-`. -/
  | dashed
  | comment (place : CommentPlace)
  /-- In something else that ends at `>` and is no text. -/
  | dropped

/-- The tags that stand for blocks. Such a tag starts a new line, unless it is the first tag. -/
def blockTags : List String := ["address", "article", "aside", "blockquote", "details", "dialog",
  "dd", "div", "dl", "dt", "fieldset", "figcaption", "figure", "footer", "form", "h1", "h2", "h3",
  "h4", "h5", "h6", "header", "hgroup", "hr", "li", "main", "nav", "ol", "p", "pre", "section",
  "table", "ul"]

def isBlock (reversedName : List Char) : Bool :=
  blockTags.contains (String.ofList (reversedName.reverse.map Char.toLower))

/-- What stays of a text that starts at a place. A comment leaves a gap in the text, written as
none. `tags` says whether a tag came before. -/
def strip (place : Place) (tags : Bool) (cs : List Char) : List (Option Char) :=
  match cs with
  | [] =>
    match place with
    | .opened => [some '<']
    | .closing => [some '<', some '/']
    | .tag _ p _ seen => if p.keepsBroken then seen.reverse.map some else []
    | .declared | .dashed | .comment _ | .dropped => [none]
    | _ => []
  | c :: rest =>
    match place with
    | .text =>
      if c == '<' then strip .opened tags rest
      else if c == '\x00' then strip .text tags rest
      else some c :: strip .text tags rest
    | .opened =>
      if c == '!' then strip .declared tags rest
      else if c == '/' then strip .closing tags rest
      else if c == '?' then strip .dropped tags rest
      else if isLetter c then strip (.tag true .name [c] [c, '<']) tags rest
      else if c == '<' then some '<' :: strip .opened tags rest
      else if c == '\x00' then some '<' :: strip .text tags rest
      else some '<' :: some c :: strip .text tags rest
    | .closing =>
      if c == '>' then strip .text tags rest
      else if isLetter c then strip (.tag false .name [c] [c, '/', '<']) tags rest
      else some '<' :: some '/' :: some c :: strip .oddClosing tags rest
    | .tag start p name seen =>
      match p.next c with
      | none =>
        if start && tags && isBlock name then some '\n' :: strip .text true rest
        else strip .text true rest
      | some .name => strip (.tag start .name (c :: name) (c :: seen)) tags rest
      | some q => strip (.tag start q name (c :: seen)) tags rest
    | .oddClosing => some c :: strip (if c == '>' then .text else .oddClosing) tags rest
    | .declared =>
      if c == '>' then none :: strip .text tags rest
      else strip (if c == '-' then .dashed else .dropped) tags rest
    | .dashed =>
      if c == '>' then none :: strip .text tags rest
      else strip (if c == '-' then .comment .start else .dropped) tags rest
    | .comment p =>
      match p.next c with
      | none => none :: strip .text tags rest
      | some q => strip (.comment q) tags rest
    | .dropped =>
      if c == '>' then none :: strip .text tags rest else strip .dropped tags rest

/-- The stretches of text between gaps. -/
def stretches : List (Option Char) → List (List Char)
  | [] => [[]]
  | none :: rest => [] :: stretches rest
  | some c :: rest =>
    match stretches rest with
    | s :: more => (c :: s) :: more
    | [] => [[c]]

/-! ## Character references -/

def occurs (pattern : List Char) : List Char → Bool
  | [] => pattern.isEmpty
  | c :: cs => pattern.isPrefixOf (c :: cs) || occurs pattern cs

/-- Whether some name of a reference starts like this. -/
def startsReference (name : List Char) : Bool :=
  referenceNames.any fun line => occurs (' ' :: name) line.toList

/-- The characters that end a reference. -/
def endsReference (c : Char) : Bool :=
  c == '<' || c == '&' || c == '=' || c == ';' || isSpace c || c == '\x0b'

/-- The length of a numeric reference of these digits that ends in a semicolon. One character that
is no digit may stand before the semicolon, and does not count. -/
def digitsLength? (isDigit : Char → Bool) : List Char → Option Nat
  | [] => none
  | c :: rest =>
    if c == ';' then some 0
    else if endsReference c then none
    else if isDigit c then (digitsLength? isDigit rest).map (· + 1)
    else if rest.head? == some ';' then some 0
    else none

/-- The length of a name that ends in a semicolon. `before` is the name so far, in reverse. -/
def nameLength? (before : List Char) : List Char → Option Nat
  | [] => none
  | c :: rest =>
    if c == ';' then if before.isEmpty then none else some 0
    else if endsReference c then none
    else if startsReference (c :: before).reverse then
      (nameLength? (c :: before) rest).map (· + 1)
    else none

def isDecimal (c : Char) : Bool := '0' ≤ c && c ≤ '9'

def isHexadecimal (c : Char) : Bool :=
  isDecimal c || ('a' ≤ c && c ≤ 'f') || ('A' ≤ c && c ≤ 'F')

/-- The length of the reference that stands after an ampersand, without its semicolon. -/
def referenceLength? (cs : List Char) : Option Nat :=
  match cs with
  | '#' :: 'x' :: rest => (digitsLength? isHexadecimal rest).map (· + 2)
  | '#' :: 'X' :: rest => (digitsLength? isHexadecimal rest).map (· + 2)
  | '#' :: rest => (digitsLength? isDecimal rest).map (· + 1)
  | _ => nameLength? [] cs

/-- A text that stands for itself in markup. References stay as they are. -/
def escape (cs : List Char) : List Char :=
  match cs with
  | [] => []
  | c :: rest =>
    if c == '&' then
      match referenceLength? rest with
      | some n => '&' :: rest.take n ++ ';' :: escape (rest.drop (n + 1))
      | none => "&amp;".toList ++ escape rest
    else if c == '<' then "&lt;".toList ++ escape rest
    else if c == '>' then "&gt;".toList ++ escape rest
    else c :: escape rest
termination_by cs.length
decreasing_by all_goals simp; try omega

/-- Control characters cannot be seen. -/
def visible (c : Char) : Char :=
  if c.toNat < 32 && c != '\t' && c != '\n' && c != '\r' then '?' else c

/-- A stretch of text as it is written; the spaces around it stay as they are. -/
def writeStretch (cs : List Char) : List Char :=
  let start := cs.takeWhile isSpace
  let rest := cs.dropWhile isSpace
  let stop := (rest.reverse.takeWhile isSpace).reverse
  let middle := (rest.reverse.dropWhile isSpace).reverse
  start ++ escape (middle.map visible) ++ stop

/-- A text without its markup and without the blanks around it. -/
def plainText (s : String) : String :=
  let kept := strip .text false (plainLineEnds s.toList)
  String.ofList (Text.trimChars ((stretches kept).flatMap writeStretch))

end BoardQuery.Markup
