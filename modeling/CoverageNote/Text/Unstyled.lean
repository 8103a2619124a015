import CoverageNote.Text.Utf8

/-!
# Texts without the control sequences of terminals

A text that is quoted in a message may hold control sequences that would restyle the message on a
terminal. `Text.unstyled` leaves them out, together with all controls that are no white space : what is
left is what a terminal would show.

A sequence begins with an escape character. What follows decides how far it goes : to the next letter
or sign behind a bracket, to the end of a hidden text, or one character further.
-/

namespace CoverageNote.Text

/-- Where a terminal stands in a text. -/
inductive Mode where
  /-- The text is shown. -/
  | plain
  /-- Behind an escape character. -/
  | escape
  /-- In a sequence that ends in its first character that is no punctuation. -/
  | escapeMore
  /-- In a sequence behind a bracket. -/
  | bracket
  /-- At the start of a device command. -/
  | command
  /-- In the numbers of a device command. -/
  | commandNumbers
  /-- In the punctuation of a device command. -/
  | commandMore
  /-- In a hidden text. -/
  | hidden
  /-- In the title of a window. -/
  | title
deriving Repr, DecidableEq

/-- White space among the controls. -/
def isBlankControl (c : Char) : Bool :=
  c == '\t' || c == '\n' || c == '\x0C' || c == '\r'

/-- Whether a terminal shows the character. -/
def Mode.shows (m : Mode) (c : Char) : Bool :=
  match m with
  | plain => isBlankControl c || (0x20 ≤ c.toNat && c.toNat != 0x7F)
  | escape | escapeMore | bracket => isBlankControl c
  | _ => false

/-- Where the terminal stands behind a sign of ASCII that it does not show. -/
def Mode.afterSign (m : Mode) (c : Char) : Mode :=
  let punctuation := c.toNat < 0x30
  match m with
  | plain => plain
  | escape =>
    if punctuation then escapeMore
    else if c = '[' then bracket
    else if c = ']' then title
    else if c = 'P' then command
    else if c = 'X' ∨ c = '^' ∨ c = '_' then hidden
    else plain
  | escapeMore => if punctuation then escapeMore else plain
  | bracket => if c.toNat < 0x40 then bracket else plain
  | command => if punctuation then commandMore else if c.toNat < 0x40 then commandNumbers else hidden
  | commandNumbers =>
    if punctuation then commandMore else if c.toNat < 0x3C then commandNumbers else hidden
  | commandMore => if punctuation then commandMore else hidden
  | hidden => hidden
  | title => title

/-- Where the terminal stands behind a character. A byte 9C ends a hidden text also within a
character. -/
def Mode.after (m : Mode) (c : Char) : Mode :=
  if m.shows c ∨ c = '\x18' ∨ c = '\x1A' then plain
  else if c = '\x1B' then escape
  else if c.toNat < 0x20 then if m = title ∧ c = '\x07' then plain else m
  else if c.toNat < 0x7F then m.afterSign c
  else if m = hidden ∧ (Utf8.encode [c]).contains 0x9C then plain
  else m

/-- What a terminal that stands at `m` shows of a text. -/
def shownFrom (m : Mode) : Text → Text
  | [] => []
  | c :: t => if m.shows c then c :: shownFrom (m.after c) t else shownFrom (m.after c) t

/-- The text without control sequences and controls. -/
def unstyled (t : Text) : Text :=
  shownFrom .plain t

end CoverageNote.Text
