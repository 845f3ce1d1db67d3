import LexicalScope.Text.Width.Joining

/-!
# Display width

The number of columns that a text takes on a terminal. It is the sum of the widths of the
characters, except where neighbours are drawn as one:

* a line feed takes no column, nor does a carriage return before it
* a selector decides whether the character before it is drawn as an emoji (two columns) or as text
  (one)
* emoji and letters join what follows them

A character is affected by what follows it only. So the text is read from its end, and what has
been read is summed up in a `Context`.

* `charWidth` — the width of a character alone
* `put` — what a character adds in front of a context
* `total`, `width` — the sum of what the characters add, which is the width of a text
-/

namespace LexicalScope.Text.Width

/-- What decides how the character before it is drawn. -/
inductive Selector where
  /-- U+FE0E -/
  | text
  /-- U+FE0F -/
  | emoji
  deriving Repr, DecidableEq

/-- What follows a character: perhaps a selector, then the neighbour that is seen across it. -/
structure Context where
  selector : Option Selector
  right : Neighbour
  deriving Repr, DecidableEq

/-- The context of a character without a selector after it. -/
def Neighbour.toContext (right : Neighbour) : Context := ⟨none, right⟩

/-- The width of a character that is drawn alone. -/
def charWidth (c : Char) : Nat :=
  if c.toNat ≤ 0xA0 then (if c = '\n' then 0 else 1)
  else if c = '\u17D8' then 3
  else if invisible.contains c then 0
  else if doubled.contains c || emojis.contains c then 2
  else 1

/-- What a character adds that no selector applies to. -/
def putPlain (c : Char) (right : Neighbour) : Int × Context :=
  match joinEmoji? c right with
  | some (change, left) => (change, left.toContext)
  | none =>
    match joinLetter? c right with
    | some (change, left) => (change, left.toContext)
    | none => (charWidth c, (Neighbour.ofChar c).toContext)

/-- What a character up to U+00A0 adds. Of these only the carriage return joins what follows it. -/
def putNarrow (c : Char) (right : Neighbour) : Int × Context :=
  (if c = '\r' ∧ right = .lineFeed then 0 else charWidth c, (Neighbour.ofChar c).toContext)

/-- What the emoji selector leaves to be seen of its neighbour: letters, and what an emoji can still
be joined to. -/
def Neighbour.acrossEmoji : Neighbour → Neighbour
  | .joined => .joined
  | .keycap => .keycap
  | right => right.letter

/-- What a character adds in front of a context, and the context that it makes with it. A selector
that follows no character for it counts for nothing. -/
def put (c : Char) (context : Context) : Int × Context :=
  if context.selector = some .emoji ∧ selectable.contains c then
    (if context.right = .joined ∨ context.right = .keycap then 0 else 2, Neighbour.emoji.toContext)
  else
    let right := if context.selector = some .emoji then context.right.letter else context.right
    if c.toNat ≤ 0xA0 then putNarrow c right
    else if c = '\uFE0F' then (0, ⟨some .emoji, right.acrossEmoji⟩)
    else if c = '\uFE0E' then (0, ⟨some .text, right.letter⟩)
    else if context.selector = some .text ∧ textual.contains c then (1, Neighbour.plain.toContext)
    else putPlain c right

/-- The sum of what the characters add, and the context that they make. -/
def total (s : List Char) : Int × Context :=
  s.foldr
    (fun c (n, context) =>
      let (change, context) := put c context
      (n + change, context))
    (0, Neighbour.plain.toContext)

/-- The display width of a text. -/
def width (s : List Char) : Nat := (total s).1.toNat

theorem total_cons (c : Char) (s : List Char) :
    total (c :: s) = ((total s).1 + (put c (total s).2).1, (put c (total s).2).2) := rfl

end LexicalScope.Text.Width
