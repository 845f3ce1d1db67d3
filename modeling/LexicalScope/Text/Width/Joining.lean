import LexicalScope.Text.Width.Classes

/-!
# Characters that join

Some characters are drawn as one with what follows them: an emoji with its skin tone, two regional
indicators as a flag, emoji with a joiner between them, and pairs of letters in several scripts.
What a character adds to the width of a text then differs from its own width.

* `Neighbour` — what follows a character, as far as the width of both together depends on it
* `joinEmoji?`, `joinLetter?` — what a character adds that joins its neighbour, and what the two
  are to the character before them; none if they do not join
* `Neighbour.letter` — the part of a neighbour that is seen across a selector
-/

namespace LexicalScope.Text.Width

/-- What follows a character. -/
inductive Neighbour where
  /-- nothing that matters -/
  | plain
  | lineFeed
  | tone
  | emoji
  /-- a joiner and an emoji after it -/
  | joined
  /-- the keycap U+20E3, then a joiner and an emoji -/
  | keycap
  /-- one regional indicator -/
  | indicator
  /-- at least two regional indicators -/
  | indicators
  /-- one regional indicator, then a joiner and an emoji -/
  | joinedIndicator
  /-- regional indicators in pairs, then a joiner and an emoji -/
  | joinedPairs
  /-- an odd number of regional indicators, at least three, then a joiner and an emoji -/
  | joinedOdd
  /-- tags for so many letters and the end tag, then a joiner and an emoji -/
  | letterTags (count : Nat)
  /-- tags for so many digits, before letter tags or the end tag, then a joiner and an emoji -/
  | digitTags (count : Nat)
  | alef
  /-- the Hebrew letter lamed, with a joiner before it or not -/
  | lamed (isJoined : Bool)
  /-- the Buginese letter ya, with a joiner before it or not -/
  | ya (isJoined : Bool)
  /-- the Buginese vowel i, then a joiner and the letter ya -/
  | vowelYa
  /-- a Tifinagh consonant, with a joiner before it or not -/
  | consonant (isJoined : Bool)
  /-- the Tifinagh sign that binds consonants, then a consonant -/
  | boundConsonant
  /-- a Lisu tone letter that joins the tone letter before it -/
  | toneLetter
  /-- the Old Turkic letter i, with a joiner before it or not -/
  | turkicI (isJoined : Bool)
  /-- a Khmer letter that can be drawn under the one before it -/
  | subscript
  deriving Repr, DecidableEq

/-- U+200D. -/
def joiner : Char := '\u200D'

def isTone (c : Char) : Bool := 0x1F3FB ≤ c.toNat && c.toNat ≤ 0x1F3FF

def isIndicator (c : Char) : Bool := 0x1F1E6 ≤ c.toNat && c.toNat ≤ 0x1F1FF

/-- The black flag, the emoji in front of tags. -/
def isFlag (c : Char) : Bool := c.toNat = 0x1F3F4

def isEndTag (c : Char) : Bool := c.toNat = 0xE007F

/-- The letters within tagged emoji. -/
def isLetterTag (c : Char) : Bool := 0xE0061 ≤ c.toNat && c.toNat ≤ 0xE007A

/-- The digits within them. -/
def isDigitTag (c : Char) : Bool := 0xE0030 ≤ c.toNat && c.toNat ≤ 0xE0039

/-- A Lisu tone letter that is written in front of another one. -/
def isFirstTone (c : Char) : Bool := 0xA4F8 ≤ c.toNat && c.toNat ≤ 0xA4FB

/-- What the character is to the one before it. -/
def Neighbour.ofChar (c : Char) : Neighbour :=
  if c.toNat ≤ 0xA0 then (if c = '\n' then .lineFeed else .plain)
  else if isTone c then .tone
  else if isIndicator c then .indicator
  else if emojis.contains c then .emoji
  else if alefs.contains c then .alef
  else if c = '\u05DC' then .lamed false
  else if c = '\u1A10' then .ya false
  else if consonants.contains c then .consonant false
  else if c = '\uA4FC' || c = '\uA4FD' then .toneLetter
  else if c.toNat = 0x10C03 then .turkicI false
  else if subscripts.contains c then .subscript
  else .plain

/-! ## Emoji -/

/-- What a character adds that joins emoji after it. Whatever joins them takes no column, but a
regional indicator takes one until the next one makes them a flag. -/
def joinEmoji? (c : Char) : Neighbour → Option (Int × Neighbour)
  | .tone =>
    if modifierBases.contains c then some (0, .emoji)
    else if c = joiner then some (0, .joined)
    else none
  | .emoji => if c = joiner then some (0, .joined) else none
  | .joined =>
    if c = '\u20E3' then some (0, .keycap)
    else if isIndicator c then some (1, .joinedIndicator)
    else if isTone c then some (0, .tone)
    else if isEndTag c then some (0, .letterTags 0)
    else if emojis.contains c then some (0, .emoji)
    else none
  | .indicator => if isIndicator c then some (1, .indicators) else none
  | .indicators =>
    if isIndicator c then some (1, .indicators)
    else if c = joiner then some (0, .joined)
    else none
  | .joinedIndicator => if isIndicator c then some (-1, .joinedPairs) else none
  | .joinedPairs =>
    if isIndicator c then some (3, .joinedOdd)
    else if c = joiner then some (0, .joined)
    else none
  | .joinedOdd =>
    if isIndicator c then some (-1, .joinedPairs)
    else if c = joiner then some (0, .joined)
    else none
  | .letterTags n =>
    if isLetterTag c && n < 6 then some (0, .letterTags (n + 1))
    else if isDigitTag c && n ≤ 4 then some (0, .digitTags 1)
    else if isFlag c && 3 ≤ n then some (0, .emoji)
    else none
  | .digitTags n =>
    if isDigitTag c && n < 3 then some (0, .digitTags (n + 1))
    else if isFlag c && n = 3 then some (0, .emoji)
    else none
  | _ => none

/-! ## Letters -/

/-- What is left of the neighbour when a selector or an ignorable mark comes in between: the
letters. -/
def Neighbour.letter : Neighbour → Neighbour
  | .alef => .alef
  | .lamed isJoined => .lamed isJoined
  | .ya isJoined => .ya isJoined
  | .vowelYa => .vowelYa
  | .consonant isJoined => .consonant isJoined
  | .boundConsonant => .boundConsonant
  | .toneLetter => .toneLetter
  | .turkicI isJoined => .turkicI isJoined
  | .subscript => .subscript
  | _ => .plain

/-- Whether the invisible character does not come between Arabic letters. -/
def isTransparent (c : Char) : Bool := invisible.contains c && !separators.contains c

/-- What comes between letters without parting them: marks that are ignorable, and the joiner,
which some letters need. -/
def passLetter? (c : Char) (right : Neighbour) : Option Neighbour :=
  if c = joiner then
    match right with
    | .lamed _ => some (.lamed true)
    | .ya _ => some (.ya true)
    | .consonant _ => some (.consonant true)
    | .turkicI _ => some (.turkicI true)
    | right => some right
  else if ignorableMarks.contains c then some right
  else none

/-- What a letter adds that is drawn as one with the letter after it. -/
def meetLetter? (c : Char) : Neighbour → Option (Int × Neighbour)
  | .lamed true => if c = '\u05D0' then some (0, .plain) else none
  | .ya true => if c = '\u1A17' then some (0, .vowelYa) else none
  | .vowelYa => if c = '\u1A15' then some (0, .plain) else none
  | .consonant isJoined =>
    if c = '\u2D7F' then some (1, .boundConsonant)
    else if isJoined && consonants.contains c then some (0, .plain)
    else none
  | .boundConsonant => if consonants.contains c then some (-1, .plain) else none
  | .toneLetter => if isFirstTone c then some (0, .plain) else none
  | .turkicI true => if c.toNat = 0x10C32 then some (0, .plain) else none
  | .subscript => if c = '\u17D2' then some (-1, .plain) else none
  | _ => none

/-- What a character adds that joins the letter after it. Between Arabic letters any transparent
character may stand, but no joiner. -/
def joinLetter? (c : Char) (right : Neighbour) : Option (Int × Neighbour) :=
  match right.letter with
  | .plain => none
  | .alef =>
    if lams.contains c then some (0, .plain)
    else if isTransparent c then some (0, .alef)
    else none
  | letter =>
    match passLetter? c letter with
    | some letter => some (0, letter)
    | none => meetLetter? c letter

end LexicalScope.Text.Width
