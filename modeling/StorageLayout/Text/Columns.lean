import StorageLayout.Text.Emoji
import StorageLayout.Text.Wide
import StorageLayout.Text.ZeroWidth

/-!
# Terminal columns

How many columns of a terminal a text takes: none for characters that join the one before them, two
for wide ones and for emoji, one for the rest. Some characters are drawn together: an emoji with its
colour of skin, emoji that a joiner ties to each other, the letters of a flag, and the ligatures of
a few scripts. Such a group takes fewer columns than its characters alone.

A text is measured from its end, because what a character adds depends on what follows it. Each step
keeps of the rest of the text only what bears on the character before it.
-/
namespace StorageLayout.Text

/-- The sign that ties the characters around it to each other. -/
def joiner : Char := '\u200d'

/-- The mark after a character that asks for its emoji form. -/
def emojiSelector : Char := '\ufe0f'

/-- The mark after a character that asks for its text form. -/
def textSelector : Char := '\ufe0e'

/-- The mark after a quotation mark that asks for its full-width form. -/
def fullWidthSelector : Char := '\ufe01'

/-- The sign that puts the character before it on a key. -/
def keycap : Char := '\u20e3'

/-- Quotation marks, which have a full-width form. -/
def isQuotationMark (c : Char) : Bool :=
  c = '\u2018' || c = '\u2019' || c = '\u201c' || c = '\u201d'

def isFlagLetter (c : Char) : Bool := 0x1f1e6 ≤ c.toNat && c.toNat ≤ 0x1f1ff

def isSkinTone (c : Char) : Bool := 0x1f3fb ≤ c.toNat && c.toNat ≤ 0x1f3ff

/-- The flag that tags after it turn into the flag of a region. -/
def isTaggedFlag (c : Char) : Bool := c.toNat = 0x1f3f4

def isTagLetter (c : Char) : Bool := 0xe0061 ≤ c.toNat && c.toNat ≤ 0xe007a

def isTagDigit (c : Char) : Bool := 0xe0030 ≤ c.toNat && c.toNat ≤ 0xe0039

/-- The tag that ends a row of tags. -/
def isTagEnd (c : Char) : Bool := c.toNat = 0xe007f

/-- Marks that are ignored by default. They stand inside a ligature without breaking it. -/
def ignoredMarks : CharRanges := ⟨[
  (0x34f, 0x34f), (0x17b4, 0x17b5), (0x180b, 0x180d), (0x180f, 0x180f), (0xfe00, 0xfe0f),
  (0xe0100, 0xe01ef)]⟩

/-- Arabic letters that are joined like alef. -/
def alefs : CharRanges := ⟨[
  (0x622, 0x623), (0x625, 0x625), (0x627, 0x627), (0x671, 0x673), (0x675, 0x675), (0x773, 0x774),
  (0x870, 0x882)]⟩

/-- Arabic letters that are joined like lam. -/
def lams : CharRanges := ⟨[
  (0x644, 0x644), (0x6b5, 0x6b8), (0x76a, 0x76a), (0x8a6, 0x8a6), (0x8c7, 0x8c7)]⟩

/-- Khmer letters that are written under the letter before them after the sign coeng. -/
def subscriptLetters : CharRanges := ⟨[
  (0x1780, 0x1782), (0x1784, 0x1787), (0x1789, 0x178c), (0x178e, 0x1793), (0x1795, 0x1798),
  (0x179b, 0x179d), (0x17a0, 0x17a0), (0x17a2, 0x17a2), (0x17a7, 0x17a7), (0x17ab, 0x17ac),
  (0x17af, 0x17af)]⟩

def tifinaghConsonants : CharRanges := ⟨[(0x2d31, 0x2d65), (0x2d6f, 0x2d6f)]⟩

/-- The end of a ligature, which is the first of it to be met. -/
inductive LigatureEnd where
  /-- Arabic alef, after a lam. -/
  | alef
  /-- Hebrew lamed, after a joiner and an alef. -/
  | lamed
  /-- A Khmer letter, after the sign coeng. -/
  | subscriptLetter
  /-- Buginese ya, after a joiner and the vowel sign i. -/
  | ya
  /-- Buginese ya with the vowel sign i, after an a. -/
  | vowelYa
  /-- A Tifinagh consonant, after another one and a joiner or the consonant joiner. -/
  | tifinaghConsonant
  /-- A Tifinagh consonant with the consonant joiner, after another one. -/
  | joinedConsonant
  /-- A Lisu tone letter of the second series, after one of the first. -/
  | lisuTone
  /-- Old Turkic i, after a joiner and an ash. -/
  | orkhonI
  deriving DecidableEq, Repr

/-- What follows a character, as far as it may be drawn together with it. -/
inductive Following where
  | unrelated
  | lineFeed
  /-- The end of a ligature, and whether a joiner stands before it. -/
  | ligature (final : LigatureEnd) (joined : Bool)
  /-- The vowel e of Kirat Rai. -/
  | vowelE
  /-- The vowel ai of Kirat Rai. -/
  | vowelAi
  | skinTone
  /-- One letter of a flag. -/
  | flagLetter
  /-- Letters of flags. -/
  | flagLetters
  | emoji
  /-- A joiner before an emoji. -/
  | joinedEmoji
  /-- A keycap before a joiner and an emoji. -/
  | joinedKeycap
  /-- A letter of a flag before a joiner and an emoji. -/
  | joinedFlagLetter
  /-- Several letters of flags before a joiner and an emoji, and whether they are even in number. -/
  | joinedFlagLetters (isEven : Bool)
  /-- Tags before a joiner and an emoji: the letters, if no digit stands before them, and the digits
  before the letters. -/
  | joinedTags (letters digits : Nat)
  deriving DecidableEq, Repr

/-- What follows a character, with the selectors that stand between and may apply to it. -/
structure Context where
  following : Following := .unrelated
  asEmoji : Bool := false
  asText : Bool := false
  fullWidth : Bool := false
  deriving DecidableEq, Repr

namespace Following

/-- Whether selectors may stand between this and the character before it. -/
def isLigature : Following → Bool
  | ligature _ _ => true
  | _ => false

/-- Whether the character before a selector for emoji may still belong to a sequence of emoji. -/
def continuesEmoji : Following → Bool
  | joinedEmoji | joinedKeycap => true
  | _ => false

end Following

namespace Context

def of (following : Following) : Context := { following }

/-- A selector for the emoji form comes in between. -/
def selectEmoji (next : Context) : Context :=
  if next.following.isLigature || next.following.continuesEmoji then { next with asEmoji := true }
  else { asEmoji := true }

/-- A selector for the text form comes in between. -/
def selectText (next : Context) : Context :=
  if next.following.isLigature then { next with asText := true } else { asText := true }

/-- A selector for the full-width form comes in between. -/
def selectFullWidth (next : Context) : Context :=
  if next.following.isLigature then { next with fullWidth := true } else { fullWidth := true }

/-- The selector for the emoji form did not apply to the character it stands after. -/
def dropEmoji (next : Context) : Context :=
  if next.following.isLigature then { next with asEmoji := false } else {}

end Context

def charColumns (c : Char) : Nat :=
  if c.toNat = 0x17d8 then 3
  else if zeroWidth.contains c then 0
  else if wide.contains c then 2
  else 1

/-- The ligature that may end in a character. -/
def ligatureEnd? (c : Char) : Option LigatureEnd :=
  if alefs.contains c then some .alef
  else if c = '\u05dc' then some .lamed
  else if subscriptLetters.contains c then some .subscriptLetter
  else if c = '\u1a10' then some .ya
  else if tifinaghConsonants.contains c then some .tifinaghConsonant
  else if c = '\ua4fc' || c = '\ua4fd' then some .lisuTone
  else if c.toNat = 0x10c03 then some .orkhonI
  else none

/-- A character as what follows the one before it. -/
def Context.before (c : Char) : Context :=
  if c = emojiSelector then { asEmoji := true }
  else if c = textSelector then { asText := true }
  else if c = fullWidthSelector then { fullWidth := true }
  else if c.toNat = 0x16d67 then .of .vowelE
  else if c.toNat = 0x16d68 then .of .vowelAi
  else if isFlagLetter c then .of .flagLetter
  else if isSkinTone c then .of .skinTone
  else if emoji.contains c then .of .emoji
  else
    match ligatureEnd? c with
    | some final => .of (.ligature final false)
    | none => {}

/-- What a character adds before the end of a ligature, if it belongs to the ligature. -/
def ligatureStep (c : Char) (joined : Bool) : LigatureEnd → Option (Int × Context)
  | .alef =>
    if lams.contains c then some (0, {})
    else if zeroWidth.contains c && !lamAlefBarriers.contains c then
      some (0, .of (.ligature .alef joined))
    else none
  | .lamed => if joined && c = '\u05d0' then some (0, {}) else none
  | .subscriptLetter => if c = '\u17d2' then some (-1, {}) else none
  | .ya => if joined && c = '\u1a17' then some (0, .of (.ligature .vowelYa false)) else none
  | .vowelYa => if c = '\u1a15' then some (0, {}) else none
  | .tifinaghConsonant =>
    if c = '\u2d7f' then some (1, .of (.ligature .joinedConsonant false))
    else if joined && tifinaghConsonants.contains c then some (0, {})
    else none
  | .joinedConsonant => if tifinaghConsonants.contains c then some (-1, {}) else none
  | .lisuTone => if 0xa4f8 ≤ c.toNat && c.toNat ≤ 0xa4fb then some (0, {}) else none
  | .orkhonI => if joined && c.toNat = 0x10c32 then some (0, {}) else none

/-- What a character adds before tags, a joiner and an emoji, if it belongs to them. The flag of a
region has three to six letters in its tags, or three digits. -/
def tagStep (c : Char) (letters digits : Nat) : Option (Int × Context) :=
  if isTagLetter c && digits = 0 && letters < 6 then
    some (0, .of (.joinedTags (letters + 1) 0))
  else if isTagDigit c && digits < 3 && (0 < digits || letters ≤ 4) then
    some (0, .of (.joinedTags letters (digits + 1)))
  else if isTaggedFlag c && (digits = 3 || (digits = 0 && 3 ≤ letters)) then
    some (0, .of .emoji)
  else none

/-- What a character adds, and what follows the one before it, if it is drawn together with what
follows it. -/
def groupStep (c : Char) : Following → Option (Int × Context)
  | .unrelated | .lineFeed | .joinedKeycap => none
  | .ligature final joined => ligatureStep c joined final
  | .vowelE =>
    if c.toNat = 0x16d63 || c.toNat = 0x16d69 then some (0, {})
    else if c.toNat = 0x16d67 then some (0, .of .vowelAi)
    else if c.toNat = 0x16d68 then some (1, .of .vowelE)
    else none
  | .vowelAi => if c.toNat = 0x16d63 then some (0, {}) else none
  | .skinTone =>
    if skinToneBases.contains c then some (0, .of .emoji)
    else if c = joiner then some (0, .of .joinedEmoji)
    else none
  | .flagLetter => if isFlagLetter c then some (1, .of .flagLetters) else none
  | .flagLetters =>
    if isFlagLetter c then some (1, .of .flagLetters)
    else if c = joiner then some (0, .of .joinedEmoji)
    else none
  | .emoji => if c = joiner then some (0, .of .joinedEmoji) else none
  | .joinedEmoji =>
    if c = keycap then some (0, .of .joinedKeycap)
    else if isFlagLetter c then some (1, .of .joinedFlagLetter)
    else if isSkinTone c then some (0, .of .skinTone)
    else if isTagEnd c then some (0, .of (.joinedTags 0 0))
    else if emoji.contains c then some (0, .of .emoji)
    else none
  | .joinedFlagLetter => if isFlagLetter c then some (-1, .of (.joinedFlagLetters true)) else none
  | .joinedFlagLetters isEven =>
    if isFlagLetter c then some (if isEven then 3 else -1, .of (.joinedFlagLetters !isEven))
    else if c = joiner then some (0, .of .joinedEmoji)
    else none
  | .joinedTags letters digits => tagStep c letters digits

/-- What a character adds, and what follows the one before it, whether it is drawn together with
what follows it or not. -/
def groupedOrAlone (c : Char) (following : Following) : Int × Context :=
  (groupStep c following).getD (Int.ofNat (charColumns c), Context.before c)

/-- What a character adds that no selector applies to, and what follows the one before it. Joiners
and ignored marks are passed over before the end of a ligature other than alef. -/
def unselectedStep (c : Char) (following : Following) : Int × Context :=
  match following with
  | .ligature .alef _ => groupedOrAlone c following
  | .ligature final _ =>
    if c = joiner then (0, .of (.ligature final true))
    else if ignoredMarks.contains c then (0, .of following)
    else groupedOrAlone c following
  | _ => groupedOrAlone c following

/-- What a character adds to the columns of what follows it, and what follows the character before
it. -/
def columnStep (c : Char) (next : Context) : Int × Context :=
  if next.asEmoji && twoForms.contains c then
    (if next.following.continuesEmoji then 0 else 2, .of .emoji)
  else
    let next := if next.asEmoji then next.dropEmoji else next
    if c.toNat ≤ 0xa0 then
      if c = '\n' then (1, .of .lineFeed)
      else if c = '\r' && next = .of .lineFeed then (0, {})
      else (1, {})
    else if c = emojiSelector then (0, next.selectEmoji)
    else if c = textSelector then (0, next.selectText)
    else if c = fullWidthSelector then (0, next.selectFullWidth)
    else if next.asText && narrowAsText.contains c then (1, {})
    else if next.fullWidth && isQuotationMark c then (2, {})
    else unselectedStep c next.following

def columns (s : String) : Nat :=
  (s.toList.foldr (fun c (sum, next) =>
    let (added, context) := columnStep c next
    (sum + added, context)) ((0 : Int), ({} : Context))).1.toNat

end StorageLayout.Text
