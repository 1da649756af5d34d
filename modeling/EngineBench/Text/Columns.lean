import EngineBench.Text.Emoji
import EngineBench.Text.Extending
import EngineBench.Text.Ranges
import EngineBench.Text.Weightless
import EngineBench.Text.Wide

namespace EngineBench

namespace Text

-- The sign that joins what stands on its two sides.
def joiner : Char := '\u200d'

-- The sign that joins two Tifinagh consonants, and is drawn where it joins none.
def consonantJoiner : Char := '\u2d7f'

-- The columns of a character by itself.
def charColumns (c : Char) : Nat :=
  if c ≤ '\u00a0' || c = consonantJoiner then 1
  else if c = '\u17a4' then 2
  else if c = '\u17d8' then 3
  else if inRanges extendingRanges c || inRanges weightlessRanges c then 0
  else if inRanges wideRanges c then 2
  else 1

-- A sign that picks one of the forms of the character before it.
inductive Selector
  | emoji | text | wideQuote
  deriving DecidableEq, Repr

namespace Selector

def ofChar? (c : Char) : Option Selector :=
  if c = '\ufe0f' then some .emoji
  else if c = '\ufe0e' then some .text
  else if c = '\ufe01' then some .wideQuote
  else none

-- The columns of a character in the form picked for it, if it has that form.
def columns? (c : Char) : Selector → Option Nat
  | emoji => if inRanges selectableRanges c then some 2 else none
  | text => if inRanges narrowingRanges c then some 1 else none
  | wideQuote => if c ∈ ['‘', '’', '“', '”'] then some 2 else none

end Selector

-- A letter, or two, that may be drawn as one with the letter to the left. Where a joiner matters,
-- `joined` tells that one has been read.
inductive Ligature
  | lamed (joined : Bool)
  | ya (joined : Bool)
  | vowelYa
  | khmerLetter
  | lisuTone
  | tifinagh (joined : Bool)
  | tifinaghJoined
  | orkhonI (joined : Bool)
  | raiE
  | raiAi
  deriving DecidableEq, Repr

-- The end of an emoji with a joiner to its left, and what has been read of the emoji beyond.
inductive JoinedEmoji
  | whole
  | keycap
  | flagLetter | evenFlagLetters | oddFlagLetters
  | tagEnd
  | tagLetters (n : Nat)
  | tagDigits (n : Nat)
  deriving DecidableEq, Repr

-- What the text to the right of a place begins with, as far as it matters to the left of it.
inductive Opening
  | plain
  | lineEnd
  | emoji
  | skinTone
  | flagLetter | flagLetters
  | joinedEmoji (j : JoinedEmoji)
  | ligature (l : Ligature)
  | alef
  deriving DecidableEq, Repr

def isWithin (first last : Nat) (c : Char) : Bool :=
  first ≤ c.toNat && c.toNat ≤ last

def isFlagLetter (c : Char) : Bool :=
  isWithin 0x1f1e6 0x1f1ff c

def isSkinTone (c : Char) : Bool :=
  isWithin 0x1f3fb 0x1f3ff c

def isTagLetter (c : Char) : Bool :=
  isWithin 0xe0061 0xe007a c

def isTagDigit (c : Char) : Bool :=
  isWithin 0xe0030 0xe0039 c

-- Whether a letter can follow the sign that puts Khmer letters below each other.
def isKhmerLetter (c : Char) : Bool :=
  isWithin 0x1780 0x17af c &&
    !(c ∈ ['\u1783', '\u1788', '\u178d', '\u1794', '\u1799', '\u179a', '\u179e', '\u179f',
      '\u17a1', '\u17a3', '\u17a4', '\u17a5', '\u17a6', '\u17a8', '\u17a9', '\u17aa', '\u17ad',
      '\u17ae'])

def isTifinagh (c : Char) : Bool :=
  isWithin 0x2d31 0x2d65 c || c = '\u2d6f'

def isLam (c : Char) : Bool :=
  c ∈ ['\u0644', '\u06b5', '\u06b6', '\u06b7', '\u06b8', '\u076a', '\u08a6', '\u08c7']

def isAlef (c : Char) : Bool :=
  c ∈ ['\u0622', '\u0623', '\u0625', '\u0627', '\u0671', '\u0672', '\u0673', '\u0675', '\u0773',
    '\u0774'] || isWithin 0x870 0x882 c

-- Whether a character may stand inside a ligature without a trace.
def isUnseen (c : Char) : Bool :=
  c = '\u034f' || isWithin 0x17b4 0x17b5 c || isWithin 0x180b 0x180d c || c = '\u180f' ||
    isWithin 0xfe00 0xfe0f c || isWithin 0xe0100 0xe01ef c

-- Whether a character may stand between two Arabic letters that are joined.
def isSkipped (c : Char) : Bool :=
  charColumns c = 0 && !inRanges partingRanges c

namespace Opening

-- What a text begins with whose first character is this one.
def ofChar (c : Char) : Opening :=
  if c = '\n' then .lineEnd
  else if c = '\u05dc' then .ligature (.lamed false)
  else if isAlef c then .alef
  else if isKhmerLetter c then .ligature .khmerLetter
  else if c = '\u1a10' then .ligature (.ya false)
  else if isTifinagh c then .ligature (.tifinagh false)
  else if c = '\ua4fc' || c = '\ua4fd' then .ligature .lisuTone
  else if c = Char.ofNat 0x10c03 then .ligature (.orkhonI false)
  else if c = Char.ofNat 0x16d67 then .ligature .raiE
  else if c = Char.ofNat 0x16d68 then .ligature .raiAi
  else if isFlagLetter c then .flagLetter
  else if isSkinTone c then .skinTone
  else if inRanges emojiRanges c then .emoji
  else .plain

-- What is left of an opening when a selector comes to stand before it.
def select (s : Selector) : Opening → Opening
  | ligature l => .ligature l
  | alef => .alef
  | joinedEmoji .whole => if s = .emoji then .joinedEmoji .whole else .plain
  | joinedEmoji .keycap => if s = .emoji then .joinedEmoji .keycap else .plain
  | _ => .plain

-- What is left of an opening when the selector before it has picked nothing.
def unselect : Opening → Opening
  | ligature l => .ligature l
  | alef => .alef
  | _ => .plain

end Opening

namespace Ligature

def join : Ligature → Ligature
  | lamed _ => .lamed true
  | ya _ => .ya true
  | tifinagh _ => .tifinagh true
  | orkhonI _ => .orkhonI true
  | l => l

-- What a character to the left adds, if it is drawn as one with the ligature.
def extend? (c : Char) : Ligature → Option (Int × Opening)
  | lamed true => if c = '\u05d0' then some (0, .plain) else none
  | ya true => if c = '\u1a17' then some (0, .ligature .vowelYa) else none
  | vowelYa => if c = '\u1a15' then some (0, .plain) else none
  | khmerLetter => if c = '\u17d2' then some (-1, .plain) else none
  | lisuTone => if isWithin 0xa4f8 0xa4fb c then some (0, .plain) else none
  | tifinagh joined =>
    if c = consonantJoiner then some (1, .ligature .tifinaghJoined)
    else if joined && isTifinagh c then some (0, .plain)
    else none
  | tifinaghJoined => if isTifinagh c then some (-1, .plain) else none
  | orkhonI true => if c = Char.ofNat 0x10c32 then some (0, .plain) else none
  | raiE =>
    if c = Char.ofNat 0x16d63 || c = Char.ofNat 0x16d69 then some (0, .plain)
    else if c = Char.ofNat 0x16d67 then some (0, .ligature .raiAi)
    else if c = Char.ofNat 0x16d68 then some (1, .ligature .raiE)
    else none
  | raiAi => if c = Char.ofNat 0x16d63 then some (0, .plain) else none
  | _ => none

end Ligature

namespace JoinedEmoji

-- What a character to the left adds, if it belongs to the emoji beyond the joiner. Flag letters
-- are taken in pairs from the right.
def extend? (c : Char) : JoinedEmoji → Option (Int × Opening)
  | whole =>
    if c = '\u20e3' then some (0, .joinedEmoji .keycap)
    else if isFlagLetter c then some (1, .joinedEmoji .flagLetter)
    else if isSkinTone c then some (0, .skinTone)
    else if c = Char.ofNat 0xe007f then some (0, .joinedEmoji .tagEnd)
    else if Opening.ofChar c = .emoji then some (0, .emoji)
    else none
  | keycap => none
  | flagLetter => if isFlagLetter c then some (-1, .joinedEmoji .evenFlagLetters) else none
  | oddFlagLetters =>
    if isFlagLetter c then some (-1, .joinedEmoji .evenFlagLetters)
    else if c = joiner then some (0, .joinedEmoji .whole)
    else none
  | evenFlagLetters =>
    if isFlagLetter c then some (3, .joinedEmoji .oddFlagLetters)
    else if c = joiner then some (0, .joinedEmoji .whole)
    else none
  | tagEnd =>
    if isTagLetter c then some (0, .joinedEmoji (.tagLetters 1))
    else if isTagDigit c then some (0, .joinedEmoji (.tagDigits 1))
    else none
  | tagLetters n =>
    if isTagLetter c && n < 6 then some (0, .joinedEmoji (.tagLetters (n + 1)))
    else if isTagDigit c && n ≤ 4 then some (0, .joinedEmoji (.tagDigits 1))
    else if c = Char.ofNat 0x1f3f4 && 3 ≤ n then some (0, .emoji)
    else none
  | tagDigits n =>
    if isTagDigit c && n < 3 then some (0, .joinedEmoji (.tagDigits (n + 1)))
    else if c = Char.ofNat 0x1f3f4 && n = 3 then some (0, .emoji)
    else none

end JoinedEmoji

namespace Opening

-- What a character to the left adds, if that depends on the opening.
def extend? (c : Char) : Opening → Option (Int × Opening)
  | plain => none
  | lineEnd => none
  | emoji => if c = joiner then some (0, .joinedEmoji .whole) else none
  | skinTone =>
    if inRanges skinRanges c then some (0, .emoji)
    else if c = joiner then some (0, .joinedEmoji .whole)
    else none
  | flagLetter => if isFlagLetter c then some (1, .flagLetters) else none
  | flagLetters =>
    if isFlagLetter c then some (1, .flagLetters)
    else if c = joiner then some (0, .joinedEmoji .whole)
    else none
  | joinedEmoji j => j.extend? c
  | ligature l =>
    if c = joiner then some (0, .ligature l.join)
    else if isUnseen c then some (0, .ligature l)
    else l.extend? c
  | alef =>
    if isLam c then some (0, .plain)
    else if isSkipped c then some (0, .alef)
    else none

end Opening

-- A place in a line: the opening of the text to the right of it, and a selector that stands there
-- and has not found its character yet.
structure Place where
  opening : Opening
  selector : Option Selector
  deriving DecidableEq, Repr

namespace Place

def lineEnd : Place := ⟨.plain, none⟩

-- What a character adds that no selector picks a form of.
def readPlain (c : Char) (o : Opening) : Int × Place :=
  if c ≤ '\u00a0' then
    if c = '\r' && o = .lineEnd then (0, ⟨.plain, none⟩) else (1, ⟨.ofChar c, none⟩)
  else match Selector.ofChar? c with
    | some s => (0, ⟨o.select s, some s⟩)
    | none =>
      let (n, o) := (o.extend? c).getD (charColumns c, .ofChar c)
      (n, ⟨o, none⟩)

-- The columns that a character adds on the left of a place, and the place on its left.
def read (c : Char) (p : Place) : Int × Place :=
  match p.selector with
  | none => readPlain c p.opening
  | some s =>
    match s.columns? c, p.opening with
    | some _, .joinedEmoji _ => (0, ⟨.emoji, none⟩)
    | some n, _ => (n, ⟨if s = .emoji then .emoji else .plain, none⟩)
    | none, o => readPlain c o.unselect

end Place

-- A line is read from its end, since what follows a character tells what it adds.
def columns (s : String) : Nat :=
  (s.toList.foldr (fun c (n, p) => let (m, p) := p.read c; (n + m, p))
    ((0, Place.lineEnd) : Int × Place)).1.toNat

end Text

end EngineBench
