import HeaderIndex.Pattern.Regex.Case
import HeaderIndex.Text.Digit
import HeaderIndex.Text.Space
import HeaderIndex.Text.WordTable

/-!
# Regular expressions

The expressions that select header files, and what they match.  `Regex.ends` lists the ways in
which an expression matches from a place on, the preferred one first; captured groups are kept for
references back to them.  `Regex.occursIn` asks for a match anywhere in a text.
-/

namespace HeaderIndex

/-- Settings of an expression or of a part of it. -/
structure RegexFlags where
  ignoreCase : Bool
  multiLine : Bool
  dotAll : Bool
  spaced : Bool
  /-- classes hold ASCII only, and case is that of ASCII -/
  ascii : Bool
  /-- classes and case are those of Unicode, as they are without settings -/
  unicode : Bool
  /-- repetition is not allowed -/
  template : Bool
  deriving DecidableEq, Repr

namespace RegexFlags

/-- No settings. -/
def none : RegexFlags := ⟨false, false, false, false, false, false, false⟩

/-- Combines two groups of settings one by one. -/
def zip (f : Bool → Bool → Bool) (a b : RegexFlags) : RegexFlags :=
  ⟨f a.ignoreCase b.ignoreCase, f a.multiLine b.multiLine, f a.dotAll b.dotAll,
    f a.spaced b.spaced, f a.ascii b.ascii, f a.unicode b.unicode, f a.template b.template⟩

/-- The settings of either group. -/
def union : RegexFlags → RegexFlags → RegexFlags := zip (· || ·)

/-- The settings of the first group that are not in the second. -/
def without : RegexFlags → RegexFlags → RegexFlags := zip fun a b => a && !b

/-- The settings that both groups have. -/
def common : RegexFlags → RegexFlags → RegexFlags := zip (· && ·)

/-- Whether an alphabet is chosen. -/
def choosesAlphabet (flags : RegexFlags) : Bool := flags.ascii || flags.unicode

/-- The settings of a part that turns some on and some off.  An alphabet that is turned on takes the
place of the one there is. -/
def within (flags on off : RegexFlags) : RegexFlags :=
  let kept := if on.choosesAlphabet then { flags with ascii := false, unicode := false } else flags
  (kept.union on).without off

end RegexFlags

/-- A class of characters with a name. -/
inductive CharClass where
  | digit
  | space
  | word
  deriving DecidableEq, Repr

/-- A member of a set of characters.  Characters are given by their code points, which may also be
those of surrogates. -/
inductive SetItem where
  | range (first last : Nat)
  | named (charClass : CharClass) (negated : Bool)
  deriving DecidableEq, Repr

/-- How many repetitions are preferred. -/
inductive Greed where
  /-- many, but fewer if the rest asks for it -/
  | greedy
  /-- few, but more if the rest asks for it -/
  | lazy
  /-- many, whatever the rest asks for -/
  | possessive
  deriving DecidableEq, Repr

/-- Which way to look around a place. -/
inductive Direction where
  | ahead
  /-- at a number of characters in front -/
  | behind (width : Nat)
  deriving DecidableEq, Repr

/-- A regular expression. -/
inductive Regex where
  | empty
  /-- a character, by its code point -/
  | char (code : Nat)
  | anyChar
  | set (negated : Bool) (items : List SetItem)
  | seq (first second : Regex)
  | alt (first second : Regex)
  | rep (min : Nat) (max : Option Nat) (greed : Greed) (body : Regex)
  | group (index : Nat) (body : Regex)
  /-- a part with settings of its own -/
  | within (on off : RegexFlags) (body : Regex)
  | atomic (body : Regex)
  | reference (index : Nat)
  /-- one of two expressions, depending on whether a group has matched -/
  | ifGroup (index : Nat) (yes no : Regex)
  /-- the start of the text, or of a line -/
  | start
  /-- the end of the text, also in front of a last line break, or of a line -/
  | stop
  | textStart
  | textEnd
  | wordBoundary (negated : Bool)
  | look (direction : Direction) (negated : Bool) (body : Regex)
  deriving DecidableEq, Repr

/-- How many characters the texts that an expression matches have: at least and at most, the latter if
there is a bound. -/
structure Width where
  least : Nat
  most : Option Nat
  deriving DecidableEq, Repr

namespace Width

/-- A certain number of characters. -/
def exactly (count : Nat) : Width := ⟨count, some count⟩

/-- The width of one text behind another. -/
def add (a b : Width) : Width := ⟨a.least + b.least, do return (← a.most) + (← b.most)⟩

/-- The width of one text or another. -/
def or (a b : Width) : Width :=
  ⟨Nat.min a.least b.least, do return Nat.max (← a.most) (← b.most)⟩

/-- The width of repeated texts.  Nothing comes of no repetition, and of repeated empty texts. -/
def times (min : Nat) (max : Option Nat) (width : Width) : Width :=
  ⟨min * width.least,
    if max = some 0 ∨ width.most = some 0 then some 0 else do return (← max) * (← width.most)⟩

end Width

namespace Regex

/-- The width of an expression, given those of the groups that it refers to.  Looking around takes no
room. -/
def width (known : Nat → Width) : Regex → Width
  | empty | start | stop | textStart | textEnd | wordBoundary _ | look _ _ _ => .exactly 0
  | char _ | anyChar | set _ _ => .exactly 1
  | seq first second => (first.width known).add (second.width known)
  | alt first second | ifGroup _ first second => (first.width known).or (second.width known)
  | rep min max _ body => (body.width known).times min max
  | group _ body | within _ _ body | atomic body => body.width known
  | reference index => known index

/-- A place in a text: the characters in front of it, the last one first, those behind it, and the
texts of the groups matched on the way. -/
structure Spot where
  before : List Char
  after : List Char
  groups : List (Nat × List Char)
  deriving DecidableEq, Repr

/-- The place one character further. -/
def Spot.next (spot : Spot) (c : Char) (rest : List Char) : Spot :=
  { spot with before := c :: spot.before, after := rest }

/-- The place after a number of characters. -/
def Spot.forward (spot : Spot) (count : Nat) : Spot :=
  { spot with
    before := (spot.after.take count).reverse ++ spot.before, after := spot.after.drop count }

/-- The place in front of a number of characters. -/
def Spot.back (spot : Spot) (count : Nat) : Spot :=
  { spot with
    before := spot.before.drop count, after := (spot.before.take count).reverse ++ spot.after }

/-- Letters, digits and the underscore. -/
def isWordChar (flags : RegexFlags) (c : Char) : Bool :=
  if flags.ascii then c.isAlphanum || c = '_' else Text.wordCharacters.has c.toNat

/-- Whether a character belongs to a class. -/
def inClass (flags : RegexFlags) (c : Char) : CharClass → Bool
  | .digit => if flags.ascii then c.isDigit else Text.isDigit c
  | .space => Text.isSpace c && (!flags.ascii || (c.toNat ≤ 0x20 && !(0x1c ≤ c.toNat && c.toNat < 0x20)))
  | .word => isWordChar flags c

/-- Whether a character is a member of a set. -/
def isMember (flags : RegexFlags) (c : Char) : SetItem → Bool
  | .range first last => first ≤ c.toNat && c.toNat ≤ last
  | .named charClass negated => inClass flags c charClass != negated

/-- A character together with those that differ from it by case, if case does not matter. -/
def variants (flags : RegexFlags) (c : Char) : List Char :=
  if !flags.ignoreCase then [c]
  else if flags.ascii then [c, c.toLower, c.toUpper]
  else caseVariants c

/-- A character in the form in which a text is compared with what a group has matched. -/
def fold (flags : RegexFlags) (c : Char) : Char :=
  if !flags.ignoreCase then c else if flags.ascii then c.toLower else simpleLower c

/-- Whether a text repeats what a group has matched. -/
def sameText (flags : RegexFlags) (text other : List Char) : Bool :=
  text.map (fold flags) = other.map (fold flags)

/-- Whether a word begins or ends at a place, or whether none does if `negated`.  An empty text has
places of neither sort. -/
def atWordBoundary (flags : RegexFlags) (negated : Bool) (spot : Spot) : Bool :=
  let here := spot.before.head?.any (isWordChar flags) != spot.after.head?.any (isWordChar flags)
  here != negated && !(spot.before.isEmpty && spot.after.isEmpty)

/-- The places after exactly `count` steps. -/
def stepsExactly (step : Spot → List Spot) : Nat → Spot → List Spot
  | 0, spot => [spot]
  | count + 1, spot => ((step spot).flatMap (stepsExactly step count)).eraseDups

/-- The places after at most `count` steps.  A step that stays where it is is the last one. -/
def stepsUpTo (step : Spot → List Spot) (few : Bool) : Nat → Spot → List Spot
  | 0, spot => [spot]
  | count + 1, spot =>
    let more := (step spot).flatMap fun moved =>
      if moved.after.length < spot.after.length then stepsUpTo step few count moved else [moved]
    (if few then spot :: more else more ++ [spot]).eraseDups

/-- The places up to which an expression matches from a place on, the preferred one first. -/
def ends (flags : RegexFlags) : Regex → Spot → List Spot
  | empty, spot => [spot]
  | char code, spot =>
    match spot.after with
    | d :: rest => if (variants flags d).any (·.toNat = code) then [spot.next d rest] else []
    | [] => []
  | anyChar, spot =>
    match spot.after with
    | d :: rest => if d ≠ '\n' ∨ flags.dotAll then [spot.next d rest] else []
    | [] => []
  | set negated items, spot =>
    match spot.after with
    | d :: rest =>
      let member := (variants flags d).any fun v => items.any (isMember flags v)
      if member != negated then [spot.next d rest] else []
    | [] => []
  | seq first second, spot => ((ends flags first spot).flatMap (ends flags second)).eraseDups
  | alt first second, spot => (ends flags first spot ++ ends flags second spot).eraseDups
  | rep min max greed body, spot =>
    -- more steps than there are characters bring nothing new, but for one that stays where it is
    let enough := spot.after.length + 1
    let least := Nat.min min enough
    let most := match max with
      | some max => Nat.min (max - min) enough
      | none => enough
    -- a possessive repetition holds on to the first match of each step
    let step := fun spot =>
      if greed = .possessive then (ends flags body spot).take 1 else ends flags body spot
    let all := (stepsExactly step least spot).flatMap (stepsUpTo step (greed = .lazy) most)
    if greed = .possessive then all.take 1 else all.eraseDups
  | group index body, spot =>
    (ends flags body spot).map fun stop =>
      let text := spot.after.take (spot.after.length - stop.after.length)
      { stop with groups := (index, text) :: stop.groups.filter (·.1 ≠ index) }
  | within on off body, spot => ends (flags.within on off) body spot
  | atomic body, spot => (ends flags body spot).take 1
  | reference index, spot =>
    match spot.groups.lookup index with
    | some text =>
      if sameText flags text (spot.after.take text.length) then [spot.forward text.length] else []
    | none => []
  | ifGroup index yes no, spot =>
    if (spot.groups.lookup index).isSome then ends flags yes spot else ends flags no spot
  | start, spot =>
    if spot.before = [] ∨ (flags.multiLine ∧ spot.before.head? = some '\n') then [spot] else []
  | stop, spot =>
    if spot.after = [] ∨ spot.after = ['\n'] ∨ (flags.multiLine ∧ spot.after.head? = some '\n') then
      [spot]
    else []
  | textStart, spot => if spot.before = [] then [spot] else []
  | textEnd, spot => if spot.after = [] then [spot] else []
  | wordBoundary negated, spot => if atWordBoundary flags negated spot then [spot] else []
  | look direction negated body, spot =>
    let found := match direction with
      | .ahead => ends flags body spot
      | .behind width =>
        if spot.before.length < width then []
        else (ends flags body (spot.back width)).filter (·.after.length = spot.after.length)
    match found, negated with
    | [], true => [spot]
    | first :: _, false => [{ spot with groups := first.groups }]
    | _, _ => []

/-- Whether an expression matches from some place on, given the characters in front. -/
def occursFrom (flags : RegexFlags) (regex : Regex) (before : List Char) : List Char → Bool
  | [] => !(regex.ends flags ⟨before, [], []⟩).isEmpty
  | c :: rest =>
    !(regex.ends flags ⟨before, c :: rest, []⟩).isEmpty || occursFrom flags regex (c :: before) rest

/-- Whether an expression matches anywhere in a text. -/
def occursIn (flags : RegexFlags) (regex : Regex) (text : String) : Bool :=
  occursFrom flags regex [] text.toList

end Regex

end HeaderIndex
