import HeaderIndex.Number.Numeral
import HeaderIndex.Pattern.Regex
import HeaderIndex.Text.IdentifierTable

/-!
# The notation of regular expressions

`Regex.parse` reads an expression and the settings at its start.  The notation has alternatives,
repetition with its lazy and possessive forms, sets, classes, groups with numbers and names and
references to them, atomic groups, conditions, looking around, and settings for the whole or for a
part.  Characters can be given by their names; these are looked up outside of this library.

A text is read sign by sign: a sign is a character, or a backslash together with the character behind
it.  What is wrong with a text is said by a `RegexError`.
-/

namespace HeaderIndex

/-- Why a text describes no regular expression. -/
inductive RegexError where
  | malformed
  /-- a number is larger than any that is counted with -/
  | tooLarge
  /-- a value is refused, and this is told about it -/
  | refused (message : String)
  deriving DecidableEq, Repr

namespace Regex

/-- A sign of the notation. -/
inductive Sign where
  | plain (c : Char)
  /-- a backslash and the character behind it -/
  | escaped (c : Char)
  deriving DecidableEq, Repr

/-- The characters of a sign. -/
def Sign.text : Sign → List Char
  | plain c => [c]
  | escaped c => ['\\', c]

/-- The signs of a text, and whether there is a backslash at its end with nothing behind it. -/
def signs : List Char → List Sign × Bool
  | [] => ([], false)
  | ['\\'] => ([], true)
  | '\\' :: c :: rest => let (more, dangling) := signs rest; (.escaped c :: more, dangling)
  | c :: rest => let (more, dangling) := signs rest; (.plain c :: more, dangling)

/-- What has been read of an expression so far. -/
structure Reading where
  rest : List Sign
  /-- whether a backslash stands behind the rest -/
  dangling : Bool
  /-- how many groups have been opened -/
  groups : Nat
  names : List (String × Nat)
  /-- the groups that have been read to their ends -/
  widths : List (Nat × Width)
  flags : RegexFlags
  /-- the numbers of groups that conditions ask for -/
  asked : List Nat
  /-- how many groups were opened before the outermost look behind in which the reading stands -/
  behindFrom : Option Nat
  /-- whether anything is repeated -/
  repeats : Bool
  /-- whether something looks behind at texts of different or overlong widths -/
  unfixed : Bool
  deriving Repr

/-- A step of reading, which may fail.  It is given the characters with names. -/
abbrev Parse := ReaderT (String → Option Char) (StateT Reading (Except RegexError))

namespace Parse

/-- Gives up on a text that breaks the rules. -/
def malformed {α : Type} : Parse α := throw .malformed

/-- Goes on to the sign behind the next one, which is looked at already: a lone backslash is an error
as soon as nothing else is left. -/
def skip : Parse Unit := do
  let reading ← get
  let rest := reading.rest.tail
  if rest = [] ∧ reading.dangling = true then malformed else modify ({ · with rest })

/-- Takes the next sign, which there has to be. -/
def next : Parse Sign := do
  match (← get).rest with
  | [] => malformed
  | sign :: _ =>
    skip
    return sign

/-- Takes the next sign if it is the given character. -/
def accept (c : Char) : Parse Bool := do
  if (← get).rest.head? = some (.plain c) then
    skip
    return true
  else return false

/-- Takes the next sign, which has to be the given character. -/
def expect (c : Char) : Parse Unit := do
  if ← accept c then return () else malformed

/-- Takes characters of a sort, at most `limit` of them. -/
def takeSome (sort : Char → Bool) : Nat → Parse (List Char)
  | 0 => return []
  | limit + 1 => do
    match (← get).rest with
    | .plain c :: _ =>
      if sort c then
        skip
        return c :: (← takeSome sort limit)
      else return []
    | _ => return []

/-- Takes all characters of a sort. -/
def takeAll (sort : Char → Bool) : Parse (List Char) := do
  takeSome sort (← get).rest.length

/-- Takes everything in front of a character, and that character. -/
def takeUpTo (stop : Char) : Nat → Parse (List Char)
  | 0 => malformed
  | limit + 1 => do
    let sign ← next
    if sign = .plain stop then return [] else return sign.text ++ (← takeUpTo stop limit)

/-- Takes a name, which is not empty, and the character behind it. -/
def takeName (stop : Char) : Parse (List Char) := do
  let name ← takeUpTo stop ((← get).rest.length + 1)
  if name = [] then malformed else return name

end Parse

open Parse

/-! ## Characters and references -/

/-- Digits of octal numbers. -/
def isOctalDigit (c : Char) : Bool := '0' ≤ c && c ≤ '7'

/-- Digits of hexadecimal numbers. -/
def isHexDigit (c : Char) : Bool := c.isDigit || ('a' ≤ c && c ≤ 'f') || ('A' ≤ c && c ≤ 'F')

/-- The number that ASCII digits denote in a base. -/
def numberOf (base : Nat) (ds : List Char) : Nat :=
  ds.foldl (fun n c => n * base + (Text.digitInBase? base c).getD 0) 0

/-- A code point given by `width` hexadecimal digits. -/
def hexCode (width : Nat) : Parse Nat := do
  let ds ← takeSome isHexDigit width
  if ds.length = width then return numberOf 16 ds else malformed

/-- A code point given by octal digits, of which the first one has been taken. -/
def octalCode (first : Char) : Parse Nat := do
  let code := numberOf 8 (first :: (← takeSome isOctalDigit 2))
  if code ≤ 0o377 then return code else malformed

/-- A code point given by eight digits.  Those that are no code points are errors of two kinds. -/
def wideCode : Parse Nat := do
  let code ← hexCode 8
  if 0x80000000 ≤ code then throw .tooLarge
  else if 0x10ffff < code then malformed
  else return code

/-- A code point given by the name of a character in braces. -/
def namedCode : Parse Nat := do
  expect '\x7b'
  let name ← takeName '\x7d'
  match (← read) (String.ofList name) with
  | some c => return c.toNat
  | none => malformed

/-- The control character that a letter stands for after a backslash. -/
def controlChar? : Char → Option Char
  | 'a' => some '\x07'
  | 'f' => some '\x0c'
  | 'n' => some '\n'
  | 'r' => some '\r'
  | 't' => some '\t'
  | 'v' => some '\x0b'
  | _ => none

/-- The class that a letter stands for after a backslash; a capital means its complement. -/
def className? : Char → Option (CharClass × Bool)
  | 'd' => some (.digit, false)
  | 'D' => some (.digit, true)
  | 's' => some (.space, false)
  | 'S' => some (.space, true)
  | 'w' => some (.word, false)
  | 'W' => some (.word, true)
  | _ => none

/-- The code point that a backslash and a letter or sign stand for, inside and outside of sets. -/
def escapedCode (c : Char) : Parse Nat :=
  match c with
  | 'x' => hexCode 2
  | 'u' => hexCode 4
  | 'U' => wideCode
  | 'N' => namedCode
  | c =>
    match controlChar? c with
    | some control => return control.toNat
    | none => if c.isAlphanum then malformed else return c.toNat

/-- Whether a group has been read to its end. -/
def Reading.isComplete (reading : Reading) (index : Nat) : Bool := (reading.widths.lookup index).isSome

/-- Whether a group may be asked for where the reading stands.  While looking behind, this has to be a
complete group from outside. -/
def Reading.isInReach (reading : Reading) (index : Nat) : Bool :=
  reading.behindFrom.all fun outside => reading.isComplete index && index ≤ outside

/-- The width of an expression that stands where the reading does. -/
def Reading.widthOf (reading : Reading) (regex : Regex) : Width :=
  regex.width fun index => (reading.widths.lookup index).getD (.exactly 0)

/-- A reference to a group, which has to be complete. -/
def referTo (index : Nat) : Parse Regex := do
  let reading ← get
  if reading.isComplete index && reading.isInReach index then return .reference index else malformed

/-- What a digit other than zero stands for after a backslash: with two more octal digits a character,
and otherwise a reference to a group by a number of one or two digits. -/
def digitEscape (c : Char) : Parse Regex := do
  match ← takeSome Char.isDigit 1 with
  | [d] =>
    match (← get).rest with
    | .plain e :: _ =>
      if isOctalDigit c && isOctalDigit d && isOctalDigit e then
        skip
        let code := numberOf 8 [c, d, e]
        if code ≤ 0o377 then return .char code else malformed
      else referTo (numberOf 10 [c, d])
    | _ => referTo (numberOf 10 [c, d])
  | _ => referTo (numberOf 10 [c])

/-- What a backslash and a character stand for outside of a set. -/
def escape (c : Char) : Parse Regex := do
  if c = 'A' then return .textStart
  else if c = 'Z' then return .textEnd
  else if c = 'b' then return .wordBoundary false
  else if c = 'B' then return .wordBoundary true
  else if c = '0' then return .char (← octalCode c)
  else if c.isDigit then digitEscape c
  else match className? c with
    | some (charClass, negated) => return .set false [.named charClass negated]
    | none => return .char (← escapedCode c)

/-! ## Sets -/

/-- A member of a set: a character or a class. -/
def setItem : Sign → Parse SetItem
  | .plain c => return .range c.toNat c.toNat
  | .escaped c => do
    if c = 'b' then return .range 0x08 0x08
    else match className? c with
      | some (charClass, negated) => return .named charClass negated
      | none =>
        let code ← if isOctalDigit c then octalCode c else escapedCode c
        return .range code code

/-- The members of a set up to its closing bracket, given those in front of them.  A bracket in first
place is a member. -/
def setItems : Nat → List SetItem → Parse (List SetItem)
  | 0, _ => malformed
  | fuel + 1, done => do
    let sign ← next
    if sign = .plain ']' ∧ done ≠ [] then return done.reverse
    else
      let first ← setItem sign
      if ← accept '-' then
        let sign ← next
        if sign = .plain ']' then return (.range '-'.toNat '-'.toNat :: first :: done).reverse
        else
          let last ← setItem sign
          match first, last with
          | .range low _, .range high _ =>
            if low ≤ high then setItems fuel (.range low high :: done) else malformed
          | _, _ => malformed
      else setItems fuel (first :: done)

/-! ## Repetition -/

/-- A bound on repetitions has to stay below this number. -/
def maxRepeat : Nat := 0xffffffff

/-- The bound that digits denote; no digits denote none. -/
def bound? (ds : List Char) : Parse (Option Nat) := do
  if ds = [] then return none
  else if Numeral.maxDecimalDigits < ds.length then throw (.refused (Numeral.unreadable ds.length))
  else
    let bound := numberOf 10 ds
    if maxRepeat ≤ bound then throw .tooLarge else return some bound

/-- The bounds of a repetition behind an opening brace.  If nothing of that form stands there, the
brace is a character like others. -/
def bounds? : Parse (Option (Nat × Option Nat)) := do
  let before ← get
  if before.rest.head? = some (.plain '\x7d') then return none
  else
    let low ← takeAll Char.isDigit
    let comma ← accept ','
    let high ← if comma then takeAll Char.isDigit else pure low
    if ← accept '\x7d' then
      let min := (← bound? low).getD 0
      let max ← bound? high
      if max.any (· < min) then malformed else return some (min, max)
    else
      modify fun _ => before
      return none

/-- Whether an expression is a mere place, which cannot be repeated. -/
def isPlace : Regex → Bool
  | start | stop | textStart | textEnd | wordBoundary _ => true
  | _ => false

/-- Whether an expression is a repetition, which cannot be repeated once more. -/
def isRepetition : Regex → Bool
  | rep _ _ _ _ => true
  | _ => false

/-- The sign for how many repetitions are preferred. -/
def greed : Parse Greed := do
  if ← accept '?' then return .lazy
  else if ← accept '+' then return .possessive
  else return .greedy

/-- A repetition of the item read last. -/
def repeatLast (min : Nat) (max : Option Nat) : List Regex → Parse (List Regex)
  | [] => malformed
  | last :: done => do
    if isPlace last || isRepetition last then malformed
    else
      modify ({ · with repeats := true })
      return .rep min max (← greed) last :: done

/-! ## Groups -/

/-- The setting that a letter stands for. -/
def flag? : Char → Option RegexFlags
  | 'i' => some { RegexFlags.none with ignoreCase := true }
  | 'm' => some { RegexFlags.none with multiLine := true }
  | 's' => some { RegexFlags.none with dotAll := true }
  | 'x' => some { RegexFlags.none with spaced := true }
  | 'a' => some { RegexFlags.none with ascii := true }
  | 'u' => some { RegexFlags.none with unicode := true }
  | 't' => some { RegexFlags.none with template := true }
  | _ => none

/-- The settings that letters stand for, the first of them given, and the character behind them, which
is one of some. -/
def flagLetters (stops : List Char) : Nat → Char → Parse (RegexFlags × Char)
  | 0, _ => malformed
  | fuel + 1, letter => do
    match flag? letter with
    | none => malformed
    | some flag =>
      match ← next with
      | .escaped _ => malformed
      | .plain c =>
        if c ∈ stops then return (flag, c)
        else
          let (more, last) ← flagLetters stops fuel c
          return (flag.union more, last)

/-- Settings behind the signs that open them, of which the next character has been taken: those turned
on and off, and whether they are for the whole expression. -/
def settings (first : Char) : Parse (RegexFlags × RegexFlags × Bool) := do
  let enough := (← get).rest.length + 1
  let (on, last) ←
    if first = '-' then pure (RegexFlags.none, '-') else flagLetters [')', '-', ':'] enough first
  -- the two alphabets exclude each other
  if on.ascii && on.unicode then malformed
  else if last = ')' then return (on, .none, true)
  else if on.template then malformed
  else if last = ':' then return (on, .none, false)
  else
    match ← next with
    | .escaped _ => malformed
    | .plain letter =>
      let (off, _) ← flagLetters [':'] enough letter
      if off.choosesAlphabet || off.template || on.common off ≠ .none then malformed
      else return (on, off, false)

/-- The number of the group with a name. -/
def groupNamed (name : List Char) : Parse Nat := do
  if !Text.isIdentifier name then malformed
  else match (← get).names.lookup (String.ofList name) with
    | some index => return index
    | none => malformed

/-- Conditions may ask only for groups below this number. -/
def maxGroups : Nat := 1073741823

/-- The group that a condition asks for by a name or a number.  A group with a number may also be one
that follows. -/
def askedGroup (name : List Char) : Parse Nat := do
  if Text.isIdentifier name then groupNamed name
  else match Numeral.integer? 10 name with
    | some (.ofNat (index + 1)) =>
      if maxGroups ≤ index + 1 then malformed
      else
        modify fun r => { r with asked := (index + 1) :: r.asked }
        return index + 1
    | _ => malformed

/-- Opens a group, with a name that no other group has. -/
def openGroup (name : Option (List Char)) : Parse Nat := do
  let reading ← get
  let index := reading.groups + 1
  match name with
  | none => modify ({ · with groups := index })
  | some name =>
    let name := String.ofList name
    if (reading.names.lookup name).isSome then malformed
    else modify ({ · with groups := index, names := (name, index) :: reading.names })
  return index

/-- Closes a group at its parenthesis. -/
def closeGroup (index : Nat) (body : Regex) : Parse Regex := do
  expect ')'
  modify fun r => { r with widths := (index, r.widthOf body) :: r.widths }
  return .group index body

/-- The widest text that can be looked at behind. -/
def maxBehind : Nat := 0xffffffff

/-- The expression that looks behind at what a body matches, the texts of which have one width. -/
def lookBehind (negated : Bool) (body : Regex) : Parse Regex := do
  let width := (← get).widthOf body
  if width.most ≠ some width.least ∨ maxBehind < width.least then
    modify ({ · with unfixed := true })
  return .look (.behind width.least) negated body

/-! ## Whole expressions -/

/-- White space that means nothing in a spaced expression. -/
def isFiller (c : Char) : Bool :=
  c = ' ' || c = '\t' || c = '\n' || c = '\r' || c = '\x0b' || c = '\x0c'

/-- Passes over the rest of a line. -/
def skipLine : Nat → Parse Unit
  | 0 => return ()
  | limit + 1 => do
    match (← get).rest with
    | [] => return ()
    | sign :: _ =>
      skip
      if sign = .plain '\n' then return () else skipLine limit

/-- An expression in sequence. -/
def sequence (items : List Regex) : Regex := items.foldr .seq .empty

mutual

/-- Alternatives up to a closing parenthesis or the end.  `outer` is false inside a group. -/
def alternatives : Nat → Bool → Bool → Parse Regex
  | 0, _, _ => malformed
  | fuel + 1, spaced, outer => do
    let first ← items fuel spaced outer []
    if ← accept '|' then
      let reading ← get
      let spaced := if outer then reading.flags.spaced else spaced
      return .alt (sequence first) (← laterAlternatives fuel spaced)
    else return sequence first

/-- Alternatives after the first one. -/
def laterAlternatives : Nat → Bool → Parse Regex
  | 0, _ => malformed
  | fuel + 1, spaced => do
    let first ← items fuel spaced false []
    if ← accept '|' then return .alt (sequence first) (← laterAlternatives fuel spaced)
    else return sequence first

/-- Items in a row, given those in front of them, the last one first.  Settings for the whole
expression may only stand at its start. -/
def items : Nat → Bool → Bool → List Regex → Parse (List Regex)
  | 0, _, _, _ => malformed
  | fuel + 1, spaced, atStart, done => do
    match (← get).rest with
    | [] => return done.reverse
    | .escaped c :: _ =>
      skip
      items fuel spaced atStart ((← escape c) :: done)
    | .plain c :: _ =>
      if c = '|' ∨ c = ')' then return done.reverse
      else
        skip
        if spaced && isFiller c then items fuel spaced atStart done
        else if spaced && c = '#' then
          skipLine ((← get).rest.length)
          items fuel spaced atStart done
        else if c = '*' then items fuel spaced atStart (← repeatLast 0 none done)
        else if c = '+' then items fuel spaced atStart (← repeatLast 1 none done)
        else if c = '?' then items fuel spaced atStart (← repeatLast 0 (some 1) done)
        else if c = '\x7b' then
          match ← bounds? with
          | some (min, max) => items fuel spaced atStart (← repeatLast min max done)
          | none => items fuel spaced atStart (.char c.toNat :: done)
        else if c = '.' then items fuel spaced atStart (.anyChar :: done)
        else if c = '^' then items fuel spaced atStart (.start :: done)
        else if c = '$' then items fuel spaced atStart (.stop :: done)
        else if c = '[' then
          let negated ← accept '^'
          let members ← setItems ((← get).rest.length + 1) []
          items fuel spaced atStart (.set negated members :: done)
        else if c = '(' then
          match ← parenthesis fuel spaced (atStart && done.isEmpty) with
          | some item => items fuel spaced atStart (item :: done)
          | none => items fuel (spaced || (← get).flags.spaced) atStart done
        else items fuel spaced atStart (.char c.toNat :: done)

/-- What stands after an opening parenthesis: a group of some sort, or a comment or settings, which
are no item. -/
def parenthesis : Nat → Bool → Bool → Parse (Option Regex)
  | 0, _, _ => malformed
  | fuel + 1, spaced, atStart => do
    if ← accept '?' then
      match ← next with
      | .plain 'P' => return some (← namedParenthesis fuel spaced)
      | .plain ':' => return some (.within .none .none (← enclosed fuel spaced))
      | .plain '>' => return some (.atomic (← enclosed fuel spaced))
      | .plain '=' => return some (.look .ahead false (← enclosed fuel spaced))
      | .plain '!' => return some (.look .ahead true (← enclosed fuel spaced))
      | .plain '<' => return some (← behindParenthesis fuel spaced)
      | .plain '(' => return some (← condition fuel spaced)
      | .plain '#' =>
        let _ ← takeUpTo ')' ((← get).rest.length + 1)
        return none
      | .plain first =>
        let (on, off, whole) ← settings first
        if whole then
          modify fun r => { r with flags := r.flags.union on }
          if atStart then return none else malformed
        else
          let spaced := (spaced || on.spaced) && !off.spaced
          return some (.within on off (← enclosed fuel spaced))
      | .escaped _ => malformed
    else
      let index ← openGroup none
      return some (← closeGroup index (← alternatives fuel spaced false))

/-- Alternatives and the closing parenthesis behind them. -/
def enclosed : Nat → Bool → Parse Regex
  | 0, _ => malformed
  | fuel + 1, spaced => do
    let body ← alternatives fuel spaced false
    expect ')'
    return body

/-- A group with a name, or a reference to one. -/
def namedParenthesis : Nat → Bool → Parse Regex
  | 0, _ => malformed
  | fuel + 1, spaced => do
    if ← accept '<' then
      let name ← takeName '>'
      if !Text.isIdentifier name then malformed
      else
        let index ← openGroup (some name)
        closeGroup index (← alternatives fuel spaced false)
    else
      expect '='
      referTo (← groupNamed (← takeName ')'))

/-- An expression that looks behind. -/
def behindParenthesis : Nat → Bool → Parse Regex
  | 0, _ => malformed
  | fuel + 1, spaced => do
    let sign ← next
    if sign ≠ .plain '=' ∧ sign ≠ .plain '!' then malformed
    else
      let outer := (← get).behindFrom
      modify fun r => { r with behindFrom := outer <|> some r.groups }
      let body ← alternatives fuel spaced false
      modify ({ · with behindFrom := outer })
      expect ')'
      lookBehind (sign = .plain '!') body

/-- An expression that depends on a group, with one more behind a bar if the group has not matched. -/
def condition : Nat → Bool → Parse Regex
  | 0, _ => malformed
  | fuel + 1, spaced => do
    let index ← askedGroup (← takeName ')')
    if !(← get).isInReach index then malformed
    else
      let yes ← items fuel spaced false []
      let bar ← accept '|'
      let no ← if bar then items fuel spaced false [] else pure []
      expect ')'
      return .ifGroup index (sequence yes) (sequence no)

end

/-- A whole expression.  Some faults show only when all of it has been read. -/
def whole (fuel : Nat) : Parse (Regex × RegexFlags) := do
  let regex ← alternatives fuel false true
  let reading ← get
  let flags := reading.flags
  if flags.ascii && flags.unicode then throw (.refused "ASCII and UNICODE flags are incompatible")
  else if reading.rest ≠ [] ∨ reading.asked.any (reading.groups < ·) then malformed
  else if reading.unfixed || (flags.template && reading.repeats) then malformed
  else return (regex, flags)

/-- The expression that a text describes, with the settings for the whole of it.  `named` gives the
characters with names. -/
def parse (named : String → Option Char) (text : String) : Except RegexError (Regex × RegexFlags) :=
  let (rest, dangling) := signs text.toList
  let reading : Reading := {
    rest, dangling, groups := 0, names := [], widths := [], flags := .none, asked := []
    behindFrom := none, repeats := false, unfixed := false }
  if rest = [] ∧ dangling = true then .error .malformed
  else
    match (whole (4 * text.length + 4)).run named |>.run reading with
    | .ok (result, _) => .ok result
    | .error error => .error error

end Regex

end HeaderIndex
