import Reprint.Text.Alphanumeric

set_option autoImplicit false

/-!
# Command: patterns

A directive of the log filter may ask for the value of a field, by a number or by a pattern.  No
event of this program can meet such a demand, so of a pattern matters only whether it can be read.
Because of where it stands it holds no comma, no equals sign and no closing brace.
-/

namespace Reprint.Command

/-- A part of a pattern is read from its front. -/
abbrev PatternStep : Type := List Char → Option (List Char)

namespace Pattern

/-- Characters that a backslash makes stand for a control character or for an end of the text. -/
def namedEscapes : List Char := ['a', 'f', 't', 'n', 'r', 'v', 'A', 'z']

/-- So many hexadecimal digits. -/
def hexDigits : Nat → PatternStep
  | 0, cs => some cs
  | n + 1, c :: cs =>
    if c.isDigit || ('a' ≤ c.toLower && c.toLower ≤ 'f') then hexDigits n cs else none
  | _ + 1, [] => none

/-- What stands after a backslash: a character's code, the name of one, or a mark that would
otherwise have a meaning.  Classes of letters, words and their edges have no names. -/
def escape : PatternStep
  | 'x' :: cs => hexDigits 2 cs
  | 'u' :: cs => hexDigits 4 cs
  | 'U' :: cs => hexDigits 8 cs
  | c :: cs =>
    if c ∈ namedEscapes then some cs
    else if c.isAlphanum || c == '<' || c == '>' || 0x80 ≤ c.toNat then none
    else some cs
  | [] => none

/-- The letters that set how a group is read. -/
def flagLetters : List Char := ['m', 's', 'U', 'u', 'R', 'x', '-']

/-- The name of a group, up to its end. -/
def groupName (cs : List Char) : Option (List Char) :=
  let name := cs.takeWhile (· ≠ '>')
  match name, cs.dropWhile (· ≠ '>') with
  | c :: name, _ :: rest =>
    if (c == '_' || c.isAlpha) && name.all fun c => c.isAlphanum || c ∈ ['_', '.', '[', ']'] then
      some rest
    else none
  | _, _ => none

/-- The names of the classes that stand between `[:` and `:]`. -/
def classNames : List String :=
  ["alnum", "alpha", "ascii", "blank", "cntrl", "digit", "graph", "lower", "print", "punct",
   "space", "upper", "word", "xdigit"]

/-- A named class at the front of a set, after its first bracket. -/
def namedClass : PatternStep
  | ':' :: cs =>
    let cs := if cs.head? = some '^' then cs.tail else cs
    let name := cs.takeWhile (· ≠ ':')
    match cs.dropWhile (· ≠ ':') with
    | ':' :: ']' :: rest => if String.ofList name ∈ classNames then some rest else none
    | _ => none
  | _ => none

/-- One character of a set, or what stands for one. -/
def member : List Char → Option (Option Char × List Char)
  | '\\' :: cs => (escape cs).map (none, ·)
  | c :: cs => some (some c, cs)
  | [] => none

/-- The marks at the front of a set: a negation, and hyphens or a bracket that stand for
themselves. -/
def setFront (cs : List Char) : List Char :=
  let cs := if cs.head? = some '^' then cs.tail else cs
  let hyphens := cs.takeWhile (· = '-')
  let rest := cs.dropWhile (· = '-')
  if hyphens.isEmpty && rest.head? = some ']' then rest.tail else rest

/-- A set, after its first bracket; `depth` counts the sets around it. -/
def set : Nat → Nat → PatternStep
  | 0, _, _ => none
  | _ + 1, _, [] => none
  | fuel + 1, depth, '[' :: cs =>
    match namedClass cs with
    | some rest => set fuel depth rest
    | none => set fuel (depth + 1) (setFront cs)
  | fuel + 1, depth, ']' :: cs =>
    match depth with
    | 0 => some cs
    | depth + 1 => set fuel depth cs
  | fuel + 1, depth, cs => do
    let (low, rest) ← member cs
    match rest with
    | '-' :: ']' :: _ | '-' :: '-' :: _ => set fuel depth rest
    | '-' :: rest =>
      let (high, rest) ← member rest
      match low, high with
      | some low, some high => if low ≤ high then set fuel depth rest else none
      | _, _ => set fuel depth rest
    | _ => set fuel depth rest

/-- The front of a group, after its bracket: whether the group is closed at once, and the rest. -/
def groupFront : List Char → Option (Bool × List Char)
  | '?' :: 'P' :: '<' :: cs | '?' :: '<' :: cs => (groupName cs).map (false, ·)
  | '?' :: cs =>
    let flags := cs.takeWhile fun c => c ≠ ':' ∧ c ≠ ')'
    if flags.all (· ∈ flagLetters) && flags.eraseDups = flags && flags.getLast? ≠ some '-' then
      match cs.dropWhile fun c => c ≠ ':' ∧ c ≠ ')' with
      | ':' :: rest => some (false, rest)
      | ')' :: rest => if flags.isEmpty then none else some (true, rest)
      | _ => none
    else none
  | cs => some (false, cs)

/-- The rest of a pattern can be read.  `depth` counts the open groups, and `repeatable` says that
something stands there that may be repeated. -/
def readable : Nat → Nat → Bool → List Char → Bool
  | 0, _, _, _ => false
  | _ + 1, depth, _, [] => depth == 0
  | fuel + 1, depth, repeatable, c :: cs =>
    match c with
    | '\\' =>
      match escape cs with
      | some rest => readable fuel depth true rest
      | none => false
    | '[' =>
      match set (cs.length + 1) 0 (setFront cs) with
      | some rest => readable fuel depth true rest
      | none => false
    | '(' =>
      match groupFront cs with
      | some (true, rest) => readable fuel depth false rest
      | some (false, rest) => readable fuel (depth + 1) false rest
      | none => false
    | ')' => depth != 0 && readable fuel (depth - 1) true cs
    | '|' => readable fuel depth false cs
    | '*' | '+' | '?' => repeatable && readable fuel depth true cs
    | '{' => false
    | _ => readable fuel depth true cs

end Pattern

/-- The text is a pattern. -/
def isPattern (cs : List Char) : Bool := Pattern.readable (cs.length + 1) 0 false cs

/-- The text is a decimal number, with or without a fraction and an exponent. -/
def isDecimal (cs : List Char) : Bool :=
  let whole := cs.takeWhile Char.isDigit
  let rest := cs.dropWhile Char.isDigit
  let (fraction, rest) := match rest with
    | '.' :: rest => (rest.takeWhile Char.isDigit, rest.dropWhile Char.isDigit)
    | rest => ([], rest)
  let exponent := match rest with
    | [] => true
    | e :: '+' :: ds | e :: '-' :: ds | e :: ds =>
      (e == 'e' || e == 'E') && !ds.isEmpty && ds.all Char.isDigit
  !(whole.isEmpty && fraction.isEmpty) && exponent

/-- The text asks for a value: by a number after a plus sign, which is no pattern, or by a pattern,
as which any other number can be read. -/
def isDemand (cs : List Char) : Bool :=
  match cs with
  | '+' :: number =>
    isDecimal number || (String.ofList number).toLower ∈ ["inf", "infinity", "nan"]
  | cs => isPattern cs

end Reprint.Command
