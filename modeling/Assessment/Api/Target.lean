import Assessment.Defect
import Assessment.Json.Reader
import Assessment.Text.UpperCase

/-!
# Request targets

A target names a path, and before it perhaps a scheme and a host. The path ends at a query or a
fragment, and escaped bytes are put back.
-/

namespace Assessment.Api

open Assessment.Json

/-- A target without the blanks before it and the line breaks and tabs in it. -/
def withoutBreaks (cs : List Char) : List Char :=
  (cs.dropWhile (· ≤ ' ')).filter fun c => c != '\t' && c != '\r' && c != '\n'

def isScheme (cs : List Char) : Bool :=
  cs.head?.any Char.isAlpha && cs.all fun c => c.isAlphanum || c == '+' || c == '-' || c == '.'

/-- A target after its scheme, if it names one. -/
def dropScheme (cs : List Char) : List Char :=
  match cs.span (· != ':') with
  | (name, _ :: rest) => if isScheme name then rest else cs
  | (_, []) => cs

/-- Does a character end the host of a target? -/
def endsHost (c : Char) : Bool := c == '/' || c == '?' || c == '#'

/-- A host, which may be empty, and what follows it. -/
def splitHost : List Char → List Char × List Char
  | '/' :: '/' :: rest => rest.span fun c => !endsHost c
  | cs => ([], cs)

/-- The host and the path of a target. A bracket in a host has its counterpart there. -/
def split (target : List Char) : Except Defect (List Char × List Char) :=
  let (host, rest) := splitHost (dropScheme (withoutBreaks target))
  if host.contains '[' != host.contains ']' then .error .unreadable
  else .ok (host, rest.takeWhile fun c => c != '?' && c != '#')

/-- The part of a text after the last of a character, or all of it. -/
def afterLast (c : Char) (cs : List Char) : List Char :=
  (cs.reverse.takeWhile (· != c)).reverse

/-- The name of a host and the number after its colon. The user before it does not matter. -/
def nameAndNumber (host : List Char) : List Char × List Char :=
  let host := afterLast '@' host
  match host.span (· != '[') with
  | (_, _ :: bracketed) =>
    let (name, rest) := bracketed.span (· != ']')
    (name, ((rest.drop 1).dropWhile (· != ':')).drop 1)
  | (_, []) =>
    let (name, rest) := host.span (· != ':')
    (name, rest.drop 1)

def maxHostNumber : Nat := 65535

/-- Is this the number of a host? None counts as one. -/
def isHostNumber (cs : List Char) : Bool :=
  cs.all Text.isDigit && Text.natOfDigits cs ≤ maxHostNumber

/-- The name of the host that logins are for. -/
def ownHost : String := "localhost"

/-- Is this the host that logins are for? A target without a host is for it. -/
def isOwnHost (name : List Char) : Bool :=
  name.isEmpty || Text.lowerLatin (String.ofList name) == ownHost

/-- The bytes of an escaped text; a percent sign that starts no escape stands for itself. -/
def unescapedBytes : List Char → List UInt8
  | '%' :: a :: b :: rest =>
    match hexValue? a, hexValue? b with
    | some x, some y => (x * 16 + y).toUInt8 :: unescapedBytes rest
    | _, _ => '%'.toUInt8 :: unescapedBytes (a :: b :: rest)
  | c :: rest => (String.singleton c).toUTF8.toList ++ unescapedBytes rest
  | [] => []
termination_by cs => cs.length

/-- The character that stands for a byte that belongs to none. -/
def replacement : Char := '\uFFFD'

/-- The character that some bytes encode, if they encode one. -/
def charOfBytes? (bs : List UInt8) : Option Char :=
  match (String.fromUTF8? ⟨bs.toArray⟩).map String.toList with
  | some [c] => some c
  | _ => none

def charsOfBytes : List UInt8 → List Char
  | [] => []
  | b :: rest =>
    if b < 128 then Char.ofNat b.toNat :: charsOfBytes rest
    else
      match [1, 2, 3].find? fun n => (charOfBytes? (b :: rest.take n)).isSome with
      | some n =>
        (charOfBytes? (b :: rest.take n)).getD replacement :: charsOfBytes (rest.drop n)
      | none => replacement :: charsOfBytes rest
termination_by bs => bs.length
decreasing_by all_goals grind [List.length_drop]

def unescaped (cs : List Char) : List Char :=
  if cs.contains '%' then charsOfBytes (unescapedBytes cs) else cs

structure Target where
  /-- Is it for the host that logins are for? -/
  isOwn : Bool
  path : List Char
  deriving Repr

/-- What a target names, with one slash before its path. The path of a target may itself name a host,
which does not count. -/
def Target.ofText (target : String) : Except Defect Target := do
  let (host, path) ← split target.toList
  let (name, number) := nameAndNumber host
  if !isHostNumber number then throw .unreadable
  let (_, path) ← split path
  if !Text.hasEncoding (String.ofList (target.toList.takeWhile (· != '#'))) then throw .noEncoding
  return ⟨isOwnHost name, '/' :: (unescaped path).dropWhile (· == '/')⟩

def beginsWith (start : String) (path : List Char) : Bool := start.toList.isPrefixOf path

/-- The path with each run of slashes made one. -/
def mergeSlashes : List Char → List Char
  | '/' :: '/' :: rest => mergeSlashes ('/' :: rest)
  | c :: rest => c :: mergeSlashes rest
  | [] => []
termination_by cs => cs.length

/-- The segments between the slashes of a path. -/
def segments : List Char → List (List Char)
  | [] => [[]]
  | c :: rest =>
    if c = '/' then [] :: segments rest
    else
      match segments rest with
      | [] => [[c]]
      | s :: more => (c :: s) :: more

end Assessment.Api
