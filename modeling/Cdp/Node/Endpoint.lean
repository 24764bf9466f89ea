import Cdp.Host.Basic

/-!
# Endpoints

A node is reached under a web address: a scheme for hypertext, with or without encryption, slashes
in either slant, an authority, and a path. The authority is a host that a colon and the number of a
service may follow; a user and a password may stand before it with a sign `@` behind them. Blanks
and controls around an address do not count, nor do line ends and tabulators inside.
-/

set_option autoImplicit false

namespace Cdp.Node

/-- An upper-case ASCII letter as a lower-case one. -/
def lowerLetter (c : Char) : Char := if 'A' ≤ c && c ≤ 'Z' then Char.ofNat (c.toNat + 32) else c

/-- Whether a character is a space or a control before it. -/
def isMargin (c : Char) : Bool := c ≤ ' '

/-- The characters of an address that count. -/
def significant (cs : List Char) : List Char :=
  ((cs.dropWhile isMargin).reverse.dropWhile isMargin).reverse.filter fun c =>
    c != '\t' && c != '\n' && c != '\r'

/-- The text behind a scheme that nodes are reached under. -/
def afterScheme? (cs : List Char) : Option (List Char) :=
  let scheme := (cs.takeWhile (· != ':')).map lowerLetter
  match cs.dropWhile (· != ':') with
  | _ :: rest =>
    if scheme = "http".toList || scheme = "https".toList then some rest else none
  | [] => none

def isSlash (c : Char) : Bool := c = '/' || c = '\\'

/-- Whether a character ends the authority. -/
def endsAuthority (c : Char) : Bool := isSlash c || c = '?' || c = '#'

/-- The text behind the last sign that ends a user. -/
def afterUser (cs : List Char) : List Char := (cs.reverse.takeWhile (· != '@')).reverse

/-- The host, and the rest from the first colon that does not stand between brackets. -/
def splitService (isBracketed : Bool) : List Char → List Char × List Char
  | [] => ([], [])
  | c :: rest =>
    if c = ':' && !isBracketed then ([], c :: rest)
    else
      let (host, service) := splitService (c = '[' || (isBracketed && c != ']')) rest
      (c :: host, service)

/-- Whether digits are a service number, or none is given. -/
def isServiceNumber (cs : List Char) : Bool :=
  cs.all Char.isDigit && Nat.ofDigitChars 10 cs 0 < UInt16.size

/-- Whether an authority may be connected to. -/
def isAuthority (cs : List Char) : Bool :=
  let (host, service) := splitService false (afterUser cs)
  !host.isEmpty && Host.isHost host && isServiceNumber (service.drop 1)

/-- Whether a text is the web address of an endpoint. -/
def isEndpoint (url : String) : Bool :=
  match afterScheme? (significant url.toList) with
  | some rest => isAuthority ((rest.dropWhile isSlash).takeWhile fun c => !endsAuthority c)
  | none => false

end Cdp.Node
