import Storefront.Address.DomainName
import Storefront.Address.Fault
import Storefront.Address.Percent
import Storefront.Number.Whole

/-!
# Hosts of URLs

A host in brackets is an IPv6 address. Any other is read by the kind of the URL: where the scheme
means nothing in particular, the host is taken as it is spelt and only must not hold characters
that end it (`Host.opaqueFault?`); where the scheme is one of the web's, it is the name of a domain
or an IPv4 address (`Host.domainFault?`). A name is taken for an address if its last label is a
number, and then it has to be one.
-/

namespace Storefront.Host

open Text

/-! ### IPv6 addresses -/

/-- Whether a text is one to four hexadecimal digits. -/
def isGroup (cs : List Char) : Bool :=
  1 ≤ cs.length && cs.length ≤ 4 && cs.all fun c => (hexValue? c).isSome

/-- Whether a text is a number below 256 in decimal, without zeros in front. -/
def isOctet (cs : List Char) : Bool :=
  match cs with
  | ['0'] => true
  | '0' :: _ => false
  | _ =>
    match Number.natOfDigits? cs with
    | some n => n < 256
    | none => false

/-- Whether a text is four numbers below 256 with points between them. -/
def isDottedQuad (cs : List Char) : Bool :=
  let octets := fieldsBy '.' cs
  octets.length = 4 && octets.all isOctet

/-- The number of groups that fields make up; the last may be an IPv4 address in the place of
two. -/
def groupCount? : List (List Char) → Option Nat
  | [] => some 0
  | [field] =>
    if isGroup field then some 1 else if isDottedQuad field then some 2 else none
  | field :: rest => if isGroup field then (groupCount? rest).map (· + 1) else none

/-- What stands before and after the first two colons in a row. -/
def splitAtGap? : List Char → Option (List Char × List Char)
  | ':' :: ':' :: rest => some ([], rest)
  | c :: rest => (splitAtGap? rest).map fun (before, after) => (c :: before, after)
  | [] => none

/-- The fields between colons, none if there is no text. -/
def groupFields (cs : List Char) : List (List Char) :=
  if cs.isEmpty then [] else fieldsBy ':' cs

/-- **Whether a text is an IPv6 address**: eight groups, or fewer with one gap. -/
def isIpv6 (cs : List Char) : Bool :=
  match splitAtGap? cs with
  | none => groupCount? (groupFields cs) == some 8
  | some (before, after) =>
    let front := groupFields before
    match groupCount? (groupFields after) with
    | some n => front.all isGroup && front.length + n ≤ 7
    | none => false

/-- What is wrong with a host that begins with a bracket. -/
def bracketFault? (cs : List Char) : Option UrlFault :=
  if cs.getLast? = some ']' && isIpv6 (cs.drop 1).dropLast then none else some .invalidIpv6

/-! ### Hosts as they are spelt -/

/-- The characters that no host may hold. -/
def forbidden : List Char :=
  ['\x00', '\t', '\n', '\r', ' ', '#', '/', ':', '<', '>', '?', '@', '[', '\\', ']', '^', '|']

/-- **What is wrong with a host** that is taken as it is spelt. -/
def opaqueFault? (cs : List Char) : Option UrlFault :=
  if cs.head? = some '[' then bracketFault? cs
  else if cs.any forbidden.contains then some .hostCharacter
  else none

/-! ### Domains and IPv4 addresses -/

/-- Whether no name of a domain may hold a character of ASCII. -/
def isForbiddenInDomain (c : Char) : Bool :=
  c.toNat ≤ 0x20 || c.toNat = 0x7F || c = '%' || forbidden.contains c

/-- The value of digits to a base. -/
def numberIn? (base : Nat) (cs : List Char) : Option Nat :=
  cs.foldlM
    (fun n c => (hexValue? c).bind fun d => if d < base then some (base * n + d) else none) 0

/-- The value of a part of an IPv4 address: to the base sixteen after `0x`, to the base eight after
another zero. -/
def ipv4Part? : List Char → Option Nat
  | [] => none
  | '0' :: 'x' :: digits => numberIn? 16 digits
  | '0' :: c :: digits => numberIn? 8 (c :: digits)
  | digits => numberIn? 10 digits

/-- The labels that could be the parts of an address; one point at the end ends the last. -/
def addressParts (labels : List (List Char)) : List (List Char) :=
  if 1 < labels.length && labels.getLast? = some [] then labels.dropLast else labels

/-- Whether the last part is a number. -/
def endsInNumber (parts : List (List Char)) : Bool :=
  match parts.getLast? with
  | some last => (!last.isEmpty && last.all Char.isDigit) || (ipv4Part? last).isSome
  | none => false

/-- Whether numbers are the parts of an IPv4 address: the last fills the octets that the others, an
octet each, leave. -/
def isIpv4 (numbers : List Nat) : Bool :=
  match numbers.getLast? with
  | some last =>
    numbers.length ≤ 4 && numbers.dropLast.all (· ≤ 255) &&
      last < Nat.pow 256 (5 - numbers.length)
  | none => false

/-- What is wrong with labels as the name of a domain or as an IPv4 address. -/
def labelsFault? (labels : List (List Char)) : Option UrlFault :=
  let parts := addressParts labels
  if labels = [[]] then some .emptyHost
  else if endsInNumber parts then
    match parts.mapM ipv4Part? with
    | some numbers => if isIpv4 numbers then none else some .invalidIpv4
    | none => some .invalidIpv4
  else none

/-- **What is wrong with the name of a domain.** -/
def domainFault? (cs : List Char) : Option UrlFault :=
  if cs.head? = some '[' then bracketFault? cs
  else
    match Percent.text? cs with
    | .error _ => some .domainName
    | .ok name =>
      match DomainName.labels? name with
      | none => some .domainName
      | some labels =>
        if labels.any (·.any isForbiddenInDomain) then some .domainName else labelsFault? labels

end Storefront.Host
