import Storefront.Text.Quoted
import Storefront.Text.Utf8

/-!
# What is wrong with an address

The engine and the origin store are named by addresses. An address has to be a URL, and what it
says has to make sense to the kind of database that it names: `UrlFault` is about the first,
`AddressFault` about both.
-/

namespace Storefront

/-- Why a text is no URL. -/
inductive UrlFault where
  /-- It names no scheme. -/
  | relative
  /-- A host has to be named and is not. -/
  | emptyHost
  /-- The number of the service is none. -/
  | invalidService
  | invalidIpv4
  | invalidIpv6
  /-- The host holds a character that no host may hold. -/
  | hostCharacter
  /-- The host is no name of a domain. -/
  | domainName
deriving DecidableEq

/-- The fault in words. -/
def UrlFault.message : UrlFault → String
  | .relative => "relative URL without a base"
  | .emptyHost => "empty host"
  | .invalidService => "invalid port number"
  | .invalidIpv4 => "invalid IPv4 address"
  | .invalidIpv6 => "invalid IPv6 address"
  | .hostCharacter => "invalid domain character"
  | .domainName => "invalid international domain name"

/-- Why a text is no count. -/
inductive CountFault where
  | empty
  | invalidDigit
  | tooLarge
deriving DecidableEq

/-- The fault in words. -/
def CountFault.message : CountFault → String
  | .empty => "cannot parse integer from empty string"
  | .invalidDigit => "invalid digit found in string"
  | .tooLarge => "number too large to fit in target type"

/-- Why an address leads nowhere. -/
inductive AddressFault where
  | url (fault : UrlFault)
  /-- A part of it, its escapes resolved, is no text. -/
  | notText (fault : Text.Utf8Fault)
  /-- The size of the cache of statements is none. -/
  | cacheSize (fault : CountFault)
  /-- The level of encryption is none. -/
  | encryption (value : List Char)
  /-- A parameter has a value that it cannot have. -/
  | parameterValue (name : String) (value : List Char)
  /-- There is no such parameter. -/
  | parameter (name : List Char)
  /-- There is no driver for the kind of database. -/
  | noDriver (scheme : String)
deriving DecidableEq

namespace AddressFault

/-- What is said first of an address that leads nowhere. -/
def configuration : String :=
  "error with configuration: "

/-- What is said of a value that a parameter cannot have. -/
def unknownValue (name : String) (value : List Char) : String :=
  "unknown value " ++ Text.quoted value ++ " for `" ++ name ++ "`"

/-- The fault in words. A complaint about the level of encryption is introduced twice. -/
def message : AddressFault → String
  | .url fault => configuration ++ fault.message
  | .notText fault => configuration ++ fault.message
  | .cacheSize fault => configuration ++ fault.message
  | .encryption value => configuration ++ configuration ++ unknownValue "ssl_mode" value
  | .parameterValue name value => configuration ++ unknownValue name value
  | .parameter name =>
    configuration ++ "unknown query parameter `" ++ String.ofList name ++
      "` while parsing connection URL"
  | .noDriver scheme =>
    configuration ++ "no driver found for URL scheme " ++ Text.quoted scheme.toList

end AddressFault

end Storefront
