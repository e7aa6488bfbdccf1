import DocQuery.Web.Address
import DocQuery.Web.Domain.Name

namespace DocQuery.Web

inductive UrlError where
  | emptyHost
  | invalidNumber
  | invalidIpv4
  | invalidIpv6
  | invalidDomain
deriving DecidableEq

def UrlError.message : UrlError → String
  | emptyHost => "empty host"
  | invalidNumber => "invalid port number"
  | invalidIpv4 => "invalid IPv4 address"
  | invalidIpv6 => "invalid IPv6 address"
  | invalidDomain => "invalid international domain name"

def checkName (cs : List Char) : Except UrlError Unit :=
  match (textOfBytes? (percentDecode cs)).bind (Domain.ofText? ·.toList) with
  | none => .error .invalidDomain
  | some [] => .error .emptyHost
  | some name => if endsInNumber name && !isIpv4 name then .error .invalidIpv4 else .ok ()

def checkHost : List Char → Except UrlError Unit
  | [] => .error .emptyHost
  | '[' :: cs =>
    if cs.getLast? = some ']' ∧ isIpv6 cs.dropLast then .ok () else .error .invalidIpv6
  | cs => checkName cs

def checkNumber (cs : List Char) : Except UrlError Unit :=
  match numberInBase? 10 cs with
  | some n => if n < 0x10000 then .ok () else .error .invalidNumber
  | none => .error .invalidNumber

def splitAtNumber (bracketed : Bool) : List Char → List Char × List Char
  | [] => ([], [])
  | c :: cs =>
    if c = ':' ∧ !bracketed then ([], c :: cs)
    else
      let bracketed := if c = '[' then true else if c = ']' then false else bracketed
      let (host, rest) := splitAtNumber bracketed cs
      (c :: host, rest)

/-- Whatever stands before the last `@` is no part of the host. -/
def dropCredentials (cs : List Char) : List Char :=
  (splitAtChar (· == '@') cs).getLast?.getD []

def checkAuthority (cs : List Char) : Except UrlError Unit := do
  let (host, rest) := splitAtNumber false (dropCredentials cs)
  checkHost host
  checkNumber (rest.drop 1)

end DocQuery.Web
