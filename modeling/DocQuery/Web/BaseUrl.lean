import DocQuery.Text.Blank
import DocQuery.Web.Form
import DocQuery.Web.Host
import DocQuery.Web.Path

namespace DocQuery.Web

structure BaseUrl where
  path : List Segment
  query : Option (List Char)
deriving DecidableEq

def isSlash (c : Char) : Bool :=
  c == '/' || c == '\\'

def isQueryLiteral (c : Char) : Bool :=
  decide (0x20 < c.toNat ∧ c.toNat < 0x7F) && !"\"#<>'".toList.contains c

def cleanUrl (cs : List Char) : List Char :=
  (Text.trimChars (·.toNat ≤ 0x20) cs).filter (!isIgnored ·)

namespace BaseUrl

def pathOfText (cs : List Char) : List Segment :=
  let cs := match cs with
    | c :: rest => if isSlash c then rest else c :: rest
    | [] => []
  resolve ((splitAtChar isSlash cs).map (percentEncode isPathLiteral))

def queryOfText : List Char → Option (List Char)
  | '?' :: cs => some (percentEncode isQueryLiteral (cs.takeWhile (· != '#')))
  | _ => none

def ofHierarchy (cs : List Char) : Except UrlError BaseUrl := do
  let (authority, rest) := (cs.dropWhile isSlash).span fun c => !isSlash c && c != '?' && c != '#'
  checkAuthority authority
  let (path, rest) := rest.span fun c => c != '?' && c != '#'
  return ⟨pathOfText path, queryOfText rest⟩

/-- Reads a URL whose scheme is known to end at its first colon. -/
def parse (url : String) : Except UrlError BaseUrl :=
  ofHierarchy (((cleanUrl url.toList).dropWhile (· != ':')).drop 1)

def queryWith (base : BaseUrl) (pairs : List (String × String)) : Option (List Char) :=
  if pairs.isEmpty then base.query else some (formAppend (base.query.getD []) pairs)

def target (base : BaseUrl) (name : String) (pairs : List (String × String)) : String :=
  let query := match base.queryWith pairs with
    | some q => '?' :: q
    | none => []
  String.ofList (pathText (pushSegment base.path name.toList) ++ query)

end BaseUrl

end DocQuery.Web
