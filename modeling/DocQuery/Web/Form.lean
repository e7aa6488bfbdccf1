import DocQuery.Web.Percent

namespace DocQuery.Web

def isFormLiteral (c : Char) : Bool :=
  c.isAlphanum || c == '*' || c == '-' || c == '.' || c == '_'

def formEncode (s : String) : List Char :=
  (percentEncode (fun c => isFormLiteral c || c == ' ') s.toList).map fun c =>
    if c = ' ' then '+' else c

def formPair (pair : String × String) : List Char :=
  formEncode pair.1 ++ '=' :: formEncode pair.2

def formAppend (query : List Char) (pairs : List (String × String)) : List Char :=
  List.intercalate ['&'] ((if query.isEmpty then [] else [query]) ++ pairs.map formPair)

end DocQuery.Web
