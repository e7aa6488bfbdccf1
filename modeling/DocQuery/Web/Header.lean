import DocQuery.Text.Ascii
import DocQuery.Text.Blank

namespace DocQuery.Web

def isHeaderValue (s : String) : Bool :=
  s.toList.all fun c => c == '\t' || (decide (0x20 ≤ c.toNat) && c.toNat != 0x7F)

def headerValue (s : String) : String :=
  String.ofList (Text.trimChars (fun c => c == ' ' || c == '\t') s.toList)

def isAsciiText (s : String) : Bool :=
  s.toList.all Text.isAscii

end DocQuery.Web
