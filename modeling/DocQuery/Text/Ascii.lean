namespace DocQuery.Text

def isAscii (c : Char) : Bool :=
  decide (c.toNat < 0x80)

end DocQuery.Text
