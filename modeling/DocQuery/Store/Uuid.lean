namespace DocQuery.Store

def drawnBits (draw : Nat) : Nat :=
  (draw * 0x2b7e151628aed2a6abf7158809cf4f3 + 0x9e3779b97f4a7c15f39cc0605cedc8) % (1 <<< 122)

def hexDigits (n : Nat) : Nat → List Char
  | 0 => []
  | count + 1 => hexDigits (n / 16) count ++ [Nat.digitChar (n % 16)]

/-- The layout of version 4, with the version in front of the third group and two fixed bits in front
of the fourth. The factor of a draw is odd, so that different draws below `2 ^ 122` differ. -/
def uuidText (draw : Nat) : String :=
  let bits := drawnBits draw
  let ds := hexDigits (bits / 4) 30
  String.ofList (ds.take 8 ++ '-' :: (ds.drop 8).take 4 ++ '-' :: '4' :: (ds.drop 12).take 3 ++
    '-' :: Nat.digitChar (8 + bits % 4) :: (ds.drop 15).take 3 ++ '-' :: ds.drop 18)

end DocQuery.Store
