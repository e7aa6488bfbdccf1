import DocQuery.Sql.Quoted
import DocQuery.Sql.Token

namespace DocQuery.Sql

def plain (spelling : String) : List Char × Token :=
  (spelling.toList, .other spelling)

/-- The spellings; one that starts with another one stands before it. -/
def operators : List (List Char × Token) :=
  [ (['('], .leftParen), ([')'], .rightParen), ([','], .comma), ([';'], .semicolon),
    (['*'], .star), plain "+", plain "\\", plain "[", plain "]", plain "\x7b", plain "\x7d",
    plain "->>", plain "->", (['-'], .minus), plain "//", plain "/", plain "%",
    plain "||/", plain "||", plain "|/", plain "|>", plain "|",
    plain "=>", plain "==", (['='], .equal),
    (['!', '='], .other "<>"), plain "!!", plain "!~~*", plain "!~~", plain "!~*", plain "!~",
    plain "!", plain "<=>", plain "<=", plain "<>", plain "<<", plain "<@", plain "<",
    plain ">=", plain ">>", plain ">", plain "::", plain ":=", plain ":", plain "&&", plain "&",
    plain "^@", plain "^", plain "~~*", plain "~~", plain "~*", plain "~",
    plain "#-", plain "#>>", plain "#>", plain "@>", plain "@?" ]

def operator? (cs : List Char) : Option (Token × List Char) :=
  operators.findSome? fun (spelling, token) =>
    (behind? spelling cs).map fun rest => (token, rest)

theorem operator?_rest_lt {cs rest : List Char} {token : Token}
    (h : operator? cs = some (token, rest)) : rest.length < cs.length := by
  obtain ⟨⟨spelling, t⟩, hmem, hs⟩ := List.exists_of_findSome?_eq_some h
  obtain ⟨r, hr, he⟩ := Option.map_eq_some_iff.1 hs
  have hne : spelling ≠ [] := by
    intro hnil
    have : (([] : List Char), t) ∈ operators := hnil ▸ hmem
    revert this
    simp [operators, plain]
  obtain ⟨c, spelling, rfl⟩ := List.exists_cons_of_ne_nil hne
  cases cs with
  | nil => simp [behind?] at hr
  | cons d cs =>
    simp only [behind?] at hr
    split at hr
    · have := behind?_rest_le hr
      simp only [Prod.mk.injEq] at he
      simp only [List.length_cons, ← he.2]; omega
    · simp at hr

end DocQuery.Sql
