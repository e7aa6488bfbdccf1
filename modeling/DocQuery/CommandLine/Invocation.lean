import DocQuery.Text.Natural
import DocQuery.Execution.Mode

namespace DocQuery.CommandLine

inductive OptionName where
  | memory
  | strict
  | seed
  | url
  | key
  | schema
  | timeoutSecs
deriving DecidableEq

namespace OptionName

def list : List OptionName := [memory, strict, seed, url, key, schema, timeoutSecs]

def text : OptionName → String
  | memory => "memory"
  | strict => "strict"
  | seed => "seed"
  | url => "url"
  | key => "key"
  | schema => "schema"
  | timeoutSecs => "timeout-secs"

def ofText? (text : String) : Option OptionName :=
  list.find? (·.text == text)

def isFlag : OptionName → Bool
  | memory | strict => true
  | _ => false

def admits (value : String) : OptionName → Bool
  | seed => !value.isEmpty
  | timeoutSecs => (Text.natural64? value.toList).isSome
  | _ => true

end OptionName

/-- A word with two dashes is an option, perhaps with a value behind an equals sign. Two dashes by
themselves end the options, and one dash by itself is a value. -/
inductive Word where
  | option (name : OptionName) (value : Option String)
  | endOfOptions
  | value (text : String)
  | unknown
deriving DecidableEq

namespace Word

def ofOptionText (cs : List Char) : Word :=
  let (name, rest) := cs.span (· != '=')
  let attached := match rest with
    | _ :: cs => some (String.ofList cs)
    | [] => none
  match OptionName.ofText? (String.ofList name) with
  | some name => option name attached
  | none => unknown

def ofText (text : String) : Word :=
  match text.toList with
  | ['-', '-'] => endOfOptions
  | '-' :: '-' :: cs => ofOptionText cs
  | '-' :: _ :: _ => unknown
  | _ => value text

end Word

abbrev Given := List (OptionName × String)

def takeValue (name : OptionName) (attached : Option String) (rest : List String) :
    Option (String × List String) :=
  if name.isFlag then
    if attached.isNone then some ("", rest) else none
  else
    match attached, rest with
    | some value, rest => some (value, rest)
    | none, next :: rest =>
      match Word.ofText next with
      | .value value => some (value, rest)
      | _ => none
    | none, [] => none

theorem takeValue_length {name : OptionName} {attached : Option String} {rest rest' : List String}
    {value : String} (h : takeValue name attached rest = some (value, rest')) :
    rest'.length ≤ rest.length := by
  unfold takeValue at h
  split at h
  · split at h
    · simp only [Option.some.injEq, Prod.mk.injEq] at h
      simp [h.2]
    · simp at h
  · split at h
    · simp only [Option.some.injEq, Prod.mk.injEq] at h
      simp [h.2]
    · split at h
      · simp only [Option.some.injEq, Prod.mk.injEq] at h
        simp [← h.2]
      · simp at h
    · simp at h

def readOuter (words : List String) : Option (Given × String × List String) :=
  match words with
  | [] => none
  | word :: rest =>
    match Word.ofText word with
    | .value name => some ([], name, rest)
    | .option name attached =>
      match h : takeValue name attached rest with
      | some (value, rest) =>
        have := takeValue_length h
        (readOuter rest).map fun (given, found) => ((name, value) :: given, found)
      | none => none
    | .endOfOptions | .unknown => none
termination_by words.length

def readInner (words : List String) : Option (Given × List String) :=
  match words with
  | [] => some ([], [])
  | word :: rest =>
    match Word.ofText word with
    | .value text => (readInner rest).map fun (given, values) => (given, text :: values)
    | .option name attached =>
      match h : takeValue name attached rest with
      | some (value, rest) =>
        have := takeValue_length h
        (readInner rest).map fun (given, values) => ((name, value) :: given, values)
      | none => none
    | .endOfOptions => some ([], rest)
    | .unknown => none
termination_by words.length

namespace Given

def has (given : Given) (name : OptionName) : Bool :=
  (given.lookup name).isSome

def isValid (given : Given) : Bool :=
  decide (given.map (·.1)).Nodup && given.all (fun (name, value) => name.admits value) &&
    (!given.has .seed || given.has .memory)

end Given

inductive Command where
  | call (mode : Mode)
  | explain
deriving DecidableEq

def Command.ofName? (name : String) : Option Command :=
  if name = "explain" then some .explain else (Mode.ofName? name).map .call

structure Invocation where
  options : Given
  command : Command
  statement : String
  args : List String
deriving DecidableEq

namespace Invocation

/-- Options may stand before the command or behind it. Each of the two places is checked by itself,
and an option behind the command counts more. -/
def ofWords? (words : List String) : Option Invocation := do
  let (outer, name, rest) ← readOuter words
  let command ← Command.ofName? name
  let (inner, values) ← readInner rest
  match values with
  | statement :: args =>
    if outer.isValid && inner.isValid then some ⟨inner ++ outer, command, statement, args⟩
    else none
  | [] => none

def has (i : Invocation) (name : OptionName) : Bool :=
  i.options.has name

def value? (i : Invocation) (name : OptionName) : Option String :=
  i.options.lookup name

def timeout? (i : Invocation) : Option Nat :=
  ((i.value? .timeoutSecs).bind fun text => Text.natural64? text.toList).map (· * 1000)

def seedFile? (i : Invocation) : Option String :=
  if i.has .memory then i.value? .seed else none

end Invocation

end DocQuery.CommandLine
