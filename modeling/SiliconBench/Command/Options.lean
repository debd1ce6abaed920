import SiliconBench.Decimal.Numeral
import SiliconBench.Text.Digit

/-! # Options — the arguments of a command

An option is spelled out, or by any beginning of it that no other option shares,
or by a letter; its value is the next argument, or stands after an equals sign,
or right after the letter. Letters of options without a value may be run
together. An argument that begins with a dash is NOT taken for an option when it
is a negative number or holds a blank, so that both can be values.

Arguments are first classified one by one and then taken from left to right. A
command has no arguments besides its options: one too many is rejected, but only
in the end, so that a request for help among them is still heard. -/

namespace SiliconBench.Command

/-- What belongs to an option. -/
inductive Arity where
  /-- nothing -/
  | flag
  /-- a value -/
  | value
  /-- a value that may be left out, and what stands for it then -/
  | optional (absent : String)

/-- An option of a command. -/
structure Opt where
  /-- what the command knows it by -/
  key : String
  spellings : List String
  arity : Arity
  /-- which values it takes -/
  accepts : String → Bool
  /-- the keys of the options that cannot be given together with it -/
  rivals : List String

namespace Opt

/-- An option without a value. -/
def flag (key : String) (spellings : List String) : Opt :=
  ⟨key, spellings, .flag, fun _ => true, []⟩

/-- An option whose value is any text. -/
def text (key : String) (spellings : List String) : Opt :=
  ⟨key, spellings, .value, fun _ => true, []⟩

/-- An option whose value is a whole numeral. -/
def whole (key : String) (spellings : List String) : Opt :=
  ⟨key, spellings, .value, fun s => (Decimal.readWhole? s).isSome, []⟩

/-- An option whose value is a real numeral. -/
def real (key : String) (spellings : List String) : Opt :=
  ⟨key, spellings, .value, fun s => (Decimal.readReal? s).isSome, []⟩

/-- An option whose value is one of some words. -/
def choice (key : String) (spellings words : List String) : Opt :=
  ⟨key, spellings, .value, words.contains, []⟩

/-- The option that excludes others. -/
def against (o : Opt) (rivals : List String) : Opt :=
  { o with rivals }

/-- The key of the option that asks for help. -/
def helpKey : String := "help"

/-- The option that asks for help. -/
def help : Opt :=
  flag helpKey ["-h", "--help"]

end Opt

/-- What is attached to the spelling of an option. -/
structure Attached where
  /-- whether it stands after an equals sign -/
  isAssigned : Bool
  text : List Char

/-- How an argument is taken. -/
inductive Argument where
  /-- a value, or one argument too many -/
  | word (s : String)
  /-- what ends the options -/
  | separator
  /-- an option, whether its spelling is a long one, and what is attached to it -/
  | option (o : Opt) (isLong : Bool) (attached : Option Attached)
  /-- what looks like an option and is none -/
  | stranger

/-- The option with exactly this spelling. -/
def spelled? (opts : List Opt) (cs : List Char) : Option Opt :=
  opts.find? fun o => o.spellings.contains (String.ofList cs)

/-- The options with a spelling that begins so, one entry for each such spelling. -/
def beginning (opts : List Opt) (cs : List Char) : List Opt :=
  opts.flatMap fun o => (o.spellings.filter fun s => cs.isPrefixOf s.toList).map fun _ => o

/-- What stands before the first equals sign and what stands after it. -/
def splitEquals (cs : List Char) : List Char × Option (List Char) :=
  match cs.dropWhile (· != '=') with
  | _ :: value => (cs.takeWhile (· != '='), some value)
  | [] => (cs, none)

/-- Whether what follows a dash makes a negative number of it. A line feed at the
end does no harm. -/
def isNumberBody (cs : List Char) : Bool :=
  let cs := if cs.getLast? = some '\n' then cs.dropLast else cs
  let isDigit (c : Char) : Bool := (Text.digit? c).isSome
  match cs.dropWhile isDigit with
  | [] => !cs.isEmpty
  | '.' :: rest => !rest.isEmpty && rest.all isDigit
  | _ => false

/-- An argument that begins with a dash and is spelled like no option. -/
def unspelled (body : List Char) : Argument :=
  let s := String.ofList ('-' :: body)
  if isNumberBody body || body.contains ' ' then .word s else .stranger

/-- An argument that begins with a dash, read as the beginning of an option or as
a letter with something attached. Nothing where several options begin so. -/
def abbreviated (opts : List Opt) (c : Char) (rest : List Char) : Option Argument :=
  if c = '-' then
    let (name, attached) := splitEquals ('-' :: c :: rest)
    match beginning opts name with
    | [] => some (unspelled (c :: rest))
    | [o] => some (.option o true (attached.map fun value => ⟨true, value⟩))
    | _ => none
  else
    match spelled? opts ['-', c] with
    | some o => some (.option o false (some ⟨false, rest⟩))
    | none => some (unspelled (c :: rest))

/-- How an argument is taken; nothing where it may be several options. -/
def classify (opts : List Opt) (s : String) : Option Argument :=
  match s.toList with
  | '-' :: c :: rest =>
    match spelled? opts ('-' :: c :: rest) with
    | some o => some (.option o (c == '-') none)
    | none =>
      let (name, attached) := splitEquals ('-' :: c :: rest)
      match attached, spelled? opts name with
      | some value, some o => some (.option o (c == '-') (some ⟨true, value⟩))
      | _, _ => abbreviated opts c rest
  | _ => some (.word s)

/-- How all arguments are taken. Whatever follows the separator is a word. -/
def classifyAll (opts : List Opt) : List String → Option (List Argument)
  | [] => some []
  | s :: rest =>
    if s = "--" then some (.separator :: rest.map .word)
    else do return (← classify opts s) :: (← classifyAll opts rest)

/-- What the arguments come to. -/
inductive Parsed where
  | rejected
  | help
  /-- the keys of the options that were given, with their values, in order -/
  | accepted (given : List (String × String))

/-- Takes options with their values one after the other; `given` holds those
before, backwards. -/
def take : List (Opt × String) → List (String × String) → Except Parsed (List (String × String))
  | [], given => .ok given
  | (o, value) :: rest, given =>
    if !o.accepts value then .error .rejected
    else if o.rivals.any fun key => (given.lookup key).isSome then .error .rejected
    else if o.key = Opt.helpKey then .error .help
    else take rest ((o.key, value) :: given)

/-- The options that one argument opens. -/
structure Bundle where
  flags : List Opt
  /-- the last option and its attached text; none where a letter belongs to no option -/
  last : Option (Opt × Option (List Char))

/-- Letters that are run together: what is attached to a flag begins with the
letter of the next option. `flags` holds the flags before, backwards. -/
def unbundle (opts : List Opt) (o : Opt) (isAssigned : Bool) (cs : List Char) (flags : List Opt) :
    Option Bundle :=
  match o.arity, cs with
  | .flag, [] => none
  | .flag, c :: rest =>
    if isAssigned || c == '-' then none
    else
      match spelled? opts ['-', c], rest with
      | none, _ => some ⟨(o :: flags).reverse, none⟩
      | some next, [] => some ⟨(o :: flags).reverse, some (next, none)⟩
      | some next, '=' :: value => unbundle opts next true value (o :: flags)
      | some next, d :: more => unbundle opts next false (d :: more) (o :: flags)
  | _, cs => some ⟨flags.reverse, some (o, some cs)⟩
termination_by structural cs

/-- The options that one argument opens. Nothing may be attached to the long
spelling of a flag. -/
def opened (opts : List Opt) (o : Opt) (isLong : Bool) (attached : Option Attached) :
    Option Bundle :=
  match attached, o.arity with
  | none, _ => some ⟨[], some (o, none)⟩
  | some a, .flag => if isLong then none else unbundle opts o a.isAssigned a.text []
  | some a, _ => some ⟨[], some (o, some a.text)⟩

/-- The value of an option, given what is attached to it and the arguments after
it, and the arguments that are left. -/
def valueOf (o : Opt) (attached : Option (List Char)) (rest : List Argument) :
    Option (String × List Argument) :=
  match attached, o.arity, rest with
  | some cs, _, _ => some (String.ofList cs, rest)
  | none, .flag, _ => some ("", rest)
  | none, _, .word s :: after => some (s, after)
  | none, .optional absent, _ => some (absent, rest)
  | none, .value, _ => none

theorem valueOf_length {o : Opt} {attached : Option (List Char)} {rest after : List Argument}
    {s : String} (h : valueOf o attached rest = some (s, after)) : after.length ≤ rest.length := by
  unfold valueOf at h
  split at h <;> simp_all

/-- Takes classified arguments from left to right. -/
def parseFrom (opts : List Opt) (args : List Argument) (tooMany : Bool)
    (given : List (String × String)) : Parsed :=
  match args with
  | [] => if tooMany then .rejected else .accepted given.reverse
  | .option o isLong attached :: rest =>
    match opened opts o isLong attached with
    | none => .rejected
    | some ⟨flags, none⟩ =>
      match take (flags.map fun f => (f, "")) given with
      | .error parsed => parsed
      | .ok given => parseFrom opts rest true given
    | some ⟨flags, some (last, attached)⟩ =>
      match h : valueOf last attached rest with
      | none => .rejected
      | some (value, after) =>
        match take (flags.map (fun f => (f, "")) ++ [(last, value)]) given with
        | .error parsed => parsed
        | .ok given =>
          have := valueOf_length h
          parseFrom opts after tooMany given
  | _ :: rest => parseFrom opts rest true given
termination_by args.length
decreasing_by all_goals (simp only [List.length_cons]; omega)

/-- What the arguments of a command with these options come to. -/
def parse (opts : List Opt) (args : List String) : Parsed :=
  match classifyAll opts args with
  | some classified => parseFrom opts classified false []
  | none => .rejected

/-! ## What was given -/

/-- The options that were given, with their values, in order. -/
abbrev Given := List (String × String)

namespace Given

/-- The last value of an option. -/
def last? (g : Given) (key : String) : Option String :=
  g.reverse.lookup key

/-- The last value of an option, unless it is empty. -/
def present? (g : Given) (key : String) : Option String :=
  (g.last? key).filter (!·.isEmpty)

/-- Whether an option was given. -/
def has (g : Given) (key : String) : Bool :=
  (g.last? key).isSome

/-- The last value of an option as a whole number. -/
def whole? (g : Given) (key : String) : Option Int :=
  (g.last? key).bind Decimal.readWhole?

/-- The last value of an option as a double. -/
def real? (g : Given) (key : String) : Option Float :=
  (g.last? key).bind Decimal.readReal?

end Given

end SiliconBench.Command
