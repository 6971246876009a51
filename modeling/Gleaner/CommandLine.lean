import Gleaner.Json.Access
import Gleaner.World.Basic

/-!
# Command lines

A command line is a list of arguments.  Some of them are switches, with or without a value; the others
are given to the words that the program asks for, in order.  A separator ends the switches.

* `Switch`, `Grammar` — what a program takes.
* `Grammar.sight` — what an argument is.
* `Grammar.read` — the values of a command line.
* `Commands` — a program with commands, each with a grammar of its own.
* `Refusal` — how reading ends without values; `Refusal.end` shows it.
-/

namespace Gleaner.CommandLine

/-- What a switch does. -/
inductive Role where
  | help
  | flag
  /-- It takes a value, one of these if there are any. -/
  | value (choices : List Text)
  deriving DecidableEq, Repr

/-- A switch: its names, what it does and the name of its value. -/
structure Switch where
  names : List Text
  role : Role
  key : Text
  deriving DecidableEq, Repr

/-- What a program takes: its name, the texts about it, its switches and its words. -/
structure Grammar where
  program : Text
  usage : Text
  about : Text
  switches : List Switch
  words : List Text

/-- How reading ends without values: the help was asked for, or the arguments are refused. -/
inductive Refusal where
  | help (text : Text)
  | bad (usage program message : Text)

/-- Shows why there are no values, and ends the program. -/
def Refusal.end {α : Type} : Refusal → Program α
  | .help text => do
      print [text]
      Program.exit 0
  | .bad usage program message => do
      complain [usage, "\n", program, ": error: ", message, "\n"]
      Program.exit 2

namespace Switch

/-- The switch that every program has. -/
def help : Switch :=
  ⟨["-h", "--help"], .help, "help"⟩

/-- A switch without a value. -/
def flag (name : Text) : Switch :=
  ⟨["--" ++ name], .flag, name⟩

/-- A switch with a value. -/
def value (name : Text) (choices : List Text) : Switch :=
  ⟨["--" ++ name], .value choices, name⟩

/-- A switch in a message. -/
def label (s : Switch) : Text :=
  Text.join ['/'] s.names

end Switch

/-- What an argument is. -/
inductive Sight where
  | word (t : Text)
  | separator
  /-- A switch by one of its names, with what is attached to it: after an equals sign, or directly
  behind a name of one letter. -/
  | switch (s : Switch) (isShort : Bool) (attached : Option Text) (t : Text)
  | unknown (t : Text)

/-- The argument itself. -/
def Sight.text : Sight → Text
  | .word t => t
  | .separator => ['-', '-']
  | .switch _ _ _ t => t
  | .unknown t => t

/-- A number with a minus sign: digits, or a point with digits behind it; a line end may follow. -/
def isNegative (t : Text) : Bool :=
  match t with
  | '-' :: rest =>
      let body := if rest.getLast? == some '\n' then rest.dropLast else rest
      let whole := body.takeWhile Text.isDecimal
      match body.drop whole.length with
      | [] => !whole.isEmpty
      | '.' :: fraction => !fraction.isEmpty && fraction.all Text.isDecimal
      | _ => false
  | _ => false

/-- Quoted choices in a message. -/
def quotedChoices (choices : List Text) : Text :=
  Text.join [',', ' '] (choices.map Text.quoted)

/-- The message about a value that is not among the choices. -/
def badChoice (label t : Text) (choices : List Text) : Text :=
  Text.cat ["argument ", label, ": invalid choice: ", Text.quoted t, " (choose from ",
    quotedChoices choices, ")"]

namespace Grammar

/-- Refuses the arguments. -/
def bad (g : Grammar) (message : Text) : Refusal :=
  .bad g.usage g.program message

/-- The help of a program. -/
def helpText (g : Grammar) : Text :=
  Text.cat [g.usage, "\n\n", g.about, "\n"]

/-- The names of all switches, each with its switch. -/
def names (g : Grammar) : List (Text × Switch) :=
  g.switches.flatMap fun s => s.names.map fun n => (n, s)

/-- An argument parted at its first equals sign. -/
def partAtEquals (t : Text) : Text × Option Text :=
  match Text.cut? '=' t with
  | some (name, value) => (name, some value)
  | none => (t, none)

/-- The switches that an argument may stand for when it is no full name: those whose long name it
begins, or the one whose short name begins it. -/
def candidates (g : Grammar) (t : Text) : List (Text × Sight) :=
  match t with
  | '-' :: '-' :: _ =>
      let (front, attached) := partAtEquals t
      (g.names.filter fun (n, _) => Text.startsWith n front).map fun (n, s) =>
        (n, .switch s false attached t)
  | _ =>
      g.names.filterMap fun (n, s) =>
        if n = t.take 2 then some (n, .switch s true (some (t.drop 2)) t)
        else if Text.startsWith n t then some (n, .switch s false none t)
        else none

/-- What an argument is that begins with a hyphen and is no full name. -/
def sightOther (g : Grammar) (t : Text) : Except Refusal Sight :=
  match g.candidates t with
  | [(_, s)] => .ok s
  | [] =>
      if isNegative t || List.contains t ' ' then .ok (.word t) else .ok (.unknown t)
  | several =>
      .error (g.bad (Text.cat ["ambiguous option: ", t, " could match ",
        Text.join [',', ' '] (several.map (·.1))]))

/-- What an argument is. -/
def sight (g : Grammar) (t : Text) : Except Refusal Sight :=
  if t.head? ≠ some '-' then .ok (.word t)
  else
    match g.names.lookup t with
    | some s => .ok (.switch s (t.length == 2) none t)
    | none =>
        if t.length = 1 then .ok (.word t)
        else
          let (name, attached) := partAtEquals t
          match attached, g.names.lookup name with
          | some _, some s => .ok (.switch s (name.length == 2) attached t)
          | _, _ => g.sightOther t

/-- What the arguments are; behind a separator they are all words. -/
def sights (g : Grammar) : List Text → Except Refusal (List Sight)
  | [] => .ok []
  | t :: rest =>
      if t = ['-', '-'] then .ok (.separator :: rest.map .word)
      else do
        let s ← g.sight t
        let more ← sights g rest
        return s :: more

/-- What has been read: values by their names, the words still asked for, and the arguments that
nothing takes. -/
structure State where
  values : List (Text × Json)
  wanted : List Text
  extras : List Text

/-- The value of a word that was given as these arguments: the first separator among them does not
count. -/
def wordValue (ts : List Text) : Json :=
  match ts.erase ['-', '-'] with
  | [t] => .str t
  | us => .arr (us.map .str)

/-- A separator among arguments. -/
def isSeparator : Sight → Bool
  | .separator => true
  | _ => false

/-- Gives arguments that are no switches to the words still asked for, with the separators around
them; what remains are extras. -/
def giveWords (values : List (Text × Json)) : List Text → List Sight → State
  | [], run => ⟨values, [], run.map Sight.text⟩
  | w :: ws, run =>
      let lead := run.takeWhile isSeparator
      match run.drop lead.length with
      | [] => ⟨values, w :: ws, run.map Sight.text⟩
      | s :: behind =>
          let trail := behind.takeWhile isSeparator
          let value := wordValue ((lead ++ s :: trail).map Sight.text)
          giveWords (Json.insert w value values) ws (behind.drop trail.length)

/-- Takes up a run of arguments that are no switches. -/
def State.give (st : State) (run : List Sight) : State :=
  let after := giveWords st.values st.wanted run
  { after with extras := st.extras ++ after.extras }

/-- Sets a value. -/
def State.put (st : State) (key : Text) (v : Json) : State :=
  { st with values := Json.insert key v st.values }

/-- The refusal of something attached to a switch that takes no value. -/
def ignored (g : Grammar) (s : Switch) (t : Text) : Refusal :=
  g.bad (Text.cat ["argument ", s.label, ": ignored explicit argument ", Text.quoted t])

/-- The letters behind a name of one letter are such names themselves.  The first that is none is
refused with all that follows it. -/
def cluster (g : Grammar) (s : Switch) : Text → Except Refusal Unit
  | [] => .ok ()
  | c :: rest =>
      match g.names.lookup ['-', c] with
      | some next => cluster g next rest
      | none => .error (g.ignored s (c :: rest))

/-- Refuses what is attached to a switch that takes no value, unless it is a cluster of short names. -/
def refuseAttached (g : Grammar) (s : Switch) (isShort : Bool) : Option Text → Except Refusal Unit
  | none => .ok ()
  | some t => if isShort && !t.isEmpty then g.cluster s t else .error (g.ignored s t)

/-- A switch that takes no value. -/
def plain (g : Grammar) (st : State) (s : Switch) (isShort : Bool) (attached : Option Text) :
    Except Refusal State := do
  g.refuseAttached s isShort attached
  match s.role with
  | .help => .error (.help g.helpText)
  | _ => .ok (st.put s.key (.bool true))

/-- The value of a switch.  A separator is no value, so that one in its place leaves an empty list. -/
def valued (g : Grammar) (st : State) (s : Switch) (choices : List Text) (t : Text) :
    Except Refusal State :=
  if t = ['-', '-'] then .ok (st.put s.key (.arr []))
  else if choices.isEmpty || choices.contains t then .ok (st.put s.key (.str t))
  else .error (g.bad (badChoice s.label t choices))

/-- Reads arguments from left to right; `run` are those since the last switch. -/
def readFrom (g : Grammar) (st : State) (run : List Sight) : List Sight → Except Refusal State
  | [] => .ok (st.give run)
  | .unknown t :: rest =>
      let st := st.give run
      readFrom g { st with extras := st.extras ++ [t] } [] rest
  | .switch s isShort attached _ :: rest =>
      let st := st.give run
      match s.role, attached, rest with
      | .value choices, some v, rest => do
          let st ← g.valued st s choices v
          readFrom g st [] rest
      | .value choices, none, .word v :: more => do
          let st ← g.valued st s choices v
          readFrom g st [] more
      | .value _, none, _ =>
          .error (g.bad (Text.cat ["argument ", s.label, ": expected one argument"]))
      | _, attached, rest => do
          let st ← g.plain st s isShort attached
          readFrom g st [] rest
  | s :: rest => readFrom g st (run ++ [s]) rest

/-- Reads a command line: the values, and the arguments that nothing takes. -/
def readSome (g : Grammar) (arguments : List Text) :
    Except Refusal (List (Text × Json) × List Text) := do
  let seen ← g.sights arguments
  let st ← g.readFrom ⟨[], g.words, []⟩ [] seen
  if st.wanted.isEmpty then return (st.values, st.extras)
  else
    .error (g.bad (Text.cat ["the following arguments are required: ",
      Text.join [',', ' '] st.wanted]))

/-- Refuses arguments that nothing takes. -/
def refuseExtras (g : Grammar) (extras : List Text) : Except Refusal Unit :=
  if extras.isEmpty then .ok ()
  else .error (g.bad (Text.cat ["unrecognized arguments: ", Text.join [' '] extras]))

/-- The values of a command line. -/
def read (g : Grammar) (arguments : List Text) : Except Refusal (List (Text × Json)) := do
  let (values, extras) ← g.readSome arguments
  g.refuseExtras extras
  return values

end Grammar

/-! ## Commands -/

/-- A program with commands, each with a grammar of its own. -/
structure Commands where
  main : Grammar
  commands : List (Text × Grammar)

namespace Commands

/-- Reads the command and its arguments. -/
def command (c : Commands) (extras : List Text) (arguments : List Text) :
    Except Refusal (Option (Text × List (Text × Json))) := do
  match arguments with
  | [] => do
      c.main.refuseExtras extras
      return none
  | name :: rest =>
      match c.commands.lookup name with
      | none =>
          if name = ['-', '-'] ∧ rest = [] then do
            c.main.refuseExtras (extras ++ [name])
            return none
          else .error (c.main.bad (badChoice "command" name (c.commands.map (·.1))))
      | some g => do
          let (values, more) ← g.readSome rest
          c.main.refuseExtras (extras ++ more)
          return some (name, values)

/-- Reads arguments up to the command. -/
def readFrom (c : Commands) (extras : List Text) :
    List Text → Except Refusal (Option (Text × List (Text × Json)))
  | [] => c.command extras []
  | t :: rest => do
      if t = ['-', '-'] then c.command extras (t :: rest)
      else
        match ← c.main.sight t with
        | .unknown u => readFrom c (extras ++ [u]) rest
        | .switch s isShort attached _ => do
            let _ ← c.main.plain ⟨[], [], []⟩ s isShort attached
            readFrom c extras rest
        | _ => c.command extras (t :: rest)

/-- The command of a command line with its values, `none` when there is no command. -/
def read (c : Commands) (arguments : List Text) :
    Except Refusal (Option (Text × List (Text × Json))) :=
  c.readFrom [] arguments

end Commands

end Gleaner.CommandLine
