/-!
# Arguments

What the words after the program's name ask for. Options may stand anywhere; after two dashes every
word is an operand. The options for more messages and for leaving configuration files aside may
come before the command or after it; all others belong to a command.

## Main definitions

* `Arguments`: what is asked for.
* `Arguments.Level.read`: the options and operands of a list of words.
* `Arguments.parse`: reads the words.
-/

namespace ContextQuery

/-- How a query is shown. -/
inductive Format where
  | cql
  | xcql
  | tree
  | json
  deriving DecidableEq

/-- What the program can do. -/
inductive Command where
  | parse (queries : List String) (format : Format)
  | tokens (query : String)
  | xcql (file : Option String) (asXcql : Bool)
  | check (queries : List String)
  | config
  | init (global force : Bool)
  deriving DecidableEq

/-- What is asked for. -/
structure Arguments where
  /-- How often more messages were asked for. -/
  verbosity : Nat
  /-- Configuration files are left aside. -/
  noConfig : Bool
  command : Command
  deriving DecidableEq

namespace Arguments

/-- Why words are refused. -/
inductive Refusal where
  /-- Two options exclude each other, or one is given twice. -/
  | conflict
  /-- An option is not known, or there are too many operands. -/
  | unknownArgument
  /-- An option that takes no value has one. -/
  | surplusValue
  /-- An explanation is asked for. -/
  | help
  /-- There are no words. -/
  | nothingGiven
  | missingCommand
  | unknownCommand
  | missingOperand
  | invalidOperand
  deriving DecidableEq

/-- The exit status after a refusal. -/
def Refusal.status : Refusal → Nat :=
  fun _ => 2

/-! ## Options and operands -/

/-- Which options and operands are taken. -/
structure Level where
  /-- The names of the options that are on or off. -/
  switches : List String
  /-- The largest number of operands, if there is one. -/
  capacity : Option Nat
  /-- An empty operand is refused. -/
  refusesEmpty : Bool := false

/-- The options and operands seen so far, the last operand first. -/
structure Seen where
  verbosity : Nat := 0
  switches : List String := []
  operands : List String := []

namespace Level

/-- Takes a known option. It is refused after an empty operand that is refused. -/
def takeOption (level : Level) (seen : Seen) (name : String) : Except Refusal Seen :=
  if level.refusesEmpty && seen.operands.contains "" then .error .invalidOperand
  else if name = "help" then .error .help
  else if name = "verbose" then .ok { seen with verbosity := min 255 (seen.verbosity + 1) }
  else if seen.switches.contains name then .error .conflict
  else .ok { seen with switches := name :: seen.switches }

/-- Takes an option after two dashes. -/
def takeLong (level : Level) (seen : Seen) (text : List Char) : Except Refusal Seen :=
  let name := String.ofList (text.takeWhile (· ≠ '='))
  if name = "help" || name = "verbose" || level.switches.contains name then
    if text.contains '=' then .error .surplusValue else level.takeOption seen name
  else .error .unknownArgument

/-- Takes options after one dash, a letter each. -/
def takeLetters (level : Level) (seen : Seen) : List Char → Except Refusal Seen
  | [] => .ok seen
  | c :: cs =>
    if c = 'v' then (level.takeOption seen "verbose").bind fun seen => level.takeLetters seen cs
    else if c = 'h' then level.takeOption seen "help"
    else .error .unknownArgument

/-- Takes an operand. -/
def takeOperand (level : Level) (seen : Seen) (word : String) : Except Refusal Seen :=
  if level.capacity.any (· ≤ seen.operands.length) then .error .unknownArgument
  else .ok { seen with operands := word :: seen.operands }

/-- Takes operands. -/
def takeOperands (level : Level) (seen : Seen) : List String → Except Refusal Seen
  | [] => .ok seen
  | word :: rest => (level.takeOperand seen word).bind fun seen => level.takeOperands seen rest

/-- Takes a word that is not two dashes alone. -/
def take (level : Level) (seen : Seen) (word : String) : Except Refusal Seen :=
  match word.toList with
  | '-' :: '-' :: text => level.takeLong seen text
  | '-' :: c :: cs => level.takeLetters seen (c :: cs)
  | _ => level.takeOperand seen word

/-- All words are taken; an empty operand may be refused now. -/
def close (level : Level) (seen : Seen) : Except Refusal Seen :=
  if level.refusesEmpty && seen.operands.contains "" then .error .invalidOperand else .ok seen

/-- Takes words. -/
def read (level : Level) (seen : Seen) : List String → Except Refusal Seen
  | [] => level.close seen
  | word :: rest =>
    if word = "--" then (level.takeOperands seen rest).bind level.close
    else (level.take seen word).bind fun seen => level.read seen rest

end Level

/-! ## Commands -/

/-- The commands by name. -/
inductive Verb where
  | parse
  | tokens
  | xcql
  | check
  | config
  | init
  deriving DecidableEq

namespace Verb

/-- The word for a command. -/
def name : Verb → String
  | parse => "parse"
  | tokens => "tokens"
  | xcql => "xcql"
  | check => "check"
  | config => "config"
  | init => "init"

/-- All commands. -/
def all : List Verb :=
  [parse, tokens, xcql, check, config, init]

/-- The command with a name. -/
def ofName? (word : String) : Option Verb :=
  all.find? (·.name = word)

/-- The options and operands of a command. -/
def level : Verb → Level
  | parse => ⟨["no-config", "xcql", "tree", "json"], none, false⟩
  | tokens => ⟨["no-config"], some 1, false⟩
  | xcql => ⟨["no-config", "xcql"], some 1, true⟩
  | check => ⟨["no-config"], none, false⟩
  | config => ⟨["no-config"], some 0, false⟩
  | init => ⟨["no-config", "global", "force"], some 0, false⟩

/-- The format that switches ask for; at most one may be given. -/
def format (switches : List String) : Except Refusal Format :=
  match switches.contains "xcql", switches.contains "tree", switches.contains "json" with
  | false, false, false => .ok .cql
  | true, false, false => .ok .xcql
  | false, true, false => .ok .tree
  | false, false, true => .ok .json
  | _, _, _ => .error .conflict

/-- What a command with its options and operands asks for. -/
def command (verb : Verb) (seen : Seen) : Except Refusal Command :=
  match verb with
  | parse => (format seen.switches).map fun format => .parse seen.operands.reverse format
  | tokens =>
    match seen.operands with
    | query :: _ => .ok (.tokens query)
    | [] => .error .missingOperand
  | xcql => .ok (.xcql seen.operands.head? (seen.switches.contains "xcql"))
  | check => .ok (.check seen.operands.reverse)
  | config => .ok .config
  | init => .ok (.init (seen.switches.contains "global") (seen.switches.contains "force"))

end Verb

/-- The answer to a call for help, which may name a command. -/
def helpRefusal : List String → Refusal
  | [] => .help
  | [word] => if word = "help" || (Verb.ofName? word).isSome then .help else .unknownCommand
  | _ => .unknownCommand

/-- What is asked for by a command and the words after it, given the options before it. -/
def finish (before : Seen) (verb : Verb) (words : List String) : Except Refusal Arguments := do
  let seen ← verb.level.read {} words
  let command ← verb.command seen
  return {
    verbosity := if seen.verbosity > 0 then seen.verbosity else before.verbosity
    noConfig := before.switches.contains "no-config" || seen.switches.contains "no-config"
    command := command }

/-- The options that may come before a command. -/
def outerLevel : Level :=
  ⟨["no-config"], some 0, false⟩

/-- The answer to words without a command. -/
def withoutCommand (seen : Seen) : Refusal :=
  if seen.verbosity = 0 && seen.switches.isEmpty then .nothingGiven else .missingCommand

/-- Reads words, given the options seen so far. -/
def readWords (seen : Seen) : List String → Except Refusal Arguments
  | [] => .error (withoutCommand seen)
  | word :: rest =>
    match Verb.ofName? word with
    | some verb => finish seen verb rest
    | none =>
      if word = "help" then .error (helpRefusal rest)
      else if word = "--" then
        match rest with
        | [] => .error (withoutCommand seen)
        | next :: _ =>
          if next = "help" || (Verb.ofName? next).isSome then .error .unknownArgument
          else .error .unknownCommand
      else if word ≠ "-" && word.toList.head? = some '-' then
        (outerLevel.take seen word).bind fun seen => readWords seen rest
      else .error .unknownCommand

/-- Reads the words after the program's name. -/
def parse (words : List String) : Except Refusal Arguments :=
  readWords {} words

end Arguments

end ContextQuery
