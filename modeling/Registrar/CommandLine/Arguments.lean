/-
What a command line asks for. A flag takes the plain word behind it when it needs a value. Of the
words that are left, the first ones that stand together are the two folders and the namespace; all
others are too many.
-/
import Registrar.CommandLine.Word
import Registrar.Files.Path

namespace Registrar.CommandLine

/-- A word with what belongs to it. -/
inductive Item where
  /-- A word that stands for itself: a plain one or the divider. -/
  | loose (text : String)
  | setting (f : Flag) (value : Option String)
  | unknown (text : String)
  | fault (e : UsageError)
  deriving DecidableEq, Repr

/-- What is to be generated, and how. -/
structure Arguments where
  input : String
  output : String
  ns : String
  verbose : Bool
  dryRun : Bool
  config : Option Path
  logFile : Option Path
  deriving DecidableEq, Repr

/-- What a command line asks for. -/
inductive Wish where
  | help
  | generate (a : Arguments)
  deriving DecidableEq, Repr

/-- The flags that letters behind a letter call. The first letter that calls none is a fault. -/
def cluster (f : Flag) : List Char → List Item
  | [] => [.setting f none]
  | c :: rest =>
    match Flag.ofLetter? c with
    | some g => .setting f none :: cluster g rest
    | none => [.fault (.unwantedValue f (String.ofList (c :: rest)))]

/-- The flags that letters behind a letter call. The first letter that calls none begins an unknown
word; a dash, or an equals sign, is a fault there. -/
def collectingCluster (f : Flag) : List Char → List Item
  | [] => [.setting f none]
  | '=' :: value => [.fault (.unwantedValue f (String.ofList value))]
  | '-' :: rest => [.fault (.unwantedValue f (String.ofList ('-' :: rest)))]
  | c :: rest =>
    match Flag.ofLetter? c with
    | some g => .setting f none :: collectingCluster g rest
    | none => [.setting f none, .unknown (String.ofList ('-' :: c :: rest))]

/-- The items of a letter's flag and what is behind the letter. When there is a fault among them,
the others do not count. -/
def shortItems (collects : Bool) (f : Flag) (rest : String) : List Item :=
  let items :=
    if collects then collectingCluster f rest.toList
    else match rest.toList with
      | ['='] => [.fault (.unwantedValue f "")]
      | '=' :: value => cluster f value
      | letters => cluster f letters
  match items.getLast? with
  | some (.fault e) => [.fault e]
  | _ => items

/-- The items of words. -/
def items (collects : Bool) : List Word → List Item
  | [] => []
  | .plain s :: rest => .loose s :: items collects rest
  | .divider :: rest => .loose "--" :: items collects rest
  | .unknown s :: rest => .unknown s :: items collects rest
  | .short f letters :: rest => shortItems collects f letters ++ items collects rest
  | .long f (some value) :: rest =>
    if f.takesValue then .setting f (some value) :: items collects rest
    else .fault (.unwantedValue f value) :: items collects rest
  | .long f none :: rest =>
    if f.takesValue then
      match rest with
      | .plain value :: rest => .setting f (some value) :: items collects rest
      | rest => .fault (.noValue f) :: items collects rest
    else .setting f none :: items collects rest

namespace Item

def isLoose : Item → Bool
  | loose _ => true
  | _ => false

/-- The word of an item that no flag has taken. -/
def text? : Item → Option String
  | loose s | unknown s => some s
  | _ => none

/-- Whether a flag is set with this item, and to what. -/
def valueOf (f : Flag) : Item → Option (Option String)
  | setting g value => if f = g then some value else none
  | _ => none

/-- What ends the reading at this item, when it does. -/
def ends? : Item → Option (Except UsageError Wish)
  | setting .help _ => some (.ok .help)
  | fault e => some (.error e)
  | _ => none

end Item

/-- How many of the words in front make one argument: a word, and the divider beside it. The
divider stands for itself when it comes a second time. -/
def argumentLength : (passed : Bool) → List String → Nat
  | false, ["--"] => 1
  | false, "--" :: _ :: _ => 2
  | false, _ :: "--" :: _ => 2
  | _, [] => 0
  | _, _ :: _ => 1

/-- The arguments among words, at most `count`, and the words behind them. An argument that
is nothing but the divider is missing. -/
def takeArguments : (count : Nat) → (passed : Bool) → List String → List (Option String) × List String
  | 0, _, words => ([], words)
  | count + 1, passed, words =>
    let n := argumentLength passed words
    let own := words.take n
    let (others, rest) := takeArguments count (passed || own.contains "--") (words.drop n)
    ((own.erase "--").head? :: others, rest)

/-- What items ask for. -/
def ask (items : List Item) : Except UsageError Wish :=
  match items.findSome? Item.ends? with
  | some wish => wish
  | none =>
    let before := items.takeWhile (!·.isLoose)
    let after := items.dropWhile (!·.isLoose)
    let run := (after.takeWhile Item.isLoose).filterMap Item.text?
    let (arguments, others) := takeArguments 3 false run
    let extra := before.filterMap Item.text? ++ others ++
      (after.dropWhile Item.isLoose).filterMap Item.text?
    let last := fun f => (items.filterMap (Item.valueOf f)).getLast?
    if !extra.isEmpty then .error (.unrecognized extra)
    else
      match arguments.map fun a => a.filter (!·.isEmpty) with
      | [some input, some output, some ns] =>
        .ok (.generate {
          input, output, ns
          verbose := (last .verbose).isSome
          dryRun := (last .dryRun).isSome
          config := (last .config).join.map Path.ofText
          logFile := (last .logFile).join.map Path.ofText })
      | _ => .ok .help

/-- What the words of a command line ask for. -/
def read (collects : Bool) (words : List String) : Except UsageError Wish := do
  ask (items collects (← Word.ofTexts words))

end Registrar.CommandLine
