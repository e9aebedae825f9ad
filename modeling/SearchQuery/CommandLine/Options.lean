import SearchQuery.Number.Literal

namespace SearchQuery

-- The command line as data. Words are taken from left to right, and the first that does not fit
-- ends the reading.
structure Options where
  clauses : Option String
  settings : Option String
  index : Option String
  page : Option Int
  perPage : Option Int
  orderBy : List String
  scriptScore : Option String
  count : Bool
  pretty : Bool
  deriving DecidableEq

inductive Usage where
  | options (options : Options)
  | help
  | refused

inductive OptionName where
  | clauses
  | settings
  | index
  | page
  | perPage
  | orderBy
  | scriptScore

inductive FlagName where
  | count
  | pretty

def OptionName.ofName? (name : String) : Option OptionName :=
  if name = "clauses" then some .clauses
  else if name = "settings" then some .settings
  else if name = "index" then some .index
  else if name = "page" then some .page
  else if name = "per-page" then some .perPage
  else if name = "order-by" then some .orderBy
  else if name = "script-score" then some .scriptScore
  else none

def FlagName.ofName? (name : String) : Option FlagName :=
  if name = "count" then some .count
  else if name = "pretty" then some .pretty
  else none

def signedOfText? (text : String) : Option Int :=
  match text.toList with
  | '-' :: digits => (magnitude? digits).bind fun n => fit (-(n : Int))
  | '+' :: digits => (magnitude? digits).bind fun n => fit n
  | digits => (magnitude? digits).bind fun n => fit n
where
  magnitude? (digits : List Char) : Option Nat :=
    if digits.isEmpty ∨ digits.any (fun c => !('0' ≤ c && c ≤ '9')) then none
    else some (digits.foldl (fun n c => n * 10 + (c.toNat - '0'.toNat)) 0)
  fit (n : Int) : Option Int := (Number.integer n).signed?

namespace Options

def empty : Options := ⟨none, none, none, none, none, [], none, false, false⟩

def splitCommas (text : String) : List String :=
  (text.toList.splitOn ',').map String.ofList

def unset {α : Type} (slot : Option α) (value : Option α) : Option (Option α) :=
  if slot.isSome ∨ value.isNone then none else some value

def path? (text : String) : Option String := if text.isEmpty then none else some text

-- Sets an option; only sort keys may come again.
def set? (options : Options) (name : OptionName) (text : String) : Option Options :=
  match name with
  | .clauses => (unset options.clauses (some text)).map ({ options with clauses := · })
  | .settings => (unset options.settings (path? text)).map ({ options with settings := · })
  | .index => (unset options.index (some text)).map ({ options with index := · })
  | .page => (unset options.page (signedOfText? text)).map ({ options with page := · })
  | .perPage => (unset options.perPage (signedOfText? text)).map ({ options with perPage := · })
  | .orderBy => some { options with orderBy := options.orderBy ++ splitCommas text }
  | .scriptScore =>
    (unset options.scriptScore (some text)).map ({ options with scriptScore := · })

def raise? (options : Options) (name : FlagName) : Option Options :=
  match name with
  | .count => if options.count then none else some { options with count := true }
  | .pretty => if options.pretty then none else some { options with pretty := true }

inductive Word where
  | long (name : String) (value : Option String)
  | help
  | rest
  | other

def Word.ofText (text : String) : Word :=
  match text.toList with
  | ['-', '-'] => .rest
  | '-' :: 'h' :: _ => .help
  | '-' :: '-' :: chars =>
    let name := String.ofList (chars.takeWhile (· ≠ '='))
    match chars.dropWhile (· ≠ '=') with
    | [] => if name = "help" then .help else .long name none
    | _ :: value => .long name (some (String.ofList value))
  | _ => .other

-- A dash and more does not stand for a value; a single dash does.
def isValue (text : String) : Bool :=
  match text.toList with
  | '-' :: _ :: _ => false
  | _ => true

def readWords (options : Options) : List String → Usage
  | [] => .options options
  | text :: words =>
    match Word.ofText text with
    | .help => .help
    | .rest => if words.isEmpty then .options options else .refused
    | .other => .refused
    | .long name value =>
      match OptionName.ofName? name, FlagName.ofName? name, value with
      | some option, _, some value =>
        match options.set? option value with
        | some options => readWords options words
        | none => .refused
      | some option, _, none =>
        match words with
        | [] => .refused
        | value :: words =>
          if isValue value then
            match options.set? option value with
            | some options => readWords options words
            | none => .refused
          else .refused
      | none, some flag, none =>
        match options.raise? flag with
        | some options => readWords options words
        | none => .refused
      | _, _, _ => .refused

def fromEnvironment (environment : String → Option String) (options : Options) :
    Option Options := do
  let settings ← match options.settings, environment "SQUIDEX_SETTINGS" with
    | some path, _ => some (some path)
    | none, some text => (path? text).map some
    | none, none => some none
  return { options with
    clauses := options.clauses.or (environment "SQUIDEX_CLAUSES")
    settings
    index := options.index.or (environment "SQUIDEX_INDEX") }

end Options

def Usage.read (words : List String) (environment : String → Option String) : Usage :=
  match Options.empty.readWords words with
  | .options given =>
    match given.fromEnvironment environment with
    | some completed => .options completed
    | none => .refused
  | usage => usage

end SearchQuery
