import PagedQuery.Settings.Reference
import PagedQuery.Text.Blank
import PagedQuery.Value.Entries

/-!
Variable files: one `NAME=value` on a line. Values may stand in quotes, and may then go over
several lines; a line that cannot be read is passed over. Values may refer to the variables of the
lines before them and to those of the environment.
-/
namespace PagedQuery.Dotenv

/-- The lines of a text, however they end, with a line feed after each. -/
def unifyLineEnds : List Char → List Char
  | '\r' :: '\n' :: rest => '\n' :: unifyLineEnds rest
  | '\r' :: rest => '\n' :: unifyLineEnds rest
  | c :: rest => c :: unifyLineEnds rest
  | [] => []

/-- A text without the mark that may stand before it. -/
def dropMark : List Char → List Char
  | '\uFEFF' :: rest => rest
  | cs => cs

def skipInline (cs : List Char) : List Char := cs.dropWhile fun c => Text.isSpace c && c ≠ '\n'

abbrev Binding := String × Option String

/-- What follows the word "export" and the space after it, if they are there. -/
def skipExport (cs : List Char) : List Char :=
  let word := ['e', 'x', 'p', 'o', 'r', 't']
  let rest := cs.drop word.length
  if word.isPrefixOf cs && (skipInline rest).length < rest.length then skipInline rest else cs

/-- Reads up to the closing quote. A character after a backslash does not close. -/
def readQuoted? (quote : Char) : List Char → Option (List Char × List Char)
  | [] => none
  | '\\' :: c :: rest =>
    (readQuoted? quote rest).map fun (body, rest) => ('\\' :: c :: body, rest)
  | c :: rest =>
    if c = quote then some ([], rest)
    else (readQuoted? quote rest).map fun (body, rest) => (c :: body, rest)

/-- What an escape of a double quoted value stands for. -/
def doubleEscape? : Char → Option Char
  | '\\' => some '\\'
  | '\'' => some '\''
  | '"' => some '"'
  | 'a' => some '\x07'
  | 'b' => some '\x08'
  | 'f' => some '\x0c'
  | 'n' => some '\n'
  | 'r' => some '\r'
  | 't' => some '\t'
  | 'v' => some '\x0b'
  | _ => none

def singleEscape? : Char → Option Char
  | '\\' => some '\\'
  | '\'' => some '\''
  | _ => none

def unescape (escape? : Char → Option Char) : List Char → List Char
  | '\\' :: c :: rest =>
    match escape? c with
    | some d => d :: unescape escape? rest
    | none => '\\' :: unescape escape? (c :: rest)
  | c :: rest => c :: unescape escape? rest
  | [] => []

/-- A value without quotes, up to a comment: a number sign with white space before it. -/
def dropComment (afterSpace : Bool) : List Char → List Char
  | [] => []
  | c :: rest =>
    if c = '#' && afterSpace then [] else c :: dropComment (Text.isSpace c) rest

def readValue? (cs : List Char) : Option (List Char × List Char) :=
  match skipInline cs with
  | '\'' :: rest => (readQuoted? '\'' rest).map fun (body, rest) =>
      (unescape singleEscape? body, rest)
  | '"' :: rest => (readQuoted? '"' rest).map fun (body, rest) =>
      (unescape doubleEscape? body, rest)
  | _ =>
    let line := cs.takeWhile (· ≠ '\n')
    let value := (dropComment false line).dropWhile Text.isSpace
    some (Text.dropRightWhile Text.isSpace value, cs.drop line.length)

def readName? (cs : List Char) : Option (Option (List Char) × List Char) :=
  match cs with
  | '#' :: _ => some (none, cs)
  | '\'' :: rest =>
    let name := rest.takeWhile (· ≠ '\'')
    match rest.drop name.length with
    | _ :: rest => if name.isEmpty then none else some (some name, rest)
    | [] => none
  | _ =>
    let name := cs.takeWhile fun c => c ≠ '=' && c ≠ '#' && !Text.isSpace c
    if name.isEmpty then none else some (some name, cs.drop name.length)

/-- Reads an optional comment and the end of the line. -/
def readLineEnd? (cs : List Char) : Option (List Char) :=
  let rest := match skipInline cs with
    | '#' :: rest => rest.dropWhile (· ≠ '\n')
    | _ => cs
  match skipInline rest with
  | '\n' :: rest => some rest
  | [] => some []
  | _ => none

def skipLine (cs : List Char) : List Char := (cs.dropWhile (· ≠ '\n')).drop 1

/-- Reads one binding, or passes over a line that holds none. -/
def readBinding (cs : List Char) : Option Binding × List Char :=
  match readName? (skipExport cs) with
  | none => (none, skipLine (skipExport cs))
  | some (name, rest) =>
    let rest := skipInline rest
    let value? : Option (Option (List Char) × List Char) := match rest with
      | '=' :: rest => (readValue? rest).map fun (v, rest) => (some v, rest)
      | _ => some (none, rest)
    match value? with
    | none => (none, skipLine rest)
    | some (value, rest) =>
      match readLineEnd? rest with
      | none => (none, skipLine rest)
      | some rest => (name.map fun n => (String.ofList n, value.map String.ofList), rest)

/-- All bindings of a text, read with `fuel` lines at most. -/
def readAll : Nat → List Char → List Binding
  | 0, _ => []
  | fuel + 1, cs =>
    match cs.dropWhile Text.isSpace with
    | [] => []
    | cs =>
      let (binding, rest) := readBinding cs
      binding.toList ++ readAll fuel rest

/-- What a reference to a variable stands for: a variable of the file counts before one of the
environment, and stands for nothing when it has no value. -/
def valueOf? (environment : List (String × String)) (known : List Binding) (name : String) :
    Option String :=
  match Entries.find? name known with
  | some value => some (value.getD "")
  | none => Entries.find? name environment

/-- Bindings with their references replaced, each seeing those before it. One that is bound again
keeps its place and takes the later value. -/
def resolve (environment : List (String × String)) (bindings : List Binding) : List Binding :=
  bindings.foldl (fun known (name, value) =>
    Entries.insert name (value.map (Reference.expandText (valueOf? environment known))) known) []

def read (environment : List (String × String)) (text : String) : List Binding :=
  let cs := unifyLineEnds (dropMark text.toList)
  resolve environment (readAll (cs.length + 1) cs)

end PagedQuery.Dotenv
