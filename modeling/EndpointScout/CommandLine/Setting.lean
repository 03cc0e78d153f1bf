import EndpointScout.Url.Parser

/-! What can be set on the command line, and what is wrong with a line that cannot be
read. -/
namespace EndpointScout.CommandLine

inductive Setting where
  | url
  | depth
  | filterStatus
  | out
  | probe
  | wayback
  | silent
  | verbose
  | noColor
  | help
  | version
deriving Repr, DecidableEq

namespace Setting

def named : List Setting :=
  [depth, filterStatus, out, probe, wayback, silent, verbose, noColor, help, version]

def long : Setting → String
  | url => ""
  | depth => "depth"
  | filterStatus => "filter-status"
  | out => "out"
  | probe => "probe"
  | wayback => "wayback"
  | silent => "silent"
  | verbose => "verbose"
  | noColor => "no-color"
  | help => "help"
  | version => "version"

def short? : Setting → Option Char
  | out => some 'o'
  | silent => some 'q'
  | verbose => some 'v'
  | help => some 'h'
  | version => some 'V'
  | _ => none

def valueName? : Setting → Option String
  | url => some "<URL>"
  | depth => some "<DEPTH>"
  | filterStatus => some "<CODES>"
  | out => some "<FILE>"
  | _ => none

def ofLong? (name : Text) : Option Setting :=
  if name == "quiet".toList then some silent else named.find? fun s => s.long.toList == name

def ofShort? (c : Char) : Option Setting := named.find? fun s => s.short? == some c

def text (s : Setting) : Text :=
  match s, s.valueName? with
  | url, _ => "<URL>".toList
  | s, some v => "--".toList ++ s.long.toList ++ ' ' :: v.toList
  | s, none => "--".toList ++ s.long.toList

end Setting

inductive NumberFault where
  | empty
  | digit
  | overflow
deriving Repr, DecidableEq

def NumberFault.message : NumberFault → Text
  | empty => "cannot parse integer from empty string".toList
  | digit => "invalid digit found in string".toList
  | overflow => "number too large to fit in target type".toList

inductive UsageError where
  | help
  | version
  | missingTarget
  | unknown (argument : Text)
  | invalidUrl (value : Text) (cause : Url.Error)
  | invalidDepth (value : Text) (cause : NumberFault)
  | missingValue (setting : Setting)
  | unwantedValue (setting : Setting) (value : Text)
  | repeated (setting : Setting)
deriving Repr, DecidableEq

namespace UsageError

def invalid (value : Text) (s : Setting) (cause : Text) : Text :=
  "invalid value '".toList ++ value ++ "' for '".toList ++ s.text ++ "': ".toList ++ cause

def message : UsageError → Text
  | help => []
  | version => []
  | missingTarget => "the following required arguments were not provided:\n  <URL>".toList
  | unknown a => "unexpected argument '".toList ++ a ++ "' found".toList
  | invalidUrl v e => invalid v .url e.message
  | invalidDepth v e => invalid v .depth e.message
  | missingValue s =>
    "a value is required for '".toList ++ s.text ++ "' but none was supplied".toList
  | unwantedValue s v =>
    "unexpected value '".toList ++ v ++ "' for '".toList ++ s.text ++
      "' found; no more were expected".toList
  | repeated s => "the argument '".toList ++ s.text ++ "' cannot be used multiple times".toList

end UsageError

end EndpointScout.CommandLine
