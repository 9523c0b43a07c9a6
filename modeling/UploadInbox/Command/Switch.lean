import UploadInbox.Text.Basic

/-!
# Switches

The switches of the command line and the pages that tell of them.

Source: the fields of `Args` with their explanations.
-/
namespace UploadInbox.Command

def program : Text := "s3inbox"

def version : Text := "0.1.0"

inductive Switch where
  | config | daemon | test | upgrade | help | version
  deriving DecidableEq, Repr

/-- The file that is read where none is named. -/
def standardConfig : Text := "config.yaml"

namespace Switch

/-- All switches, in the order in which they are told of. -/
def all : List Switch := [config, daemon, test, upgrade, help, version]

/-- The long name of a switch, which two hyphens precede. -/
def long : Switch → Text
  | config => "config"
  | daemon => "daemon"
  | test => "test"
  | upgrade => "upgrade"
  | help => "help"
  | version => "version"

/-- The short name of a switch, which one hyphen precedes. -/
def short? : Switch → Option Char
  | config => some 'c'
  | daemon => some 'd'
  | help => some 'h'
  | version => some 'V'
  | test | upgrade => none

def value? : Switch → Option Text
  | config => some "CONFIG"
  | _ => none

def purpose : Switch → Text
  | config => "Path to configuration file [default: " ++ standardConfig ++ "]"
  | daemon => "Daemon mode"
  | test => "Test configuration and exit"
  | upgrade => "Upgrade workers gracefully"
  | help => "Print help"
  | version => "Print version"

def ofLong? (name : Text) : Option Switch := all.find? fun switch => switch.long = name

def ofShort? (c : Char) : Option Switch := all.find? fun switch => switch.short? = some c

/-- A switch with the value that it takes. -/
def shown (switch : Switch) : Text :=
  "--" ++ switch.long ++
    match switch.value? with
    | some name => " <" ++ name ++ ">"
    | none => []

def names (switch : Switch) : Text :=
  (match switch.short? with
    | some c => ['-', c, ',', ' ']
    | none => "    ") ++ switch.shown

def nameWidth : Nat := (all.map fun switch => switch.names.length).foldl max 0

def line (switch : Switch) : Text :=
  "  " ++ switch.names ++ List.replicate (nameWidth - switch.names.length) ' ' ++ "  " ++
    switch.purpose

end Switch

/-- The line on how the program is called with some switches, or with any. -/
def usage (switches : List Switch) : Text :=
  "Usage: " ++ program ++ ' ' ::
    if switches.isEmpty then "[OPTIONS]" else Text.join " " (switches.map Switch.shown)

def helpPage : Text :=
  let head : List Text := [
    "Upload-only S3 inbox proxy built with Cloudflare's Pingora framework", [], usage [], [],
    "Options:"]
  (head ++ Switch.all.map Switch.line).flatMap fun line => line ++ ['\n']

def versionPage : Text := program ++ ' ' :: version ++ ['\n']

end UploadInbox.Command
