import IngressPlane.Shell.Expansion

/-!
Redirections: what the descriptors of a command are connected to while it runs.
-/
namespace IngressPlane.Shell

open Text

inductive RedirectError
  | noFile (path : String)
  | noDirectory (path : String)
  | isDirectory (path : String)
  | exists (path : String)
  | notOpen (number : String)
  deriving DecidableEq

def RedirectError.message : RedirectError → String
  | .noFile path => "cannot open " ++ path ++ ": No such file"
  | .noDirectory path => "cannot create " ++ path ++ ": Directory nonexistent"
  | .isDirectory path => "cannot create " ++ path ++ ": Is a directory"
  | .exists path => "cannot create " ++ path ++ ": File exists"
  | .notOpen number => number ++ ": Bad file descriptor"

namespace Machine

variable (m : Machine)

def copyDescriptor (descriptor source : Nat) : Except RedirectError Machine :=
  match m.descriptors.lookup source with
  | none => .error (.notOpen source.repr)
  | some number =>
    .ok { m with descriptors := (descriptor, number) :: m.descriptors.filter (·.1 ≠ descriptor) }

def closeDescriptor (descriptor : Nat) : Machine :=
  { m with descriptors := m.descriptors.filter (·.1 ≠ descriptor) }

def supply (descriptor : Nat) (text : String) : Machine :=
  { m with pipes := m.pipes.push text }.connect descriptor { target := .pipe m.pipes.size }

def deviceDescriptor? (path : String) : Option Nat :=
  if path = "/dev/stdin" then some 0
  else if path = "/dev/stdout" then some 1
  else if path = "/dev/stderr" then some 2
  else if hasPrefix "/dev/fd/" path then natural? (path.toList.drop 8)
  else none

def openForReading (descriptor : Nat) (path : String) : Except RedirectError Machine :=
  match deviceDescriptor? path with
  | some source => m.copyDescriptor descriptor source
  | none =>
    if m.files.contains (m.absolute path) && path ≠ "" then
      .ok (m.connect descriptor { target := .file (m.absolute path) })
    else if m.exists? path then .ok (m.connect descriptor { target := .nothing })
    else .error (.noFile path)

def openForWriting (descriptor : Nat) (path : String) (append truncate : Bool) :
    Except RedirectError Machine :=
  let whole := m.absolute path
  match deviceDescriptor? path with
  | some source => m.copyDescriptor descriptor source
  | none =>
    if whole = "/dev/null" then .ok (m.connect descriptor { target := .nothing })
    else if path = "" || !m.hasDirectory (m.parent path) then .error (.noDirectory path)
    else if m.hasDirectory path then .error (.isDirectory path)
    else
      let contents := if truncate then "" else (m.files.get? whole).getD ""
      .ok ({ m with files := m.files.insert whole contents }.connect descriptor
        { target := .file whole, append })

end Machine

def redirectOne (substitute : Substitution) (m : Machine) (redirection : Redirection) :
    Machine × Option RedirectError :=
  let opened (m : Machine) (result : Except RedirectError Machine) : Machine × Option RedirectError :=
    match result with
    | .ok after => (after, none)
    | .error e => (m, some e)
  match redirection with
  | .file descriptor mode name =>
    let (path, m) := expandWord substitute m name
    if !m.isRunning then (m, none)
    else
      match mode with
      | .input => opened m (m.openForReading descriptor path)
      | .append => opened m (m.openForWriting descriptor path true false)
      | .both => opened m (m.openForWriting descriptor path false false)
      | .output forced =>
        if m.settings.contains 'C' && !forced && m.isRegular path then (m, some (.exists path))
        else opened m (m.openForWriting descriptor path false true)
  | .copy descriptor source =>
    let (text, m) := expandWord substitute m source
    if !m.isRunning then (m, none)
    else if text = "-" then (m.closeDescriptor descriptor, none)
    else
      match text.toList, text.toList.all isDigit with
      | [d], true => opened m (m.copyDescriptor descriptor (digitsValue [d]))
      | _, _ => ({ m with line := m.reached }.abort "Syntax error: Bad fd number", none)
  | .document descriptor number =>
    let (text, m) := expandWord substitute m (m.documents.getD number [])
    (m.supply descriptor text, none)

def redirect (substitute : Substitution) (m : Machine) :
    List Redirection → Machine × Option RedirectError
  | [] => (m, none)
  | r :: rest =>
    match redirectOne substitute m r with
    | (m, none) => if m.isRunning then redirect substitute m rest else (m, none)
    | failed => failed

end IngressPlane.Shell
